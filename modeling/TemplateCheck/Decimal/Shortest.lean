import TemplateCheck.Decimal.Binary64

/-! # Shortest decimal text

A finite number is written with the fewest decimal digits that read back as the
same number; of two such decimals the nearer one is taken. How the digits are
laid out, positionally or with an exponent, is a `Notation` of the format that
writes them.
-/

namespace TemplateCheck.Decimal

/-- A positive decimal `digits · 10 ^ exponent`. -/
structure Numeral where
  digits : Nat
  exponent : Int
  deriving Repr, DecidableEq

/-- The quotient of `digits · 10 ^ exponent`. -/
def Numeral.quotient (decimal : Numeral) : Nat × Nat :=
  if decimal.exponent < 0 then (decimal.digits, Nat.pow 10 decimal.exponent.natAbs)
  else (decimal.digits * Nat.pow 10 decimal.exponent.natAbs, 1)

/-- How many digits the whole part of a positive quotient has, or minus the
number of zeros after the point when it has none. -/
def magnitudeOf (numerator denominator : Nat) : Int :=
  if denominator ≤ numerator then
    ((Nat.toDigits 10 (numerator / denominator)).length : Int)
  else
    1 - ((Nat.toDigits 10 ((denominator - 1) / numerator)).length : Int)

/-- The two decimals around a quotient on the grid of a given digit count. -/
def neighbours (numerator denominator : Nat) (count : Nat) : Numeral × Numeral :=
  let exponent := magnitudeOf numerator denominator - (count : Int)
  let below :=
    if exponent < 0 then numerator * Nat.pow 10 exponent.natAbs / denominator
    else numerator / (denominator * Nat.pow 10 exponent.natAbs)
  (⟨below, exponent⟩, ⟨below + 1, exponent⟩)

/-- Distance between a decimal and a quotient, as a numerator over the common
denominator of the two. -/
def distance (decimal : Numeral) (numerator denominator : Nat) : Nat × Nat :=
  let (top, bottom) := decimal.quotient
  let left := top * denominator
  let right := numerator * bottom
  (if left < right then right - left else left - right, bottom * denominator)

/-- The first decimal, if it is at most as far away as the second. -/
def nearer (first second : Numeral) (numerator denominator : Nat) : Numeral :=
  let (firstTop, firstBottom) := distance first numerator denominator
  let (secondTop, secondBottom) := distance second numerator denominator
  if firstTop * secondBottom < secondTop * firstBottom then first
  else if secondTop * firstBottom < firstTop * secondBottom then second
  else if first.digits % 2 = 0 then first else second

/-- Whether a decimal reads back as a given positive number. -/
def readsBack (decimal : Numeral) (mantissa : Nat) (exponent : Int) : Bool :=
  decimal.digits ≠ 0 &&
    Binary64.ofDecimal false decimal.digits decimal.exponent == .finite false mantissa exponent

/-- The best decimal with a given number of digits, if one reads back. -/
def candidate (mantissa : Nat) (exponent : Int) (count : Nat) : Option Numeral :=
  let (numerator, denominator) := Binary64.magnitude mantissa exponent
  let (below, above) := neighbours numerator denominator count
  match readsBack below mantissa exponent, readsBack above mantissa exponent with
  | true, true => some (nearer below above numerator denominator)
  | true, false => some below
  | false, true => some above
  | false, false => none

/-- Move trailing zeros from the digits to the exponent. -/
def Numeral.reduce : Nat → Numeral → Numeral
  | 0, decimal => decimal
  | steps + 1, decimal =>
      if decimal.digits ≠ 0 && decimal.digits % 10 == 0 then
        Numeral.reduce steps ⟨decimal.digits / 10, decimal.exponent + 1⟩
      else decimal

/-- The shortest decimal of a positive number. Seventeen digits always read
back. -/
def shortest (mantissa : Nat) (exponent : Int) : Numeral :=
  let found := (List.range 17).findSome? fun index => candidate mantissa exponent (index + 1)
  (found.getD ⟨mantissa, 0⟩).reduce 20

/-- Where a format writes numbers positionally, and with an exponent otherwise.
The bounds are on the power of ten of the first digit. -/
structure Notation where
  positional : Int → Bool
  infinity : String
  notANumber : String

def digitText (number : Nat) : List Char :=
  Nat.toDigits 10 number

/-- Digits with a point, and with at least one digit on each side of it. -/
def positionalText (decimal : Numeral) : List Char :=
  let digits := digitText decimal.digits
  if 0 ≤ decimal.exponent then
    digits ++ List.replicate decimal.exponent.natAbs '0' ++ ['.', '0']
  else
    let places := decimal.exponent.natAbs
    if places < digits.length then
      digits.take (digits.length - places) ++ '.' :: digits.drop (digits.length - places)
    else
      '0' :: '.' :: List.replicate (places - digits.length) '0' ++ digits

/-- One digit before the point, the others after it, and a signed exponent. -/
def exponentText (decimal : Numeral) : List Char :=
  let digits := digitText decimal.digits
  let power : Int := decimal.exponent + (digits.length : Int) - 1
  let mantissa := match digits with
    | [] => ['0']
    | [digit] => [digit]
    | digit :: rest => digit :: '.' :: rest
  mantissa ++ 'e' :: (if power < 0 then '-' else '+') :: digitText power.natAbs

/-- The text of a number in a notation. -/
def write (layout : Notation) : Binary64 → String
  | .infinite negative => (if negative then "-" else "") ++ layout.infinity
  | .notANumber => layout.notANumber
  | .finite negative mantissa exponent =>
      let sign := if negative then ['-'] else []
      let body :=
        if mantissa = 0 then ['0', '.', '0']
        else
          let decimal := shortest mantissa exponent
          let power : Int := decimal.exponent + ((digitText decimal.digits).length : Int) - 1
          if layout.positional power then positionalText decimal else exponentText decimal
      String.ofList (sign ++ body)

/-- Notation of data: positional from `10 ^ -5` up to sixteen whole digits. -/
def dataNotation : Notation where
  positional power := -5 ≤ power && power < 16
  infinity := "null"
  notANumber := "null"

/-- Notation of plain messages: always positional. -/
def plainNotation : Notation where
  positional _ := true
  infinity := "inf"
  notANumber := "NaN"

end TemplateCheck.Decimal
