/-! # Binary floating point

Double-precision numbers as exact dyadic values. A finite number is a whole
mantissa below `2 ^ 53` scaled by a power of two; every operation computes the
exact quotient and rounds once, to the nearest value and on a tie to the even
mantissa.
-/

namespace TemplateCheck.Decimal

inductive Binary64 where
  | finite (negative : Bool) (mantissa : Nat) (exponent : Int)
  | infinite (negative : Bool)
  | notANumber
  deriving Repr, DecidableEq, Inhabited

namespace Binary64

/-- The exponent of the smallest positive number. -/
def leastExponent : Int := -1074

/-- The largest exponent of a finite number. -/
def greatestExponent : Int := 971

/-- The least mantissa of a number with all 53 bits. -/
def leastNormal : Nat := 0x10000000000000

def zero (negative : Bool) : Binary64 := .finite negative 0 leastExponent

def isZero : Binary64 → Bool
  | .finite _ mantissa _ => mantissa == 0
  | _ => false

def isInfinite : Binary64 → Bool
  | .infinite _ => true
  | _ => false

def negate : Binary64 → Binary64
  | .finite negative mantissa exponent => .finite (!negative) mantissa exponent
  | .infinite negative => .infinite (!negative)
  | .notANumber => .notANumber

/-- The whole number nearest to a quotient, an even one on a tie. -/
def roundQuotient (numerator denominator : Nat) : Nat :=
  let quotient := numerator / denominator
  let excess := 2 * (numerator % denominator)
  if excess < denominator then quotient
  else if denominator < excess then quotient + 1
  else if quotient % 2 = 0 then quotient else quotient + 1

/-- The number `numerator / denominator / 2 ^ exponent` as a quotient. -/
def scaled (numerator denominator : Nat) (exponent : Int) : Nat × Nat :=
  if exponent < 0 then (numerator * Nat.pow 2 exponent.natAbs, denominator)
  else (numerator, denominator * Nat.pow 2 exponent.natAbs)

/-- The exponent that leaves a quotient with 53 bits before the point, but at
least the least one. -/
def exponentOf (numerator denominator : Nat) : Int :=
  let estimate : Int := (numerator.log2 : Int) - (denominator.log2 : Int) - 52
  let (top, bottom) := scaled numerator denominator estimate
  let exact := if top < bottom * leastNormal then estimate - 1 else estimate
  if exact < leastExponent then leastExponent else exact

/-- The number nearest to a quotient of whole numbers. -/
def ofQuotient (negative : Bool) (numerator denominator : Nat) : Binary64 :=
  if numerator = 0 then zero negative
  else
    let exponent := exponentOf numerator denominator
    let (top, bottom) := scaled numerator denominator exponent
    let mantissa := roundQuotient top bottom
    let (mantissa, exponent) :=
      if mantissa = 2 * leastNormal then (leastNormal, exponent + 1) else (mantissa, exponent)
    if greatestExponent < exponent then .infinite negative
    else .finite negative mantissa exponent

def ofNat (number : Nat) : Binary64 :=
  ofQuotient false number 1

/-- The number nearest to `digits · 10 ^ exponent`. -/
def ofDecimal (negative : Bool) (digits : Nat) (exponent : Int) : Binary64 :=
  if exponent < 0 then ofQuotient negative digits (Nat.pow 10 exponent.natAbs)
  else ofQuotient negative (digits * Nat.pow 10 exponent.natAbs) 1

/-- A finite number's magnitude as a quotient. -/
def magnitude (mantissa : Nat) (exponent : Int) : Nat × Nat :=
  if exponent < 0 then (mantissa, Nat.pow 2 exponent.natAbs)
  else (mantissa * Nat.pow 2 exponent.natAbs, 1)

/-- Multiply by a positive whole number that is itself such a number. -/
def scaleUp (value : Binary64) (factor : Binary64) : Binary64 :=
  match value, factor with
  | .finite negative mantissa exponent, .finite _ factorMantissa factorExponent =>
      let (top, bottom) := magnitude mantissa exponent
      let (factorTop, factorBottom) := magnitude factorMantissa factorExponent
      ofQuotient negative (top * factorTop) (bottom * factorBottom)
  | value, _ => value

/-- Divide by a positive number. -/
def scaleDown (value : Binary64) (divisor : Binary64) : Binary64 :=
  match value, divisor with
  | .finite negative mantissa exponent, .finite _ divisorMantissa divisorExponent =>
      let (top, bottom) := magnitude mantissa exponent
      let (divisorTop, divisorBottom) := magnitude divisorMantissa divisorExponent
      ofQuotient negative (top * divisorBottom) (bottom * divisorTop)
  | value, _ => value

/-- The number nearest to a power of ten. -/
def powerOfTen (exponent : Nat) : Binary64 :=
  ofNat (Nat.pow 10 exponent)

example : ofQuotient false 1 2 = .finite false (2 ^ 52) (-53) := by decide +kernel
example : ofNat (2 ^ 53 + 1) = .finite false (2 ^ 52) 1 := by decide +kernel
example : (ofDecimal false 1 309).isInfinite = true := by decide +kernel

end Binary64

end TemplateCheck.Decimal
