import TemplateCheck.Json.Printer

/-! # Reading JSON text

Strict JSON: no comments, no trailing data, no lone surrogates, no raw control
characters, and at most 127 containers inside one another. A number without
fraction and exponent stays an integer while it fits 64 bits, and any other
number is a double: the digits that fit an unsigned 64-bit significand are kept
and scaled by a power of ten. A number too large for a double is refused.
-/

namespace TemplateCheck.Json

open Decimal (Binary64)

/-- A reader takes a value off the front of its input. -/
abbrev Reader (result : Type) := List Char → Option (result × List Char)

def isSpace (character : Char) : Bool :=
  character = ' ' || character = '\n' || character = '\t' || character = '\r'

def skipSpace (input : List Char) : List Char :=
  input.dropWhile isSpace

def isDigit (character : Char) : Bool :=
  '0' ≤ character && character ≤ '9'

def digitValue (character : Char) : Nat :=
  character.toNat - 48

def hexValue? (character : Char) : Option Nat :=
  if '0' ≤ character && character ≤ '9' then some (character.toNat - 48)
  else if 'a' ≤ character && character ≤ 'f' then some (character.toNat - 87)
  else if 'A' ≤ character && character ≤ 'F' then some (character.toNat - 55)
  else none

/-- The 16-bit unit of four hexadecimal digits. -/
def unit? (first second third fourth : Char) : Option Nat := do
  let first ← hexValue? first
  let second ← hexValue? second
  let third ← hexValue? third
  let fourth ← hexValue? fourth
  return ((first * 16 + second) * 16 + third) * 16 + fourth

/-- The character of a one-letter escape. -/
def simpleEscape? (letter : Char) : Option Char :=
  if letter = '"' then some '"'
  else if letter = '\\' then some '\\'
  else if letter = '/' then some '/'
  else if letter = 'b' then some (Char.ofNat 0x08)
  else if letter = 'f' then some (Char.ofNat 0x0C)
  else if letter = 'n' then some '\n'
  else if letter = 'r' then some '\r'
  else if letter = 't' then some '\t'
  else none

def isHighSurrogate (unit : Nat) : Bool := 0xD800 ≤ unit && unit < 0xDC00
def isLowSurrogate (unit : Nat) : Bool := 0xDC00 ≤ unit && unit < 0xE000

def pairCode (high low : Nat) : Nat :=
  0x10000 + (high - 0xD800) * 0x400 + (low - 0xDC00)

/-- The rest of a string after its opening quote. -/
def stringBody : List Char → Option (List Char × List Char)
  | [] => none
  | character :: rest =>
      if character = '"' then some ([], rest)
      else if character.toNat < 0x20 then none
      else if character = '\\' then
        match rest with
        | [] => none
        | letter :: rest =>
            if letter = 'u' then
              match rest with
              | first :: second :: third :: fourth :: rest =>
                  match unit? first second third fourth with
                  | none => none
                  | some unit =>
                      if isLowSurrogate unit then none
                      else if isHighSurrogate unit then
                        match rest with
                        | slash :: letter :: fifth :: sixth :: seventh :: eighth :: rest =>
                            match unit? fifth sixth seventh eighth with
                            | none => none
                            | some low =>
                                if slash = '\\' && letter = 'u' && isLowSurrogate low then
                                  (stringBody rest).map fun (body, after) =>
                                    (Char.ofNat (pairCode unit low) :: body, after)
                                else none
                        | _ => none
                      else
                        (stringBody rest).map fun (body, after) =>
                          (Char.ofNat unit :: body, after)
              | _ => none
            else
              match simpleEscape? letter with
              | none => none
              | some escaped =>
                  (stringBody rest).map fun (body, after) => (escaped :: body, after)
      else
        (stringBody rest).map fun (body, after) => (character :: body, after)

def greatestSignificand : Nat := 0xffffffffffffffff

/-- Append digits to a significand while it fits; gives the significand and how
many digits were appended. The first digit that does not fit ends it. -/
def absorb : Nat → List Char → Nat × Nat
  | significand, [] => (significand, 0)
  | significand, digit :: rest =>
      let extended := significand * 10 + digitValue digit
      if greatestSignificand < extended then (significand, 0)
      else
        let (total, count) := absorb extended rest
        (total, count + 1)

/-- Scale by a power of ten, dividing by `10 ^ 308` as often as needed: two such
divisions take any significand to zero. -/
def scale : Nat → Binary64 → Int → Option Binary64
  | steps, value, exponent =>
      if exponent.natAbs ≤ 308 then
        if 0 ≤ exponent then
          let scaled := value.scaleUp (.powerOfTen exponent.natAbs)
          if scaled.isInfinite then none else some scaled
        else some (value.scaleDown (.powerOfTen exponent.natAbs))
      else if value.isZero then some value
      else if 0 ≤ exponent then none
      else
        match steps with
        | 0 => some (.zero false)
        | steps + 1 => scale steps (value.scaleDown (.powerOfTen 308)) (exponent + 308)

def signed (negative : Bool) (value : Binary64) : Binary64 :=
  if negative then value.negate else value

/-- A double from its significand and its power of ten. -/
def doubleOf (negative : Bool) (significand : Nat) (exponent : Int) : Option Json :=
  (scale 4 (.ofNat significand) exponent).map fun value => .double (signed negative value)

/-- The exponent part, if there is one: its value and the rest of the input. -/
def exponentPart : List Char → Option (Option Int × List Char)
  | [] => some (none, [])
  | mark :: rest =>
      if mark = 'e' || mark = 'E' then
        let (negative, digits) := match rest with
          | sign :: after =>
              if sign = '+' then (false, after)
              else if sign = '-' then (true, after)
              else (false, rest)
          | [] => (false, [])
        let exponent := digits.takeWhile isDigit
        if exponent.isEmpty then none
        else
          let size : Int := exponent.foldl (fun total digit => total * 10 + digitValue digit) 0
          some (some (if negative then -size else size), digits.dropWhile isDigit)
      else some (none, mark :: rest)

/-- The digits after the point, if there is a point. -/
def fractionPart : List Char → Option (Option (List Char) × List Char)
  | [] => some (none, [])
  | point :: rest =>
      if point = '.' then
        let digits := rest.takeWhile isDigit
        if digits.isEmpty then none else some (some digits, rest.dropWhile isDigit)
      else some (none, point :: rest)

/-- A number without fraction and exponent that fits the significand. -/
def wholeNumber (negative : Bool) (significand : Nat) : Json :=
  if negative then
    if 0 < significand && significand ≤ 0x8000000000000000 then .int (-(significand : Int))
    else .double (signed true (.ofNat significand))
  else .int significand

def numberBody (negative : Bool) (input : List Char) : Option (Json × List Char) := do
  let digits := input.takeWhile isDigit
  let rest := input.dropWhile isDigit
  if digits.isEmpty || (digits.head? == some '0' && 1 < digits.length) then none
  else
    let (significand, kept) := absorb 0 digits
    let dropped : Int := (digits.length : Int) - (kept : Int)
    let (fraction, rest) ← fractionPart rest
    let (exponent, rest) ← exponentPart rest
    match fraction, exponent with
    | none, none =>
        if dropped = 0 then return (wholeNumber negative significand, rest)
        else return (← doubleOf negative significand dropped, rest)
    | fraction, exponent =>
        let (significand, places) := absorb significand (fraction.getD [])
        let power := dropped - (places : Int) + exponent.getD 0
        return (← doubleOf negative significand power, rest)

def number : Reader Json
  | [] => none
  | sign :: rest => if sign = '-' then numberBody true rest else numberBody false (sign :: rest)

/-- What follows an item: the end of the list, or a comma and another item. The
bound is the length of the input, as every round takes a character. -/
def moreItems (item : Reader Json) : Nat → List Char → Option (List Json × List Char)
  | 0, _ => none
  | bound + 1, input =>
      match skipSpace input with
      | [] => none
      | mark :: rest =>
          if mark = ']' then some ([], rest)
          else if mark = ',' then do
            let (first, rest) ← item rest
            let (others, rest) ← moreItems item bound rest
            return (first :: others, rest)
          else none

/-- The items of an array after its opening bracket. -/
def items (item : Reader Json) (input : List Char) : Option (List Json × List Char) :=
  match skipSpace input with
  | [] => none
  | mark :: rest =>
      if mark = ']' then some ([], rest)
      else do
        let (first, rest) ← item (mark :: rest)
        let (others, rest) ← moreItems item (rest.length + 1) rest
        return (first :: others, rest)

/-- One member: a quoted key, a colon and a value. -/
def member (item : Reader Json) (input : List Char) : Option ((String × Json) × List Char) :=
  match skipSpace input with
  | [] => none
  | quote :: rest =>
      if quote = '"' then do
        let (key, rest) ← stringBody rest
        match skipSpace rest with
        | [] => none
        | colon :: rest =>
            if colon = ':' then do
              let (value, rest) ← item rest
              return ((String.ofList key, value), rest)
            else none
      else none

def moreMembers (item : Reader Json) :
    Nat → List Char → Option (List (String × Json) × List Char)
  | 0, _ => none
  | bound + 1, input =>
      match skipSpace input with
      | [] => none
      | mark :: rest =>
          if mark = closeBrace then some ([], rest)
          else if mark = ',' then do
            let (first, rest) ← member item rest
            let (others, rest) ← moreMembers item bound rest
            return (first :: others, rest)
          else none

/-- The members of an object after its opening brace. -/
def members (item : Reader Json) (input : List Char) :
    Option (List (String × Json) × List Char) :=
  match skipSpace input with
  | [] => none
  | mark :: rest =>
      if mark = closeBrace then some ([], rest)
      else do
        let (first, rest) ← member item (mark :: rest)
        let (others, rest) ← moreMembers item (rest.length + 1) rest
        return (first :: others, rest)

/-- The rest of the input after a literal word. -/
def word (letters : List Char) (value : Json) (input : List Char) : Option (Json × List Char) :=
  if letters.isPrefixOf input then some (value, input.drop letters.length) else none

/-- A value, whose nested values are read by the given reader, if nesting is
still allowed. -/
def valueWith (nested : Option (Reader Json)) : Reader Json := fun input =>
  match skipSpace input with
  | [] => none
  | mark :: rest =>
      if mark = 'n' then word ['u', 'l', 'l'] .null rest
      else if mark = 't' then word ['r', 'u', 'e'] (.bool true) rest
      else if mark = 'f' then word ['a', 'l', 's', 'e'] (.bool false) rest
      else if mark = '"' then
        (stringBody rest).map fun (body, after) => (.str (String.ofList body), after)
      else if mark = '[' then
        nested.bind fun item => (items item rest).map fun (list, after) => (.arr list, after)
      else if mark = openBrace then
        nested.bind fun item =>
          (members item rest).map fun (list, after) => (ofMembers list, after)
      else number (mark :: rest)

/-- A value with at most the given number of containers inside one another. -/
def value : Nat → Reader Json
  | 0 => valueWith none
  | levels + 1 => valueWith (some (value levels))

def greatestDepth : Nat := 127

/-- The value that the whole input spells. -/
def parseChars (input : List Char) : Option Json := do
  let (json, rest) ← value greatestDepth input
  if (skipSpace rest).isEmpty then some json else none

def parse (text : String) : Option Json :=
  parseChars text.toList

example : parseChars (chars (.arr [.int (-5), .bool true, .null, .str "a\nb"])) =
    some (.arr [.int (-5), .bool true, .null, .str "a\nb"]) := by rfl

end TemplateCheck.Json
