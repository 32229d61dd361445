import TemplateCheck.Json.Parser
import TemplateCheck.Text.Blank

/-! # TOML scalars

Strings in their four forms, numbers in their bases, and dates and times. A date
or time is kept as an object whose single key marks it. -/

namespace TemplateCheck.Toml

open Decimal (Binary64)

/-- A reader takes a value off the front of its input. -/
abbrev Reader (result : Type) := List Char → Option (result × List Char)

/-- A control character, which may not stand in text. A tab may. -/
def isControl (character : Char) : Bool :=
  (character.toNat < 0x20 && character != '\t') || character.toNat = 0x7F

def isInlineSpace (character : Char) : Bool :=
  character = ' ' || character = '\t'

def skipInline (input : List Char) : List Char :=
  input.dropWhile isInlineSpace

/-- How many characters a line break at the front has. -/
def lineBreak? : List Char → Option Nat
  | '\n' :: _ => some 1
  | '\r' :: '\n' :: _ => some 2
  | _ => none

def scalar? (code : Nat) : Option Char :=
  if code < 0xD800 || (0xE000 ≤ code && code < 0x110000) then some (Char.ofNat code) else none

/-- A character given by a fixed number of hexadecimal digits. -/
def codeEscape? (count : Nat) (input : List Char) : Option (List Char × Nat) := do
  let digits := input.take count
  if digits.length ≠ count then none
  else
    let values ← digits.mapM Json.hexValue?
    let character ← scalar? (values.foldl (fun total digit => total * 16 + digit) 0)
    return ([character], count + 1)

/-- An escape after its backslash: what it stands for, and its length. -/
def escape? : List Char → Option (List Char × Nat)
  | [] => none
  | letter :: rest =>
      if letter = 'b' then some ([Char.ofNat 0x08], 1)
      else if letter = 't' then some (['\t'], 1)
      else if letter = 'n' then some (['\n'], 1)
      else if letter = 'f' then some ([Char.ofNat 0x0C], 1)
      else if letter = 'r' then some (['\r'], 1)
      else if letter = 'e' then some ([Char.ofNat 0x1B], 1)
      else if letter = '"' then some (['"'], 1)
      else if letter = '\\' then some (['\\'], 1)
      else if letter = 'x' then codeEscape? 2 rest
      else if letter = 'u' then codeEscape? 4 rest
      else if letter = 'U' then codeEscape? 8 rest
      else none

/-- The rest of a string in double quotes, after passing over an escape. -/
def basicBody : Nat → List Char → Option (List Char × List Char)
  | _, [] => none
  | passed + 1, _ :: rest => basicBody passed rest
  | 0, character :: rest =>
      if character = '"' then some ([], rest)
      else if character = '\\' then
        match escape? rest with
        | none => none
        | some (meaning, length) =>
            (basicBody length rest).map fun (body, after) => (meaning ++ body, after)
      else if isControl character then none
      else (basicBody 0 rest).map fun (body, after) => (character :: body, after)

/-- The rest of a string in single quotes. -/
def literalBody : List Char → Option (List Char × List Char)
  | [] => none
  | character :: rest =>
      if character = '\'' then some ([], rest)
      else if isControl character then none
      else (literalBody rest).map fun (body, after) => (character :: body, after)

/-- A backslash at the end of a line joins it to the next text. -/
def joinedLines? (input : List Char) : Option Nat :=
  let blanks := input.takeWhile isInlineSpace
  match lineBreak? (input.drop blanks.length) with
  | none => none
  | some _ =>
      some (input.takeWhile fun character => isInlineSpace character || character = '\n' ||
        character = '\r').length

/-- Three closing quotes, after at most two that belong to the text. -/
def closing? (quote : Char) (input : List Char) : Option (List Char × List Char) :=
  let count := (input.takeWhile (· == quote)).length
  if 3 ≤ count && count ≤ 5 then
    some (List.replicate (count - 3) quote, input.drop count)
  else none

/-- The rest of a string in three double quotes. -/
def longBasicBody : Nat → List Char → Option (List Char × List Char)
  | _, [] => none
  | passed + 1, _ :: rest => longBasicBody passed rest
  | 0, character :: rest =>
      if character = '"' then
        match closing? '"' (character :: rest) with
        | some ended => some ended
        | none =>
            if ['"', '"'].isPrefixOf rest then none
            else (longBasicBody 0 rest).map fun (body, after) => ('"' :: body, after)
      else if character = '\\' then
        match (escape? rest).or ((joinedLines? rest).map fun length => ([], length)) with
        | none => none
        | some (meaning, length) =>
            (longBasicBody length rest).map fun (body, after) => (meaning ++ body, after)
      else
        if isControl character && (lineBreak? (character :: rest)).isNone then none
        else (longBasicBody 0 rest).map fun (body, after) => (character :: body, after)

/-- The rest of a string in three single quotes. -/
def longLiteralBody : Nat → List Char → Option (List Char × List Char)
  | _, [] => none
  | passed + 1, _ :: rest => longLiteralBody passed rest
  | 0, character :: rest =>
      if character = '\'' then
        match closing? '\'' (character :: rest) with
        | some ended => some ended
        | none =>
            if ['\'', '\''].isPrefixOf rest then none
            else (longLiteralBody 0 rest).map fun (body, after) => ('\'' :: body, after)
      else
        if isControl character && (lineBreak? (character :: rest)).isNone then none
        else (longLiteralBody 0 rest).map fun (body, after) => (character :: body, after)

/-- A line break right after three opening quotes does not count. -/
def afterOpening (input : List Char) : List Char :=
  input.drop ((lineBreak? input).getD 0)

def shortString : Reader String
  | '"' :: rest => (basicBody 0 rest).map fun (body, after) => (String.ofList body, after)
  | '\'' :: rest => (literalBody rest).map fun (body, after) => (String.ofList body, after)
  | _ => none

def anyString : Reader String
  | '"' :: '"' :: '"' :: rest =>
      (longBasicBody 0 (afterOpening rest)).map fun (body, after) => (String.ofList body, after)
  | '\'' :: '\'' :: '\'' :: rest =>
      (longLiteralBody 0 (afterOpening rest)).map fun (body, after) => (String.ofList body, after)
  | input => shortString input

/-! Numbers may have single underscores between digits. -/

/-- The digits without underscores, if each underscore stands between two of
them. -/
def digitRun? (isMember : Char → Bool) : List Char → Option (List Char)
  | [] => none
  | [digit] => if isMember digit then some [digit] else none
  | digit :: next :: rest =>
      if isMember digit then
        if next = '_' then (digitRun? isMember rest).map (digit :: ·)
        else (digitRun? isMember (next :: rest)).map (digit :: ·)
      else none

def valueOf (base : Nat) (digits : List Char) : Nat :=
  digits.foldl (fun total digit => total * base + (Json.hexValue? digit).getD 0) 0

def isDigitOf (base : Nat) (character : Char) : Bool :=
  match Json.hexValue? character with
  | some value => value < base
  | none => false

/-- A whole number in decimal, without leading zeros. -/
def decimal? (text : List Char) : Option (List Char) := do
  let digits ← digitRun? Json.isDigit text
  if digits.head? == some '0' && 1 < digits.length then none else some digits

def splitSign : List Char → Bool × Bool × List Char
  | '+' :: rest => (true, false, rest)
  | '-' :: rest => (true, true, rest)
  | text => (false, false, text)

/-- The value of a whole number, whatever its size. -/
def integerValue? (text : List Char) : Option Int :=
  match text with
  | '0' :: 'x' :: rest => (digitRun? (isDigitOf 16) rest).map fun digits => valueOf 16 digits
  | '0' :: 'o' :: rest => (digitRun? (isDigitOf 8) rest).map fun digits => valueOf 8 digits
  | '0' :: 'b' :: rest => (digitRun? (isDigitOf 2) rest).map fun digits => valueOf 2 digits
  | _ =>
      let (_, negative, body) := splitSign text
      (decimal? body).map fun digits =>
        let size : Int := valueOf 10 digits
        if negative then -size else size

/-- A whole number of at most 128 bits, with or without a sign. -/
def integer? (text : List Char) : Option Json := do
  let value ← integerValue? text
  if value < Json.leastWideInt || Json.greatestWideInt < value then none
  else return .int value

/-- The power of ten after `e`. -/
def power? (text : List Char) : Option Int := do
  let (_, negative, body) := splitSign text
  let digits ← digitRun? Json.isDigit body
  let size : Int := valueOf 10 digits
  return if negative then -size else size

/-- Powers beyond this bound leave the range of doubles whatever the digits. -/
def clampPower (length : Nat) (power : Int) : Int :=
  let bound : Int := 400 + (length : Int)
  if power < -bound then -bound else if bound < power then bound else power

/-- The digits before and after the point. A number without a point is a float
only if it has an exponent. -/
def mantissa? (hasExponent : Bool) (text : List Char) : Option (List Char × List Char) :=
  match Text.cutAtFirst '.' text with
  | some (before, after) => do
      return (← decimal? before, ← digitRun? Json.isDigit after)
  | none => if hasExponent then (decimal? text).map fun digits => (digits, []) else none

def float? (text : List Char) : Option Json := do
  let (_, negative, body) := splitSign text
  if body = "inf".toList then return .double (.infinite negative)
  else if body = "nan".toList then return .double .notANumber
  else
    let (mantissa, exponent) := match Text.cutAtFirst 'e' (body.map Text.lowerAscii) with
      | some (before, after) => (before, some after)
      | none => (body, none)
    let power ← match exponent with
      | some text => power? text
      | none => some 0
    let (whole, fraction) ← mantissa? exponent.isSome mantissa
    let digits := whole ++ fraction
    let scaled := clampPower digits.length (power - (fraction.length : Int))
    let value := Binary64.ofDecimal negative (valueOf 10 digits) scaled
    if value.isInfinite then none else return .double value

/-! Dates and times are checked and kept as text. -/

def fixedNumber? (text : List Char) (start count : Nat) : Option Nat :=
  let digits := (text.drop start).take count
  if digits.length = count && digits.all Json.isDigit then some (valueOf 10 digits) else none

def daysIn (year month : Nat) : Nat :=
  if month = 2 then
    if year % 4 = 0 && (year % 100 ≠ 0 || year % 400 = 0) then 29 else 28
  else if month = 4 || month = 6 || month = 9 || month = 11 then 30
  else 31

/-- A date takes ten characters. -/
def isDate (text : List Char) : Bool :=
  match fixedNumber? text 0 4, fixedNumber? text 5 2, fixedNumber? text 8 2 with
  | some year, some month, some day =>
      text.length = 10 && text[4]? == some '-' && text[7]? == some '-' &&
        1 ≤ month && month ≤ 12 && 1 ≤ day && day ≤ daysIn year month
  | _, _, _ => false

/-- A time of day, whose seconds may be left out. -/
def isTime (text : List Char) : Bool :=
  match fixedNumber? text 0 2, fixedNumber? text 3 2 with
  | some hour, some minute =>
      text[2]? == some ':' && hour ≤ 23 && minute ≤ 59 &&
        (text.length = 5 ||
          match fixedNumber? text 6 2 with
          | some second =>
              text[5]? == some ':' && second ≤ 60 &&
                (text.length = 8 ||
                  (text[8]? == some '.' && 9 < text.length && (text.drop 9).all Json.isDigit))
          | none => false)
  | _, _ => false

def isOffset (text : List Char) : Bool :=
  match text with
  | ['Z'] => true
  | ['z'] => true
  | sign :: rest =>
      (sign = '+' || sign = '-') && rest.length = 5 &&
        match fixedNumber? rest 0 2, fixedNumber? rest 3 2 with
        | some hour, some minute => rest[2]? == some ':' && hour ≤ 23 && minute ≤ 59
        | _, _ => false
  | [] => false

def isOffsetTime (text : List Char) : Bool :=
  let clock := text.takeWhile fun character =>
    Json.isDigit character || character = ':' || character = '.'
  let offset := text.drop clock.length
  isTime clock && (offset.isEmpty || isOffset offset)

def isDateTime (text : List Char) : Bool :=
  isDate text || isTime text ||
    (isDate (text.take 10) &&
      match text.drop 10 with
      | mark :: clock => (mark = 'T' || mark = 't' || mark = ' ') && isOffsetTime clock
      | [] => false)

/-- The key that marks a date or time. -/
def dateTimeKey : String := "$__toml_private_datetime"

def dateTime? (text : List Char) : Option Json :=
  if isDateTime text then some (.obj [(dateTimeKey, .str (String.ofList text))]) else none

def isBareValueChar (character : Char) : Bool :=
  character.isAlphanum || ['_', '+', '-', '.', ':'].contains character

/-- A bare value at the front of the input; a date may be followed by a blank and
a time. -/
def bareText (input : List Char) : List Char :=
  let first := input.takeWhile isBareValueChar
  let rest := input.drop first.length
  match isDate first, rest with
  | true, ' ' :: after =>
      let clock := after.takeWhile isBareValueChar
      if (clock.head?.map Json.isDigit).getD false then first ++ ' ' :: clock else first
  | _, _ => first

def bareValue : Reader Json := fun input =>
  let text := bareText input
  let value :=
    if text = "true".toList then some (.bool true)
    else if text = "false".toList then some (.bool false)
    else (integer? text).or ((float? text).or (dateTime? text))
  value.map fun json => (json, input.drop text.length)

end TemplateCheck.Toml
