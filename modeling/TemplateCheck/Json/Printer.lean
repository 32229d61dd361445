import TemplateCheck.Decimal.Shortest
import TemplateCheck.Json.Basic

/-! # Compact JSON text

Values are written without any white space. Inside a string only the quote, the
backslash and the control characters are escaped.
-/

namespace TemplateCheck.Json

/-- The two hexadecimal digits of a control character. -/
def controlDigits (code : Nat) : List Char :=
  [Nat.digitChar (code / 16), Nat.digitChar (code % 16)]

def escapeChar (character : Char) : List Char :=
  if character = '"' then ['\\', '"']
  else if character = '\\' then ['\\', '\\']
  else if character = '\n' then ['\\', 'n']
  else if character = '\r' then ['\\', 'r']
  else if character = '\t' then ['\\', 't']
  else if character.toNat = 0x08 then ['\\', 'b']
  else if character.toNat = 0x0C then ['\\', 'f']
  else if character.toNat < 0x20 then ['\\', 'u', '0', '0'] ++ controlDigits character.toNat
  else [character]

def stringText (text : String) : List Char :=
  '"' :: text.toList.flatMap escapeChar ++ ['"']

def intText (number : Int) : List Char :=
  if number < 0 then '-' :: Nat.toDigits 10 number.natAbs
  else Nat.toDigits 10 number.natAbs

/-- Brace characters, named because braces in text have other uses. -/
def openBrace : Char := Char.ofNat 0x7B
def closeBrace : Char := Char.ofNat 0x7D

mutual

def chars : Json → List Char
  | .null => ['n', 'u', 'l', 'l']
  | .bool true => ['t', 'r', 'u', 'e']
  | .bool false => ['f', 'a', 'l', 's', 'e']
  | .int number => intText number
  | .double number => (Decimal.write Decimal.dataNotation number).toList
  | .str text => stringText text
  | .arr items => '[' :: itemChars items ++ [']']
  | .obj members => openBrace :: memberChars members ++ [closeBrace]

/-- Items with commas between them. -/
def itemChars : List Json → List Char
  | [] => []
  | item :: rest => chars item ++ moreItemChars rest

/-- Items with a comma before each. -/
def moreItemChars : List Json → List Char
  | [] => []
  | item :: rest => ',' :: chars item ++ moreItemChars rest

/-- Members with commas between them. -/
def memberChars : List (String × Json) → List Char
  | [] => []
  | (key, value) :: rest => stringText key ++ ':' :: chars value ++ moreMemberChars rest

/-- Members with a comma before each. -/
def moreMemberChars : List (String × Json) → List Char
  | [] => []
  | (key, value) :: rest =>
      ',' :: stringText key ++ ':' :: chars value ++ moreMemberChars rest

end

def print (json : Json) : String :=
  String.ofList json.chars

end TemplateCheck.Json
