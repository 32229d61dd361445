import TemplateCheck.Text.Printable

/-! # Quoted text in messages

Messages show a text between double quotes. Quotes, backslashes and the common
control characters get a backslash escape, and every other character that is
unprintable or combining is shown by its code point. A path is quoted in the
same way, except that a single quote is escaped too.
-/

namespace TemplateCheck.Text

/-- The digits of a number in base sixteen, without leading zeros. -/
def hexDigits (number : Nat) : List Char :=
  Nat.toDigits 16 number

def quoteChar (escapeApostrophe : Bool) (character : Char) : List Char :=
  if character = '"' then ['\\', '"']
  else if character = '\\' then ['\\', '\\']
  else if character = '\n' then ['\\', 'n']
  else if character = '\r' then ['\\', 'r']
  else if character = '\t' then ['\\', 't']
  else if character.toNat = 0 then ['\\', '0']
  else if character = '\'' && escapeApostrophe then ['\\', '\'']
  else if isCombining character || !isPrintable character then
    ['\\', 'u', Char.ofNat 0x7B] ++ hexDigits character.toNat ++ [Char.ofNat 0x7D]
  else [character]

def quote (text : String) : String :=
  String.ofList ('"' :: text.toList.flatMap (quoteChar false) ++ ['"'])

def quotePath (text : String) : String :=
  String.ofList ('"' :: text.toList.flatMap (quoteChar true) ++ ['"'])

end TemplateCheck.Text
