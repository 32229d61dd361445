/-! # White space and splitting

The characters that trimming removes are those with the Unicode property
`White_Space`. Everything here works on lists of characters; the functions on
strings are the same functions seen through `String.toList`.
-/

namespace TemplateCheck.Text

/-- The characters with the property `White_Space`. -/
def isBlank (character : Char) : Bool :=
  let code := character.toNat
  (0x09 ≤ code && code ≤ 0x0D) || code == 0x20 || code == 0x85 || code == 0xA0 ||
    code == 0x1680 || (0x2000 ≤ code && code ≤ 0x200A) || code == 0x2028 ||
    code == 0x2029 || code == 0x202F || code == 0x205F || code == 0x3000

def trimChars (characters : List Char) : List Char :=
  ((characters.dropWhile isBlank).reverse.dropWhile isBlank).reverse

/-- A text that trimming leaves empty. -/
def isAllBlank (text : String) : Bool :=
  text.toList.all isBlank

/-- The pieces between the separators. There is always one more piece than
there are separators, so the empty list has one empty piece. -/
def splitAt (separator : Char) : List Char → List (List Char)
  | [] => [[]]
  | character :: rest =>
      if character = separator then
        [] :: splitAt separator rest
      else
        match splitAt separator rest with
        | [] => [[character]]
        | piece :: pieces => (character :: piece) :: pieces

def pieces (separator : Char) (text : String) : List String :=
  (splitAt separator text.toList).map String.ofList

/-- Cut at the first separator, which belongs to neither side. -/
def cutAtFirst (separator : Char) : List Char → Option (List Char × List Char)
  | [] => none
  | character :: rest =>
      if character = separator then
        some ([], rest)
      else
        (cutAtFirst separator rest).map fun (before, after) => (character :: before, after)

/-- The rest of the characters after an expected beginning. -/
def afterStart? : List Char → List Char → Option (List Char)
  | [], characters => some characters
  | _ :: _, [] => none
  | wanted :: start, character :: rest =>
      if wanted = character then afterStart? start rest else none

/-- Lower case for the letters A to Z only. -/
def lowerAscii (character : Char) : Char :=
  if 'A' ≤ character ∧ character ≤ 'Z' then Char.ofNat (character.toNat + 32) else character

theorem splitAt_ne_nil (separator : Char) (characters : List Char) :
    splitAt separator characters ≠ [] := by
  cases characters with
  | nil => simp [splitAt]
  | cons character rest =>
      simp only [splitAt]
      split
      · simp
      · split <;> simp

end TemplateCheck.Text
