import TemplateCheck.Uri.Basic

/-! # Hosts

How the host of a URI is read. Schemes that name servers take domain names,
which are lowered, and addresses, which are written in one canonical form. Any
other scheme takes its host as it stands.
-/

namespace TemplateCheck.Uri

def isForbiddenInHost (character : Char) : Bool :=
  character.toNat = 0 ||
    ['\t', '\n', '\r', ' ', '#', '/', ':', '<', '>', '?', '@', '[', '\\', ']', '^', '|'].contains
      character

def isForbiddenInDomain (character : Char) : Bool :=
  isForbiddenInHost character || character.toNat < 0x20 || character.toNat = 0x7F ||
    character = '%'

/-- A number of an address, decimal, octal after `0` or hexadecimal after `0x`. -/
def addressNumber? (text : List Char) : Option Nat :=
  let (base, digits) := match text with
    | '0' :: mark :: rest =>
        if mark = 'x' || mark = 'X' then (16, rest) else (8, mark :: rest)
    | digits => (10, digits)
  digits.foldl
    (fun total digit => do
      let total ← total
      let value ← Json.hexValue? digit
      if value < base then some (total * base + value) else none)
    (some 0)

/-- The labels of a domain, without the empty one after a final dot. -/
def labels (domain : List Char) : List (List Char) :=
  match (Text.splitAt '.' domain).reverse with
  | [] :: before :: others => (before :: others).reverse
  | all => all.reverse

/-- Whether the last label makes the domain an address. -/
def endsInNumber (domain : List Char) : Bool :=
  match (labels domain).getLast? with
  | none => false
  | some last =>
      !last.isEmpty &&
        (last.all Json.isDigit ||
          (match last with
            | '0' :: mark :: _ => (mark = 'x' || mark = 'X') && (addressNumber? last).isSome
            | _ => false))

/-- Four numbers in decimal, most significant first. -/
def dottedAddress (address : Nat) : List Char :=
  let part (shift : Nat) : List Char := Nat.toDigits 10 (address / Nat.pow 256 shift % 256)
  part 3 ++ '.' :: part 2 ++ '.' :: part 1 ++ '.' :: part 0

/-- An address of up to four parts; the last part fills the bytes that remain. -/
def address? (domain : List Char) : Option Nat := do
  let parts := labels domain
  if 4 < parts.length || parts.any List.isEmpty then none
  else
    let numbers ← parts.mapM addressNumber?
    match numbers.reverse with
    | [] => none
    | last :: before =>
        let leading := before.reverse
        if leading.any (255 < ·) || Nat.pow 256 (4 - leading.length) ≤ last then none
        else
          let high := leading.foldl (fun total number => total * 256 + number) 0
          some (high * Nat.pow 256 (4 - leading.length) + last)

/-- One byte of a dotted address in brackets: decimal, without leading zeros. -/
def dottedByte? (part : List Char) : Option Nat :=
  if part.isEmpty || 3 < part.length || !part.all Json.isDigit ||
      (1 < part.length && part.head? == some '0') then none
  else
    let number := part.foldl (fun total digit => total * 10 + Json.digitValue digit) 0
    if 255 < number then none else some number

/-- The two groups of a dotted address in brackets. -/
def dottedGroups? (piece : List Char) : Option (List Nat) := do
  match ← (Text.splitAt '.' piece).mapM dottedByte? with
  | [first, second, third, fourth] => some [first * 256 + second, third * 256 + fourth]
  | _ => none

/-- One group of up to four hexadecimal digits. -/
def group? (piece : List Char) : Option Nat :=
  if piece.isEmpty || 4 < piece.length then none
  else (piece.mapM Json.hexValue?).map fun digits =>
    digits.foldl (fun total digit => total * 16 + digit) 0

/-- The groups between the colons, the last of which may be a dotted address. -/
def groupsOf? : List (List Char) → Option (List Nat)
  | [] => some []
  | [last] => if last.contains '.' then dottedGroups? last else (group? last).map fun group => [group]
  | piece :: rest => do
      let group ← group? piece
      let others ← groupsOf? rest
      return group :: others

def groups? (text : List Char) : Option (List Nat) :=
  if text.isEmpty then some [] else groupsOf? (Text.splitAt ':' text)

def cutAtGap : List Char → Option (List Char × List Char)
  | [] => none
  | first :: rest =>
      if first = ':' && rest.head? == some ':' then some ([], rest.tail)
      else (cutAtGap rest).map fun (before, after) => (first :: before, after)

def longAddress? (text : List Char) : Option (List Nat) :=
  match cutAtGap text with
  | none => do
      let groups ← groups? text
      if groups.length = 8 then some groups else none
  | some (before, after) => do
      let leading ← groups? before
      let trailing ← groups? after
      if 7 < leading.length + trailing.length || before.contains '.' then none
      else some (leading ++ List.replicate (8 - leading.length - trailing.length) 0 ++ trailing)

def zeroRun (groups : List Nat) : Nat :=
  (groups.takeWhile (· == 0)).length

/-- Where the first longest run of two or more zeros starts, and its length. -/
def longestGap (groups : List Nat) : Option (Nat × Nat) :=
  (List.range groups.length).foldl
    (fun best start =>
      let size := zeroRun (groups.drop start)
      match best with
      | some (_, length) => if length < size then some (start, size) else best
      | none => if 1 < size then some (start, size) else none)
    none

/-- A bracketed address in lower-case groups, with its longest run of zeros left
out. -/
def longAddressText (groups : List Nat) : List Char :=
  let join (numbers : List Nat) : List Char :=
    [':'].intercalate (numbers.map (Nat.toDigits 16))
  '[' ::
    (match longestGap groups with
      | some (start, length) =>
          join (groups.take start) ++ ':' :: ':' :: join (groups.drop (start + length))
      | none => join groups) ++ [']']

def bracketedHost? (text : List Char) : Option (List Char) :=
  match text.reverse with
  | ']' :: inner => (longAddress? inner.reverse.tail).map longAddressText
  | _ => none

/-- The host of a scheme that names servers. Hosts are ASCII: a name in any other script is
refused, not translated. -/
def domainHost? (text : List Char) : Option (List Char) :=
  if text.head? == some '[' then bracketedHost? text
  else
    let decoded := Text.Utf8.decodeLossyFrom none (Percent.decode (Text.Utf8.encodeChars text))
    let domain := decoded.map Text.lowerAscii
    if domain.isEmpty || domain.any isForbiddenInDomain || domain.any (0x7F < ·.toNat) then none
    else if endsInNumber domain then (address? domain).map dottedAddress
    else some domain

/-- The host of any other scheme. -/
def opaqueHost? (text : List Char) : Option (List Char) :=
  if text.head? == some '[' then bracketedHost? text
  else if text.any isForbiddenInHost then none
  else some (Percent.encode [] text)

end TemplateCheck.Uri
