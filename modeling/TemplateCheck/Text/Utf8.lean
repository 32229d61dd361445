/-! # UTF-8

Text as bytes. Decoding reads one byte at a time and keeps the sequence that is
not complete yet; a byte that cannot continue the sequence ends it, so the
reported length of a broken sequence is the longest beginning of a valid one.
-/

namespace TemplateCheck.Text.Utf8

/-- The bytes of one character. -/
def encodeChar (character : Char) : List UInt8 :=
  let code := character.toNat
  if code < 0x80 then
    [UInt8.ofNat code]
  else if code < 0x800 then
    [UInt8.ofNat (0xC0 + code / 0x40), UInt8.ofNat (0x80 + code % 0x40)]
  else if code < 0x10000 then
    [UInt8.ofNat (0xE0 + code / 0x1000), UInt8.ofNat (0x80 + code / 0x40 % 0x40),
      UInt8.ofNat (0x80 + code % 0x40)]
  else
    [UInt8.ofNat (0xF0 + code / 0x40000), UInt8.ofNat (0x80 + code / 0x1000 % 0x40),
      UInt8.ofNat (0x80 + code / 0x40 % 0x40), UInt8.ofNat (0x80 + code % 0x40)]

/-- The bytes of a list of characters. -/
def encodeChars (characters : List Char) : List UInt8 :=
  characters.flatMap encodeChar

/-- The bytes of a text. -/
def encode (text : String) : List UInt8 :=
  encodeChars text.toList

/-- A sequence that has begun: the bytes read, the bytes still expected, the
bits gathered, and the range of the next byte. -/
structure Sequence where
  read : Nat
  expected : Nat
  bits : Nat
  lowest : Nat
  highest : Nat
  deriving Repr, DecidableEq

/-- What the first byte of a sequence says. -/
inductive Lead where
  | single (character : Char)
  | opens (started : Sequence)
  | invalid
  deriving Repr, DecidableEq

/-- The range of the second byte excludes overlong forms, surrogates and code
points above the last one. -/
def lead (byte : Nat) : Lead :=
  if byte < 0x80 then .single (Char.ofNat byte)
  else if byte < 0xC2 then .invalid
  else if byte < 0xE0 then .opens ⟨1, 1, byte - 0xC0, 0x80, 0xBF⟩
  else if byte = 0xE0 then .opens ⟨1, 2, 0, 0xA0, 0xBF⟩
  else if byte = 0xED then .opens ⟨1, 2, 0xD, 0x80, 0x9F⟩
  else if byte < 0xF0 then .opens ⟨1, 2, byte - 0xE0, 0x80, 0xBF⟩
  else if byte = 0xF0 then .opens ⟨1, 3, 0, 0x90, 0xBF⟩
  else if byte < 0xF4 then .opens ⟨1, 3, byte - 0xF0, 0x80, 0xBF⟩
  else if byte = 0xF4 then .opens ⟨1, 3, 4, 0x80, 0x8F⟩
  else .invalid

/-- A sequence after one more byte: still open, complete, or broken. -/
inductive Progress where
  | more (sequence : Sequence)
  | complete (character : Char)
  | broken
  deriving Repr, DecidableEq

def Sequence.push (sequence : Sequence) (byte : Nat) : Progress :=
  if byte < sequence.lowest || sequence.highest < byte then .broken
  else
    let bits := sequence.bits * 0x40 + (byte - 0x80)
    if sequence.expected ≤ 1 then .complete (Char.ofNat bits)
    else .more ⟨sequence.read + 1, sequence.expected - 1, bits, 0x80, 0xBF⟩

/-- Where decoding stopped, and how many bytes the broken sequence has, unless
the input ended inside it. -/
structure Fault where
  index : Nat
  length : Option Nat
  deriving Repr, DecidableEq

def Fault.message (fault : Fault) : String :=
  match fault.length with
  | some length =>
      "invalid utf-8 sequence of " ++ toString length ++ " bytes from index " ++
        toString fault.index
  | none => "incomplete utf-8 byte sequence from index " ++ toString fault.index

/-- Decode from an offset, with the sequence that is open there if any. The
offset counts all bytes read. -/
def decodeFrom : Nat → Option Sequence → List UInt8 → Except Fault (List Char)
  | _, none, [] => .ok []
  | offset, some sequence, [] => .error ⟨offset - sequence.read, none⟩
  | offset, none, byte :: rest =>
      match lead byte.toNat with
      | .single character => do
          return character :: (← decodeFrom (offset + 1) none rest)
      | .opens sequence => decodeFrom (offset + 1) (some sequence) rest
      | .invalid => .error ⟨offset, some 1⟩
  | offset, some sequence, byte :: rest =>
      match sequence.push byte.toNat with
      | .complete character => do
          return character :: (← decodeFrom (offset + 1) none rest)
      | .more extended => decodeFrom (offset + 1) (some extended) rest
      | .broken => .error ⟨offset - sequence.read, some sequence.read⟩

/-- The characters of valid bytes. -/
def decodeChars (bytes : List UInt8) : Except Fault (List Char) :=
  decodeFrom 0 none bytes

/-- The text of valid bytes. -/
def decode (bytes : List UInt8) : Except Fault String :=
  (decodeChars bytes).map String.ofList

/-- The character that stands for a broken sequence. -/
def replacement : Char := Char.ofNat 0xFFFD

/-- Decode, with every broken sequence replaced by one character. -/
def decodeLossyFrom : Option Sequence → List UInt8 → List Char
  | none, [] => []
  | some _, [] => [replacement]
  | none, byte :: rest =>
      match lead byte.toNat with
      | .single character => character :: decodeLossyFrom none rest
      | .opens sequence => decodeLossyFrom (some sequence) rest
      | .invalid => replacement :: decodeLossyFrom none rest
  | some sequence, byte :: rest =>
      match sequence.push byte.toNat with
      | .complete character => character :: decodeLossyFrom none rest
      | .more extended => decodeLossyFrom (some extended) rest
      | .broken =>
          match lead byte.toNat with
          | .single character => replacement :: character :: decodeLossyFrom none rest
          | .opens fresh => replacement :: decodeLossyFrom (some fresh) rest
          | .invalid => replacement :: replacement :: decodeLossyFrom none rest

/-- The text of any bytes. -/
def decodeLossy (bytes : List UInt8) : String :=
  String.ofList (decodeLossyFrom none bytes)

example : decodeChars (encodeChars ['a', 'é', '€', Char.ofNat 0x1F600])
    = .ok ['a', 'é', '€', Char.ofNat 0x1F600] := by rfl
example : decodeFrom 0 none [0x61, 0xFF] = .error ⟨1, some 1⟩ := by rfl
example : decodeFrom 0 none [0x61, 0xE2, 0x82] = .error ⟨1, none⟩ := by rfl

end TemplateCheck.Text.Utf8
