import TemplateCheck.Json.Parser
import TemplateCheck.Path
import TemplateCheck.Text.Utf8

/-! # URIs

A URI in its parts. Its text is put together from them, and URIs are compared
by their text. A file URI names a path: every component is written as one
percent-encoded segment, and reading it back decodes every segment.
-/

namespace TemplateCheck

/-- What stands between `//` and the path. The credentials end with `@`, and an
absent host is empty. -/
structure Authority where
  credentials : String
  host : String
  port : Option Nat
  deriving Repr, DecidableEq, Inhabited

structure Uri where
  scheme : String
  authority : Option Authority
  path : String
  query : Option String
  fragment : Option String
  deriving Repr, DecidableEq, Inhabited

/-! Percent-encoding writes a byte as `%` and two hexadecimal digits. -/

namespace Percent

def hexDigit (value : Nat) : Char :=
  if value < 10 then Char.ofNat (48 + value) else Char.ofNat (55 + value)

def escapeByte (byte : UInt8) : List Char :=
  ['%', hexDigit (byte.toNat / 16), hexDigit (byte.toNat % 16)]

/-- Write a character as it is, unless it is outside printable ASCII or one of
the given characters. -/
def encodeChar (escaped : List Char) (character : Char) : List Char :=
  if character.toNat < 0x20 || 0x7E < character.toNat || escaped.contains character then
    (Text.Utf8.encodeChar character).flatMap escapeByte
  else [character]

def encode (escaped : List Char) (characters : List Char) : List Char :=
  characters.flatMap (encodeChar escaped)

/-- The byte that an escape stands for, from the two digits after its `%`. -/
def escapedByte? : List UInt8 → Option UInt8
  | first :: second :: _ => do
      let high ← Json.hexValue? (Char.ofNat first.toNat)
      let low ← Json.hexValue? (Char.ofNat second.toNat)
      return UInt8.ofNat (high * 16 + low)
  | _ => none

/-- Decode the bytes after those that are still to be passed over. -/
def decodeAfter : Nat → List UInt8 → List UInt8
  | _, [] => []
  | passed + 1, _ :: rest => decodeAfter passed rest
  | 0, byte :: rest =>
      match if byte = 0x25 then escapedByte? rest else none with
      | some decoded => decoded :: decodeAfter 2 rest
      | none => byte :: decodeAfter 0 rest

/-- The bytes that a text with escapes stands for. A `%` without two
hexadecimal digits stands for itself. -/
def decode (bytes : List UInt8) : List UInt8 :=
  decodeAfter 0 bytes

/-- The characters escaped in each part of a URI, besides controls and all that
is not ASCII. -/
def fragmentSet : List Char := [' ', '"', '<', '>', Char.ofNat 0x60]
def querySet : List Char := [' ', '"', '#', '<', '>']
def specialQuerySet : List Char := Char.ofNat 0x27 :: querySet
def pathSet : List Char := fragmentSet ++ ['#', '?', Json.openBrace, Json.closeBrace]
def segmentSet : List Char := pathSet ++ ['/', '%', '\\']
def credentialSet : List Char :=
  pathSet ++ ['/', ':', ';', '=', '@', '[', '\\', ']', '^', '|']

end Percent

namespace Uri

def Authority.text (authority : Authority) : String :=
  "//" ++ authority.credentials ++ authority.host ++
    match authority.port with
    | some port => ":" ++ toString port
    | none => ""

/-- A path that starts with two slashes would be taken for an authority where
there is none, so it gets `/.` in front. -/
def pathText (uri : Uri) : String :=
  if uri.authority.isNone && "//".toList.isPrefixOf uri.path.toList then "/." ++ uri.path
  else uri.path

def text (uri : Uri) : String :=
  uri.scheme ++ ":" ++
    (match uri.authority with
      | some authority => Authority.text authority
      | none => "") ++
    uri.pathText ++
    (match uri.query with
      | some query => "?" ++ query
      | none => "") ++
    (match uri.fragment with
      | some fragment => "#" ++ fragment
      | none => "")

/-- Order by text. -/
def compare (left right : Uri) : Ordering :=
  Ord.compare left.text right.text

/-- Equality of text. -/
def same (left right : Uri) : Bool :=
  left.text == right.text

/-- A host that does not name another machine. -/
def isLocal (uri : Uri) : Bool :=
  match uri.authority with
  | none => true
  | some authority => authority.host = "" || authority.host = "localhost"

/-- A path that ends with a drive letter gets a slash. -/
def closeDrive (bytes : List UInt8) : List UInt8 :=
  match bytes.reverse with
  | mark :: letter :: _ :: _ =>
      if (Char.ofNat letter.toNat).isAlpha && (mark = 0x3A || mark = 0x7C) then bytes ++ [0x2F]
      else bytes
  | _ => bytes

/-- The path that a URI names: its segments, decoded. The URI needs a path that
starts with a slash, on this machine. Paths are text, so bytes that are not UTF-8
are replaced. -/
def toPath? (uri : Uri) : Option Path :=
  match uri.path.toList with
  | '/' :: rest =>
      if uri.isLocal then
        let segments := Text.splitAt '/' rest
        let bytes := segments.flatMap fun segment =>
          0x2F :: Percent.decode (Text.Utf8.encodeChars segment)
        some ⟨Text.Utf8.decodeLossy (closeDrive bytes)⟩
      else none
  | _ => none

/-- A component as a URI writes it. -/
def componentSegment : Path.Component → List Char
  | .root => []
  | .current => ['.']
  | .parent => ['.', '.']
  | .name text => Percent.encode Percent.segmentSet text.toList

/-- The file URI of an absolute path. -/
def ofPath? (path : Path) : Option Uri :=
  match path.components with
  | .root :: rest =>
      let segments := rest.flatMap fun component => '/' :: componentSegment component
      some {
        scheme := "file"
        authority := some ⟨"", "", none⟩
        path := String.ofList (if segments.isEmpty then ['/'] else segments)
        query := none
        fragment := none }
  | _ => none

end Uri

/-- The message for a path that no file URI can name. -/
def noFileUriMessage (path : Path) : String :=
  "cannot convert path to file URI: " ++ path.text

end TemplateCheck
