import TemplateCheck.Json.Parser
import TemplateCheck.Text.Blank
import TemplateCheck.Text.Quoted
import TemplateCheck.Text.Utf8

/-! # Frames

Messages travel as frames: header lines, a blank line, and a JSON body of as many
bytes as the `Content-Length` header says. Bytes arrive in chunks; an empty chunk
is what a reader gets at the end of its input. -/

namespace TemplateCheck.Frame

def greatestLength : Nat := 33554432

/-! Writing. -/

def header (length : Nat) : List Char :=
  "Content-Length: ".toList ++ Nat.toDigits 10 length ++ ['\r', '\n', '\r', '\n']

def write (json : Json) : List UInt8 :=
  let body := Text.Utf8.encodeChars json.chars
  Text.Utf8.encodeChars (header body.length) ++ body

/-! Reading. -/

/-- Bytes that were received but not read, and the chunks still to come. -/
structure Source where
  buffered : List UInt8 := []
  chunks : List (List UInt8) := []
  deriving Repr, DecidableEq, Inhabited

namespace Source

def ofChunks (chunks : List (List UInt8)) : Source := { chunks }

/-- All bytes, however they are divided into chunks. -/
def bytes (source : Source) : List UInt8 :=
  source.buffered ++ source.chunks.flatten

def isEmpty (source : Source) : Bool :=
  source.buffered.isEmpty && source.chunks.isEmpty

def append (source : Source) (chunks : List (List UInt8)) : Source :=
  { source with chunks := source.chunks ++ chunks }

end Source

def cutLine : List UInt8 → Option (List UInt8 × List UInt8)
  | [] => none
  | byte :: rest =>
      if byte = 0x0A then some ([byte], rest)
      else (cutLine rest).map fun (line, after) => (byte :: line, after)

/-- A line with its line feed, or what is left before the end of the input. -/
def readLineFrom : List UInt8 → List (List UInt8) → List UInt8 × Source
  | buffered, [] =>
      match cutLine buffered with
      | some (line, rest) => (line, ⟨rest, []⟩)
      | none => (buffered, ⟨[], []⟩)
  | buffered, chunk :: chunks =>
      match cutLine buffered with
      | some (line, rest) => (line, ⟨rest, chunk :: chunks⟩)
      | none =>
          if chunk.isEmpty then (buffered, ⟨[], chunks⟩)
          else readLineFrom (buffered ++ chunk) chunks

def readLine (source : Source) : List UInt8 × Source :=
  readLineFrom source.buffered source.chunks

/-- A given number of bytes. If the input ends before, what was left is gone. -/
def readBytesFrom (count : Nat) : List UInt8 → List (List UInt8) → Option (List UInt8) × Source
  | buffered, [] =>
      if count ≤ buffered.length then (some (buffered.take count), ⟨buffered.drop count, []⟩)
      else (none, ⟨[], []⟩)
  | buffered, chunk :: chunks =>
      if count ≤ buffered.length then
        (some (buffered.take count), ⟨buffered.drop count, chunk :: chunks⟩)
      else if chunk.isEmpty then (none, ⟨[], chunks⟩)
      else readBytesFrom count (buffered ++ chunk) chunks

def readBytes (count : Nat) (source : Source) : Option (List UInt8) × Source :=
  readBytesFrom count source.buffered source.chunks

/-- Why a length is not a number of bytes. -/
inductive LengthFault where
  | empty
  | invalidDigit
  | tooLarge
  deriving Repr, DecidableEq

def LengthFault.message : LengthFault → String
  | .empty => "cannot parse integer from empty string"
  | .invalidDigit => "invalid digit found in string"
  | .tooLarge => "number too large to fit in target type"

inductive Fault where
  | headerNotText (cause : Text.Utf8.Fault)
  | invalidLength (value : String) (cause : LengthFault)
  | endedInHeaders
  | missingLength
  | tooLong (length : Nat)
  | bodyCutShort
  | bodyNotJson
  deriving Repr, DecidableEq

def Fault.message : Fault → String
  | .headerNotText cause => "reading header line: " ++ cause.message
  | .invalidLength value cause =>
      "invalid Content-Length value " ++ Text.quote value ++ ": " ++ cause.message
  | .endedInHeaders => "unexpected EOF while reading headers"
  | .missingLength => "missing Content-Length header"
  | .tooLong length =>
      "Content-Length " ++ toString length ++ " exceeds maximum " ++ toString greatestLength
  | .bodyCutShort => "reading frame body: early eof"
  | .bodyNotJson => "parsing JSON-RPC frame"

/-- The value of decimal digits, as long as it fits 64 bits. -/
def digitsValue : Nat → List Char → Except LengthFault Nat
  | total, [] => .ok total
  | total, digit :: rest =>
      if !Json.isDigit digit then .error .invalidDigit
      else
        let extended := total * 10 + Json.digitValue digit
        if 0xffffffffffffffff < extended then .error .tooLarge else digitsValue extended rest

/-- A length: decimal digits, perhaps after a plus sign. -/
def length (text : List Char) : Except LengthFault Nat :=
  match text with
  | [] => .error .empty
  | ['+'] => .error .invalidDigit
  | '+' :: digits => digitsValue 0 digits
  | digits => digitsValue 0 digits

inductive HeaderLine where
  | length (value : Nat)
  | other
  | blank
  deriving Repr, DecidableEq

def lengthKey : List Char := "content-length".toList

def headerLine (line : List Char) : Except Fault HeaderLine :=
  let trimmed := Text.trimChars line
  if trimmed.isEmpty then .ok .blank
  else
    match Text.cutAtFirst ':' trimmed with
    | none => .ok .other
    | some (key, value) =>
        if (Text.trimChars key).map Text.lowerAscii = lengthKey then
          let digits := Text.trimChars value
          match length digits with
          | .ok number => .ok (.length number)
          | .error cause => .error (.invalidLength (String.ofList digits) cause)
        else .ok .other

/-- What reading the headers found: the length of the body, or the end of the
input before any header. -/
inductive Headers where
  | body (length : Nat)
  | ended
  deriving Repr, DecidableEq

/-- The headers up to the blank line. The last length counts. The bound is on the
number of lines. -/
def readHeaders : Nat → Bool → Option Nat → Source → Except Fault Headers × Source
  | 0, _, _, source => (.error .endedInHeaders, source)
  | bound + 1, started, found, source =>
      let (line, source) := readLine source
      if line.isEmpty then
        (if started then .error .endedInHeaders else .ok .ended, source)
      else
        match Text.Utf8.decodeChars line with
        | .error cause => (.error (.headerNotText cause), source)
        | .ok characters =>
            match headerLine characters with
            | .error fault => (.error fault, source)
            | .ok .blank =>
                match found with
                | some length => (.ok (.body length), source)
                | none => (.error .missingLength, source)
            | .ok .other => readHeaders bound true found source
            | .ok (.length value) => readHeaders bound true (some value) source

/-- What a reader gets: a frame, the end of the input, or a fault. -/
inductive Result where
  | frame (json : Json)
  | ended
  | fault (cause : Fault)
  deriving Repr, Inhabited

/-- A body is JSON in UTF-8. -/
def parseBody (body : List UInt8) : Option Json :=
  match Text.Utf8.decodeChars body with
  | .ok characters => Json.parseChars characters
  | .error _ => none

def readBody (count : Nat) (source : Source) : Result × Source :=
  if greatestLength < count then (.fault (.tooLong count), source)
  else
    match readBytes count source with
    | (none, source) => (.fault .bodyCutShort, source)
    | (some body, source) =>
        match parseBody body with
        | some json => (.frame json, source)
        | none => (.fault .bodyNotJson, source)

/-- Read the next frame. Every header line has at least one byte, so there are no
more lines than bytes. -/
def read (source : Source) : Result × Source :=
  match readHeaders (source.bytes.length + 1) false none source with
  | (.error fault, source) => (.fault fault, source)
  | (.ok .ended, source) => (.ended, source)
  | (.ok (.body count), source) => readBody count source

end TemplateCheck.Frame
