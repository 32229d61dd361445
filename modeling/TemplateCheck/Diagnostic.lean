import TemplateCheck.Decode

/-! # Diagnostics

A diagnostic marks a range of a file with a message. Positions count lines and
characters from zero. Diagnostics are ordered by range, severity, stage and
message, and their wire form is an object with the keys `range`, `severity`,
`source` and `message`.
-/

namespace TemplateCheck

structure Position where
  line : UInt32
  character : UInt32
  deriving Repr, DecidableEq, Inhabited

structure Range where
  start : Position
  stop : Position
  deriving Repr, DecidableEq, Inhabited

inductive Severity where
  | error
  | warning
  | information
  | hint
  deriving Repr, DecidableEq, Inhabited

/-- The steps of a validation pass. -/
inductive Stage where
  | model
  | logic
  | template
  | sample
  deriving Repr, DecidableEq, Inhabited

structure Diagnostic where
  range : Range
  severity : Severity
  stage : Stage
  message : String
  deriving Repr, DecidableEq, Inhabited

namespace Position

def zero : Position := ⟨0, 0⟩

def compare (left right : Position) : Ordering :=
  (Ord.compare left.line right.line).then (Ord.compare left.character right.character)

def greatest : Nat := 0xffffffff

def record : Decode.Record Position where
  name := "Position"
  strict := false
  fields := [
    { name := "line"
      required := true
      read := fun json position =>
        (Decode.nat "u32" greatest json).map fun line => { position with line := .ofNat line } },
    { name := "character"
      required := true
      read := fun json position =>
        (Decode.nat "u32" greatest json).map fun character =>
          { position with character := .ofNat character } }]
  initial := zero

def decode : Decode.Decoder Position :=
  record.decode Decode.dataFormat

def toJson (position : Position) : Json :=
  .ofMembers [("line", .int position.line.toNat), ("character", .int position.character.toNat)]

end Position

namespace Range

def point (at_ : Position) : Range := ⟨at_, at_⟩

def documentStart : Range := point .zero

def isEmpty (range : Range) : Bool := range.start == range.stop

def compare (left right : Range) : Ordering :=
  (left.start.compare right.start).then (left.stop.compare right.stop)

def record : Decode.Record Range where
  name := "Range"
  strict := false
  fields := [
    { name := "start"
      required := true
      read := fun json range => (Position.decode json).map fun start => { range with start } },
    { name := "end"
      required := true
      read := fun json range => (Position.decode json).map fun stop => { range with stop } }]
  initial := documentStart

def decode : Decode.Decoder Range :=
  record.decode Decode.dataFormat

def toJson (range : Range) : Json :=
  .ofMembers [("start", range.start.toJson), ("end", range.stop.toJson)]

end Range

namespace Severity

def all : List Severity := [.error, .warning, .information, .hint]

def code : Severity → Nat
  | .error => 1
  | .warning => 2
  | .information => 3
  | .hint => 4

def name : Severity → String
  | .error => "Error"
  | .warning => "Warning"
  | .information => "Information"
  | .hint => "Hint"

def isError (severity : Severity) : Bool := severity == .error

def unknownMessage (code : Nat) : String :=
  "unknown diagnostic severity " ++ toString code

def ofCode? (code : Nat) : Option Severity :=
  all.find? fun severity => severity.code == code

def decode : Decode.Decoder Severity := fun json => do
  let code ← Decode.nat "u8" 255 json
  match ofCode? code with
  | some severity => .ok severity
  | none => .error (.refused (unknownMessage code))

end Severity

namespace Stage

/-- The stages in the order in which a pass runs them. -/
def all : List Stage := [.model, .logic, .template, .sample]

def name : Stage → String
  | .model => "model"
  | .logic => "logic"
  | .template => "template"
  | .sample => "sample"

def rank : Stage → Nat
  | .model => 0
  | .logic => 1
  | .template => 2
  | .sample => 3

def decode : Decode.Decoder Stage :=
  Decode.variant (all.map fun stage => (stage.name, stage))

end Stage

namespace Diagnostic

def error (range : Range) (message : String) (stage : Stage) : Diagnostic :=
  ⟨range, .error, stage, message⟩

def compare (left right : Diagnostic) : Ordering :=
  (left.range.compare right.range).then <|
    (Ord.compare left.severity.code right.severity.code).then <|
      (Ord.compare left.stage.rank right.stage.rank).then <|
        Ord.compare left.message right.message

def record : Decode.Record Diagnostic where
  name := "Diagnostic"
  strict := false
  fields := [
    { name := "range"
      required := true
      read := fun json diagnostic =>
        (Range.decode json).map fun range => { diagnostic with range } },
    { name := "severity"
      required := true
      read := fun json diagnostic =>
        (Severity.decode json).map fun severity => { diagnostic with severity } },
    { name := "source"
      required := true
      read := fun json diagnostic =>
        (Stage.decode json).map fun stage => { diagnostic with stage } },
    { name := "message"
      required := true
      read := fun json diagnostic =>
        (Decode.text json).map fun message => { diagnostic with message } }]
  initial := ⟨.documentStart, .error, .model, ""⟩

def decode : Decode.Decoder Diagnostic :=
  record.decode Decode.dataFormat

def toJson (diagnostic : Diagnostic) : Json :=
  .ofMembers [
    ("range", diagnostic.range.toJson),
    ("severity", .int diagnostic.severity.code),
    ("source", .str diagnostic.stage.name),
    ("message", .str diagnostic.message)]

end Diagnostic

end TemplateCheck
