import TemplateCheck.Engine.Basic
import TemplateCheck.Json.Parser
import TemplateCheck.Text.Blank

/-! # Directives

Source text can say how an engine should treat it. A line `@name failure` makes
the named operation fail, with the failure written as JSON; a directive that does
not spell a failure makes the engine break down. A line `namespace x` declares a
namespace, and a line `import x` names one. -/

namespace TemplateCheck.Directive

/-- The lines of a text. Only the line feed ends a line. -/
def lines (content : String) : List (List Char) :=
  Text.splitAt '\n' content.toList

def natOf? : Json → Option Nat
  | .int value => if 0 ≤ value then some value.toNat else none
  | _ => none

/-- A position given as a pair, or null. -/
def position? : Json → Option (Option SourcePosition)
  | .null => some none
  | .arr [line, column] => do
      return some ⟨.ofNat (← natOf? line), .ofNat (← natOf? column)⟩
  | _ => none

def optionalText? : Json → Option (Option String)
  | .null => some none
  | .str text => some (some text)
  | _ => none

def refine? (failure : Failure) : Json → Option Failure
  | .arr [.str "file", .str path] => some (failure.withFile ⟨path⟩)
  | .arr [.str "model_file", .str name] => some (failure.withModelFile name)
  | .arr [.str "at", firstLine, firstColumn, lastLine, lastColumn] => do
      let start : SourcePosition := ⟨.ofNat (← natOf? firstLine), .ofNat (← natOf? firstColumn)⟩
      let stop : SourcePosition := ⟨.ofNat (← natOf? lastLine), .ofNat (← natOf? lastColumn)⟩
      return failure.between start stop
  | .arr [.str "desc", .str tag, start, stop, verbose] => do
      return failure.withDescriptor
        ⟨.ofTag tag, ← position? start, ← position? stop, ← optionalText? verbose⟩
  | _ => none

/-- A failure without refinements: a message, or a path and the reason why it
could not be read. -/
def plainFailure? (json : Json) : Option Failure :=
  match json.get? "io" with
  | some (.arr [.str path, .str reason]) => some (.ofRead ⟨path⟩ reason)
  | some _ => none
  | none => ((json.get? "message").bind Json.text?).map fun message => { message }

/-- A failure written as JSON, with refinements in order. -/
def failure? (json : Json) : Option Failure := do
  let plain ← plainFailure? json
  match json.get? "build" with
  | some (.arr steps) => steps.foldlM refine? plain
  | _ => some plain

/-- What the first directive of a name says. -/
def find? (name : String) (content : String) : Option (List Char) :=
  (lines content).findSome? (Text.afterStart? ('@' :: name.toList ++ [' ']))

def obey (name : String) (content : String) : Answer :=
  match find? name content with
  | none => .ok ()
  | some text =>
      match (Json.parseChars text).bind failure? with
      | some failure => .error (.failure failure)
      | none => .error .breakdown

def namespace? (content : String) : Option String :=
  ((lines content).findSome? (Text.afterStart? "namespace ".toList)).map String.ofList

/-- The namespaces that a text imports, with the numbers of their lines. -/
def imports (content : String) : List (String × Nat) :=
  (lines content).zipIdx.filterMap fun (line, index) =>
    (Text.afterStart? "import ".toList line).map fun rest => (String.ofList rest, index + 1)

end TemplateCheck.Directive
