import TemplateCheck.Diagnostic
import TemplateCheck.Failure
import TemplateCheck.Uri.Basic

/-! # Placing failures

A failure becomes a range in a file. The range comes from its positions, counted
from zero. The file is the one it names, else the one its verbose text names,
else its model file, else the document that was edited. -/

namespace TemplateCheck

/-- What a pass is about: the edited document and the package around it. -/
structure Subject where
  uri : Uri
  path : Path
  root : Option Path
  deriving Repr, DecidableEq, Inhabited

namespace Subject

/-- The URI of a path. The document itself keeps the spelling of its own URI. -/
def uriFor? (subject : Subject) (path : Path) : Option Uri :=
  if path.same subject.path then some subject.uri else Uri.ofPath? path

end Subject

def SourcePosition.toPosition (position : SourcePosition) : Position :=
  ⟨if position.line = 0 then 0 else position.line - 1, position.column⟩

namespace Descriptor

def knownStart? (descriptor : Descriptor) : Option Position :=
  (descriptor.start.filter SourcePosition.isKnown).map SourcePosition.toPosition

def knownStop? (descriptor : Descriptor) : Option Position :=
  (descriptor.stop.filter SourcePosition.isKnown).map SourcePosition.toPosition

/-- A point error lies at its start, or reaches from the start of the document
to its end. Any other error needs both positions. -/
def range (descriptor : Descriptor) : Range :=
  if descriptor.kind.isPointError then
    match descriptor.knownStart?, descriptor.knownStop? with
    | some start, _ => .point start
    | none, some stop => ⟨.zero, stop⟩
    | none, none => .documentStart
  else
    match descriptor.knownStart?, descriptor.knownStop? with
    | some start, some stop => ⟨start, stop⟩
    | _, _ => .documentStart

end Descriptor

namespace Failure

def range (failure : Failure) : Range :=
  match failure.location with
  | .file start stop => ⟨start.toPosition, stop.toPosition⟩
  | .descriptor descriptor => descriptor.range
  | .unlocated => .documentStart

end Failure

/-! Verbose text names a file as `at file <path>`, where the path ends with the
extension of logic files. The path reaches to the last such extension on its
line, so it may contain blanks. -/

namespace Verbose

def marker : List Char := "at file ".toList

/-- The longest beginning that ends with the given ending and has at least one
character, and no line break, before it. -/
def throughLast (ending : List Char) : List Char → Option (List Char)
  | [] => none
  | first :: rest =>
      if first = '\n' then none
      else
        match throughLast ending rest with
        | some found => some (first :: found)
        | none => if ending.isPrefixOf rest then some (first :: ending) else none

/-- The path that the first marker with a path after it names. -/
def path? (ending : List Char) : List Char → Option (List Char)
  | [] => none
  | first :: rest =>
      match Text.afterStart? marker (first :: rest) with
      | some after =>
          match throughLast ending after with
          | some found => some found
          | none => path? ending rest
      | none => path? ending rest

end Verbose

namespace Failure

def verbosePath? (failure : Failure) (logicExtension : String) : Option Path := do
  let verbose ← failure.verbose?
  let found ← Verbose.path? ('.' :: logicExtension.toList) verbose.toList
  return ⟨String.ofList found⟩

/-- The file that a failure names in one way or another. -/
def namedFile? (failure : Failure) (logicExtension : String) : Option Path :=
  failure.file.or ((failure.verbosePath? logicExtension).or (failure.modelFile.map Path.mk))

/-- The URI that a failure is shown at. -/
def place (failure : Failure) (logicExtension : String) (subject : Subject) : Uri :=
  match failure.namedFile? logicExtension with
  | none => subject.uri
  | some path =>
      let full := match subject.root with
        | some root => if path.isAbsolute then path else root.join path
        | none => path
      (subject.uriFor? full).getD subject.uri

end Failure

end TemplateCheck
