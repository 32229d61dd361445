import TemplateCheck.Failure
import TemplateCheck.FileSystem.Basic

/-! # Compilation engines

The compilers that a check drives. An engine keeps the models of a package in a
registry keyed by namespace and its logic in a registry of source units keyed by
path, and it builds templates from a package directory. Registries and templates
are values, so an operation gives the registry after it together with its
answer: a registry may change even when the operation fails.
-/

namespace TemplateCheck

/-- Why an operation did not succeed: it reports a failure, or the engine broke
down and has nothing to report. -/
inductive Setback where
  | failure (failure : Failure)
  | breakdown
  deriving Repr, DecidableEq, Inhabited

def Setback.withFile (setback : Setback) (path : Path) : Setback :=
  match setback with
  | .failure reported => .failure (reported.withFile path)
  | .breakdown => .breakdown

/-- The answer of an operation that only succeeds or not. -/
abbrev Answer := Except Setback Unit

structure Engine where
  Models : Type
  Logic : Type
  Template : Type
  newModels : Models
  newLogic : Logic
  clear : Models → Models
  namespaceOf : Models → String → Path → Except Setback String
  hasNamespace : Models → String → Bool
  /-- Store a text under a namespace that is not there yet. -/
  add : Models → String → Path → Models × Answer
  /-- Replace the text of a namespace. -/
  update : Models → String → Path → Models × Answer
  /-- Fetch what the models import from elsewhere. -/
  resolve : Models → Models × Answer
  updateUnit : Logic → String → Path → Logic × Answer
  removeUnit : Logic → Path → Logic
  unitPaths : Logic → List Path
  compile : Logic → Models → Bool → Logic × Answer
  loadTemplate : FileSystem → Path → Except Setback Template
  buildGrammar : Template → String → Template × Answer
  validate : Template → Answer
  /-- Parse a sample text with a fresh clause of a template. -/
  parseSample : Template → String → Answer

inductive Call (Template : Type) where
  | newModels
  | newLogic
  | clear
  | namespaceOf (content : String) (path : Path)
  | hasNamespace (name : String)
  | add (content : String) (path : Path)
  | update (content : String) (path : Path)
  | resolve
  | unitPaths
  | updateUnit (content : String) (path : Path)
  | removeUnit (path : Path)
  | compile (strict : Bool)
  | load (root : Path)
  | buildGrammar (grammar : String)
  | validate (template : Template)
  | newClause
  | parse (sample : String)
  | data
  deriving Repr, DecidableEq

/-- What a pass does: it lists a path in its report, reads a file, or calls the
engine. -/
inductive Action (Template : Type) where
  | mark (path : Path)
  | read (path : Path)
  | call (call : Call Template)
  deriving Repr, DecidableEq

end TemplateCheck
