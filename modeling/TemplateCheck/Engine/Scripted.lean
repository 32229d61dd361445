import TemplateCheck.Engine.Basic
import TemplateCheck.Engine.Directive

/-! # The scripted engine

An engine that does what the directives in its sources say. Imports are checked
against the namespaces that are loaded; everything else succeeds unless a
directive asks for something else. -/

namespace TemplateCheck.Scripted

/-- The texts of the models by namespace, with the path of each. -/
abbrev Models := List (String × Path × String)

/-- The texts of the units by path. -/
abbrev Logic := List (Path × String)

/-- A template is its grammar text. -/
structure Template where
  grammar : String
  deriving Repr, DecidableEq

def hasNamespace (models : Models) (name : String) : Bool :=
  models.any fun entry => entry.1 == name

def namespaceOf (content : String) (path : Path) : Except Setback String := do
  Directive.obey "namespace_of" content
  match Directive.namespace? content with
  | some name => .ok name
  | none =>
      let failure : Failure :=
        { message := "Expected namespace declaration", modelFile := some path.text }
      .error (.failure failure)

/-- Store a text under its namespace, unless a directive of the operation or the
namespace stands against it. -/
def store (operation : String) (models : Models) (content : String) (path : Path) :
    Models × Answer :=
  let outcome := do
    Directive.obey operation content
    namespaceOf content path
  match outcome with
  | .error setback => (models, .error setback)
  | .ok name => (Ordered.put compare name (path, content) models, .ok ())

def checkModel (models : Models) (path : Path) (content : String) : Answer := do
  Directive.obey "resolve" content
  match (Directive.imports content).find? fun (name, _) => !hasNamespace models name with
  | some (name, _) =>
      let failure : Failure :=
        { message := "Unable to resolve import " ++ name, modelFile := some path.text }
      .error (.failure failure)
  | none => .ok ()

def resolve (models : Models) : Answer :=
  models.forM fun (_, path, content) => checkModel models path content

def checkUnit (models : Models) (path : Path) (content : String) : Answer := do
  Directive.obey "compile" content
  match (Directive.imports content).find? fun (name, _) => !hasNamespace models name with
  | some (name, line) =>
      let descriptor : Descriptor := {
        kind := .typeError
        start := some ⟨.ofNat line, 7⟩
        stop := none
        verbose := some ("Type error (at file " ++ path.text ++ " line " ++ toString line ++
          " col 7).") }
      let failure : Failure := { message := "Import not found: " ++ name }
      .error (.failure (failure.withDescriptor descriptor))
  | none => .ok ()

def compile (logic : Logic) (models : Models) : Answer :=
  logic.forM fun (path, content) => checkUnit models path content

def updateUnit (logic : Logic) (content : String) (path : Path) : Logic × Answer :=
  match Directive.obey "update_unit" content with
  | .error setback => (logic, .error setback)
  | .ok () => (Ordered.put Path.compare path content logic, .ok ())

/-- The grammar file of a package, whatever its layout says. -/
def grammarFile (root : Path) : Path :=
  (root.join ⟨"grammar"⟩).join ⟨"template.tem"⟩

def loadTemplate (files : FileSystem) (root : Path) : Except Setback Template := do
  let path := grammarFile root
  match files.readText path with
  | .error fault => .error (.failure (.ofRead path fault.message))
  | .ok grammar => do
      Directive.obey "load" grammar
      return ⟨grammar⟩

def buildGrammar (template : Template) (grammar : String) : Template × Answer :=
  match Directive.obey "build" grammar with
  | .error setback => (template, .error setback)
  | .ok () => (⟨grammar⟩, .ok ())

def engine : Engine where
  Models := Models
  Logic := Logic
  Template := Template
  newModels := []
  newLogic := []
  clear _ := []
  namespaceOf _ := namespaceOf
  hasNamespace := hasNamespace
  add := store "add"
  update := store "update"
  resolve models := (models, resolve models)
  updateUnit := updateUnit
  removeUnit logic path := Ordered.erase Path.compare path logic
  unitPaths logic := logic.map Prod.fst
  compile logic models _ := (logic, compile logic models)
  loadTemplate := loadTemplate
  buildGrammar := buildGrammar
  validate template := Directive.obey "validate" template.grammar
  parseSample _ := Directive.obey "parse"

end TemplateCheck.Scripted
