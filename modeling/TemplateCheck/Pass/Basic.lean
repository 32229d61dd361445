import TemplateCheck.Engine.Basic
import TemplateCheck.Locate
import TemplateCheck.Package.Root
import TemplateCheck.Package.Sources
import TemplateCheck.Report

/-! # Validation passes

A pass checks one edited document. It finds the root of the package around the
document and then runs the stages that the kind of the document asks for; the
first stage that fails ends it. The result is a report on the files that the
pass looked at. -/

namespace TemplateCheck

/-- A document with the text that the editor shows. -/
structure Document where
  uri : Uri
  text : String
  deriving Repr, DecidableEq, Inhabited

/-- A layout with the patterns of its source files. -/
structure Checker where
  layout : Package.Layout
  sources : Package.Sources
  deriving Repr, Inhabited

/-- The checker of a layout. A pattern may be of any size. -/
def Checker.ofLayout (layout : Package.Layout) : Except Package.SourcesFault Checker := do
  return ⟨layout, ← Package.Sources.ofLayout layout⟩

/-- How a stage ended. An aborted stage met a path that no file URI can name, and
fails without a diagnostic; in a broken one the engine broke down. -/
inductive Verdict where
  | passed
  | failed
  | aborted
  | broken
  deriving Repr, DecidableEq

structure StageResult where
  stage : Stage
  passed : Bool
  deriving Repr, DecidableEq, Inhabited

/-- What a pass that ran to its end found. There is no root where no package
encloses the document. -/
structure Completed where
  root : Option Path
  stages : List StageResult
  report : Report
  deriving Repr, DecidableEq, Inhabited

namespace Completed

def ran (completed : Completed) (stage : Stage) : Bool :=
  completed.stages.any fun result => result.stage == stage

def passed (completed : Completed) (stage : Stage) : Bool :=
  completed.stages.any fun result => result.stage == stage && result.passed

end Completed

/-- How a pass ended. A superseded pass has nothing to publish: a newer edit of
its document took over. Nor has one that the engine broke. -/
inductive Outcome where
  | completed (result : Completed)
  | superseded
  | notAFile (uri : Uri)
  | broken
  deriving Repr, DecidableEq, Inhabited

def notAFileMessage (uri : Uri) : String :=
  "document URI is not a file URI: " ++ uri.text

/-- What an ended pass publishes. -/
def Outcome.batches : Outcome → List Batch
  | .completed result => result.report.batches
  | _ => []

/-- The stages that a kind of document asks for. -/
def stagesFor : Package.SourceKind → List Stage
  | .model => [.model, .logic, .template, .sample]
  | .logic => [.model, .logic]
  | .grammar => [.model, .template, .sample]
  | .other => [.model]

namespace Pass

structure Context where
  checker : Checker
  document : Document
  path : Path
  root : Path
  deriving Repr, Inhabited

namespace Context

def layout (context : Context) : Package.Layout := context.checker.layout

def kind (context : Context) : Package.SourceKind := context.layout.classify context.path

def subject (context : Context) : Subject where
  uri := context.document.uri
  path := context.path
  root := some context.root

end Context

/-- The result of a pass outside of all packages: one error on the document. -/
def rootless (layout : Package.Layout) (document : Document) (path : Path) : Completed where
  root := none
  stages := []
  report := Report.empty.add document.uri
    (.error .documentStart (Package.rootNotFoundMessage layout path) .template)

/-- Where a pass begins: it ends at once, or it has found its package. -/
def arrive (files : FileSystem) (checker : Checker) (document : Document) :
    Except Outcome Context :=
  match document.uri.toPath? with
  | none => .error (.notAFile document.uri)
  | some path =>
      match Package.findRoot? files checker.layout path with
      | none => .error (.completed (rootless checker.layout document path))
      | some root => .ok ⟨checker, document, path, root⟩

/-- The manifests that are read on the way to the package of a document. -/
def manifestsRead (files : FileSystem) (checker : Checker) (document : Document) : List Path :=
  match document.uri.toPath? with
  | none => []
  | some path => Package.manifestsRead files checker.layout path

/-- What the stages of a pass work on: the registries of the package, the
template once it is built, the report, and a record of what was done. -/
structure Work (engine : Engine) where
  models : engine.Models
  logic : engine.Logic
  template : Option engine.Template := none
  report : Report := {}
  actions : List (Action engine.Template) := []

namespace Work

variable {engine : Engine}

def act (work : Work engine) (action : Action engine.Template) : Work engine :=
  { work with actions := work.actions ++ [action] }

def call (work : Work engine) (call : Call engine.Template) : Work engine :=
  work.act (.call call)

/-- List a file as valid, if it has a URI. -/
def mark? (work : Work engine) (context : Context) (path : Path) : Option (Work engine) :=
  (context.subject.uriFor? path).map fun uri =>
    { work.act (.mark path) with report := work.report.markValid uri }

/-- Show a failure as an error of a stage. -/
def fail (work : Work engine) (context : Context) (stage : Stage) (failure : Failure) :
    Work engine :=
  let uri := failure.place context.layout.logicExtension context.subject
  { work with report := work.report.add uri (.error failure.range failure.message stage) }

def endWith (work : Work engine) (context : Context) (stage : Stage) (setback : Setback) :
    Work engine × Verdict :=
  match setback with
  | .failure failure => (work.fail context stage failure, .failed)
  | .breakdown => (work, .broken)

end Work

def readFile {engine : Engine} (files : FileSystem) (work : Work engine) (path : Path) :
    Work engine × Except Setback String :=
  let work := work.act (.read path)
  match files.readText path with
  | .ok text => (work, .ok text)
  | .error fault => (work, .error (.failure (.ofRead path fault.message)))

/-- The text of a source: the editor's text for the edited document, the text on
disk for any other file. -/
def readSource {engine : Engine} (files : FileSystem) (context : Context) (work : Work engine)
    (path : Path) : Work engine × Except Setback String :=
  if path.same context.path then (work, .ok context.document.text)
  else readFile files work path

/-- The first half of a stage ends it or hands over to the engine. -/
inductive Half where
  | over (verdict : Verdict)
  | waiting
  deriving Repr, DecidableEq

end Pass

end TemplateCheck
