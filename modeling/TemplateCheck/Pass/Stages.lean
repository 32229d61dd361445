import TemplateCheck.Pass.Basic

/-! # The stages of a pass

A stage has two halves. The first one feeds the engine and ends with a request
that the engine may take its time to answer: to resolve the models, to compile
the logic, or to load the template. The second half starts with the answer, and
reads the files as they are then. The sample stage asks for nothing that takes
time; its second half reads and parses the sample. -/

namespace TemplateCheck.Pass

variable {engine : Engine}

/-! Models are loaded from scratch: the registry is cleared, and every model
file is added under its namespace or replaces what an earlier file declared. -/

/-- Give the engine the text of one model file. -/
def storeModel (work : Work engine) (path : Path) (content : String) : Work engine × Answer :=
  let work := work.call (.namespaceOf content path)
  match engine.namespaceOf work.models content path with
  | .error setback => (work, .error setback)
  | .ok name =>
      let work := work.call (.hasNamespace name)
      if engine.hasNamespace work.models name then
        let work := work.call (.update content path)
        let (models, answer) := engine.update work.models content path
        ({ work with models }, answer)
      else
        let work := work.call (.add content path)
        let (models, answer) := engine.add work.models content path
        ({ work with models }, answer)

def loadModel (files : FileSystem) (context : Context) (work : Work engine) (path : Path) :
    Work engine × Answer :=
  match readSource files context work path with
  | (work, .error setback) => (work, .error setback)
  | (work, .ok content) => storeModel work path content

/-- Load one file after the other. Every file is listed as valid before it is
loaded; the first that fails ends the stage. -/
def loadAll (load : Work engine → Path → Work engine × Answer) (context : Context)
    (stage : Stage) : List Path → Work engine → Work engine × Half
  | [], work => (work, .waiting)
  | path :: rest, work =>
      match work.mark? context path with
      | none => (work, .over .aborted)
      | some work =>
          match load work path with
          | (work, .error setback) =>
              let (work, verdict) := work.endWith context stage setback
              (work, .over verdict)
          | (work, .ok ()) => loadAll load context stage rest work

/-- The model files that a pass loads. -/
def modelFiles (files : FileSystem) (context : Context) : List Path :=
  context.checker.sources.find files
    (Package.searchFolders context.path (context.layout.modelsDirectory context.root)) .models

def startModels (files : FileSystem) (context : Context) (work : Work engine) :
    Work engine × Half :=
  let work := work.call .clear
  let work := { work with models := engine.clear work.models }
  match loadAll (loadModel files context) context .model (modelFiles files context) work with
  | (work, .waiting) => (work.call .resolve, .waiting)
  | ended => ended

def finishModels (context : Context) (work : Work engine) : Work engine × Verdict :=
  let (models, answer) := engine.resolve work.models
  let work := { work with models }
  match answer with
  | .error setback => work.endWith context .model setback
  | .ok () => (work, .passed)

/-! Logic is kept from pass to pass: units whose file is gone are removed, and
the units of the files found are replaced. -/

/-- Whether the unit at a path is out of date: its file is gone, and it is not
the edited document. -/
def isStaleUnit (files : FileSystem) (context : Context) (path : Path) : Bool :=
  !path.same context.path && files.isMissing path

def removeUnits : List Path → Work engine → Work engine
  | [], work => work
  | path :: rest, work =>
      let work := work.call (.removeUnit path)
      removeUnits rest { work with logic := engine.removeUnit work.logic path }

def loadUnit (files : FileSystem) (context : Context) (work : Work engine) (path : Path) :
    Work engine × Answer :=
  match readSource files context work path with
  | (work, .error setback) => (work, .error setback)
  | (work, .ok content) =>
      let work := work.call (.updateUnit content path)
      let (logic, answer) := engine.updateUnit work.logic content path
      ({ work with logic }, answer)

/-- The logic files that a pass loads. -/
def logicFiles (files : FileSystem) (context : Context) : List Path :=
  context.checker.sources.find files
    (Package.searchFolders context.path (context.layout.logicDirectory context.root)) .logic

def startLogic (files : FileSystem) (context : Context) (work : Work engine) :
    Work engine × Half :=
  let work := work.call .unitPaths
  let work :=
    removeUnits ((engine.unitPaths work.logic).filter (isStaleUnit files context)) work
  match loadAll (loadUnit files context) context .logic (logicFiles files context) work with
  | (work, .waiting) => (work.call (.compile true), .waiting)
  | ended => ended

def finishLogic (context : Context) (work : Work engine) : Work engine × Verdict :=
  let (logic, answer) := engine.compile work.logic work.models true
  let work := { work with logic }
  match answer with
  | .error setback => work.endWith context .logic setback
  | .ok () => (work, .passed)

/-! The template is loaded from the package directory. An edited grammar file
replaces the grammar on disk. Failures are shown on the grammar file. -/

def startTemplate (context : Context) (work : Work engine) : Work engine × Half :=
  match work.mark? context (context.layout.grammarFile context.root) with
  | none => (work, .over .aborted)
  | some work => (work.call (.load context.root), .waiting)

/-- Use the editor's grammar, if the document is a grammar. -/
def applyGrammar (context : Context) (work : Work engine) (template : engine.Template) :
    Work engine × Except Setback engine.Template :=
  if context.kind = .grammar then
    let work := work.call (.buildGrammar context.document.text)
    match engine.buildGrammar template context.document.text with
    | (_, .error setback) => (work, .error setback)
    | (template, .ok ()) => (work, .ok template)
  else (work, .ok template)

def buildTemplate (files : FileSystem) (context : Context) (work : Work engine) :
    Work engine × Except Setback engine.Template :=
  match engine.loadTemplate files context.root with
  | .error setback => (work, .error setback)
  | .ok template =>
      match applyGrammar context work template with
      | (work, .error setback) => (work, .error setback)
      | (work, .ok template) =>
          let work := work.call (.validate template)
          match engine.validate template with
          | .error setback => (work, .error setback)
          | .ok () => (work, .ok template)

def finishTemplate (files : FileSystem) (context : Context) (work : Work engine) :
    Work engine × Verdict :=
  match buildTemplate files context work with
  | (work, .error setback) =>
      work.endWith context .template
        (setback.withFile (context.layout.grammarFile context.root))
  | (work, .ok template) => ({ work with template := some template }, .passed)

/-! The sample is parsed with the template. Failures are shown on the sample
file. -/

def parseSample (files : FileSystem) (work : Work engine) (template : engine.Template)
    (path : Path) : Work engine × Answer :=
  match readFile files work path with
  | (work, .error setback) => (work, .error setback)
  | (work, .ok sample) =>
      let work := (work.call .newClause).call (.parse sample)
      match engine.parseSample template sample with
      | .error setback => (work, .error setback)
      | .ok () => (work.call .data, .ok ())

def startSample (context : Context) (work : Work engine) : Work engine × Half :=
  match work.mark? context (context.layout.sampleFile context.root) with
  | none => (work, .over .aborted)
  | some work => (work, .waiting)

/-- Parse the sample. The stage comes after a template stage that passed, so
there is a template. -/
def finishSample (files : FileSystem) (context : Context) (work : Work engine) :
    Work engine × Verdict :=
  match work.template with
  | none => (work, .aborted)
  | some template =>
      let path := context.layout.sampleFile context.root
      match parseSample files work template path with
      | (work, .error setback) => work.endWith context .sample (setback.withFile path)
      | (work, .ok ()) => (work, .passed)

def start (files : FileSystem) (context : Context) (work : Work engine) :
    Stage → Work engine × Half
  | .model => startModels files context work
  | .logic => startLogic files context work
  | .template => startTemplate context work
  | .sample => startSample context work

def finish (files : FileSystem) (context : Context) (work : Work engine) :
    Stage → Work engine × Verdict
  | .model => finishModels context work
  | .logic => finishLogic context work
  | .template => finishTemplate files context work
  | .sample => finishSample files context work

/-- The points at which the engine may take its time. -/
inductive Point where
  | resolve
  | compile
  | load
  deriving Repr, DecidableEq

/-- The point between the halves of a stage. -/
def point? : Stage → Option Point
  | .model => some .resolve
  | .logic => some .compile
  | .template => some .load
  | .sample => none

end TemplateCheck.Pass
