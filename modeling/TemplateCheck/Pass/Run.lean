import TemplateCheck.Pass.Stages

/-! # A pass on its own

A pass that nothing interrupts: no other pass uses its package, no newer edit
arrives, and the files stay as they are. -/

namespace TemplateCheck.Pass

variable {engine : Engine}

def runStage (files : FileSystem) (context : Context) (work : Work engine) (stage : Stage) :
    Work engine × Verdict :=
  match start files context work stage with
  | (work, .over verdict) => (work, verdict)
  | (work, .waiting) => finish files context work stage

/-- Run stages in order, up to the first that does not pass. There are no results
if the engine broke down. -/
def runStages (files : FileSystem) (context : Context) :
    List Stage → Work engine → Work engine × Option (List StageResult)
  | [], work => (work, some [])
  | stage :: rest, work =>
      match runStage files context work stage with
      | (work, .passed) =>
          let (work, results) := runStages files context rest work
          (work, results.map (⟨stage, true⟩ :: ·))
      | (work, .broken) => (work, none)
      | (work, _) => (work, some [⟨stage, false⟩])

structure Registries (engine : Engine) where
  models : engine.Models
  logic : engine.Logic

/-- What a pass on its own leaves behind, with what its stages did. -/
structure Finished (engine : Engine) where
  outcome : Outcome
  registries : Registries engine
  actions : List (Action engine.Template)

/-- Run the stages of a package's pass on its registries. -/
def run (files : FileSystem) (context : Context) (registries : Registries engine) :
    Finished engine :=
  let (work, results) := runStages files context (stagesFor context.kind)
    { models := registries.models, logic := registries.logic }
  let outcome := match results with
    | some stages => .completed ⟨some context.root, stages, work.report⟩
    | none => .broken
  ⟨outcome, ⟨work.models, work.logic⟩, work.actions⟩

/-- Check a document on the registries of its package. -/
def validate (files : FileSystem) (checker : Checker) (document : Document)
    (registries : Registries engine) : Finished engine :=
  match arrive files checker document with
  | .error outcome => ⟨outcome, registries, []⟩
  | .ok context => run files context registries

end TemplateCheck.Pass
