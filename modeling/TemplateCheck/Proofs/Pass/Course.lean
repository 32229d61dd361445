import TemplateCheck.Proofs.Path.Absolute

/-! # The course of a pass

All stages go the same way: a stage prepares its registries, lists and loads its
files one after the other, and then asks the engine. The first file that does not
load ends it, and else the engine's answer does. So there is one relation for the
course of a stage, and one for the course of a pass, which says how far it came
and what set it back.
-/

namespace TemplateCheck.Pass

variable {engine : Engine}

/-- What a stage does before, with and after its files. -/
structure Procedure (engine : Engine) where
  prepare : Work engine → Work engine
  load : Work engine → Path → Work engine × Answer
  question : Option (Call engine.Template)
  ask : Work engine → Work engine × Answer

/-- A file that is listed and not loaded. -/
def loadNothing (work : Work engine) (_ : Path) : Work engine × Answer :=
  (work, .ok ())

def askModels (work : Work engine) : Work engine × Answer :=
  ({ work with models := (engine.resolve work.models).1 }, (engine.resolve work.models).2)

def askLogic (work : Work engine) : Work engine × Answer :=
  ({ work with logic := (engine.compile work.logic work.models true).1 },
    (engine.compile work.logic work.models true).2)

def askTemplate (files : FileSystem) (context : Context) (work : Work engine) :
    Work engine × Answer :=
  match buildTemplate files context work with
  | (work, .error setback) =>
      (work, .error (setback.withFile (context.layout.grammarFile context.root)))
  | (work, .ok template) => ({ work with template := some template }, .ok ())

/-- Without a template there is nothing to parse with. -/
def askSample (files : FileSystem) (context : Context) (work : Work engine) :
    Work engine × Answer :=
  match work.template with
  | none => (work, .error .breakdown)
  | some template =>
      match parseSample files work template (context.layout.sampleFile context.root) with
      | (work, .error setback) =>
          (work, .error (setback.withFile (context.layout.sampleFile context.root)))
      | (work, .ok ()) => (work, .ok ())

def procedure (files : FileSystem) (context : Context) : Stage → Procedure engine
  | .model => {
      prepare := fun work => { work.call .clear with models := engine.clear work.models }
      load := loadModel files context
      question := some .resolve
      ask := askModels }
  | .logic => {
      prepare := fun work =>
        removeUnits ((engine.unitPaths work.logic).filter (isStaleUnit files context))
          (work.call .unitPaths)
      load := loadUnit files context
      question := some (.compile true)
      ask := askLogic }
  | .template => {
      prepare := id
      load := loadNothing
      question := some (.load context.root)
      ask := askTemplate files context }
  | .sample => {
      prepare := id
      load := loadNothing
      question := none
      ask := askSample files context }

/-- Put the question of a stage on record, if it has one. -/
def Work.pose (work : Work engine) : Option (Call engine.Template) → Work engine
  | none => work
  | some call => work.call call

/-- The verdict on a stage, by the answer it got. -/
def conclude (context : Context) (stage : Stage) : Work engine × Answer → Work engine × Verdict
  | (work, .ok ()) => (work, .passed)
  | (work, .error setback) => work.endWith context stage setback

/-! ## The halves of a stage -/

variable (files : FileSystem) (context : Context)

theorem loadAll_cons (load : Work engine → Path → Work engine × Answer) (stage : Stage)
    (path : Path) (rest : List Path) (work : Work engine) :
    loadAll load context stage (path :: rest) work =
      match work.mark? context path with
      | none => (work, .over .aborted)
      | some marked =>
          match load marked path with
          | (loaded, .error setback) =>
              ((loaded.endWith context stage setback).1,
                .over (loaded.endWith context stage setback).2)
          | (loaded, .ok ()) => loadAll load context stage rest loaded :=
  loadAll.eq_def load context stage (path :: rest) work

theorem start_eq_loadAll (work : Work engine) (stage : Stage) :
    start files context work stage =
      match loadAll (procedure files context stage).load context stage (filesOf files context stage)
        ((procedure files context stage).prepare work) with
      | (loaded, .waiting) => (loaded.pose (procedure files context stage).question, .waiting)
      | ended => ended := by
  cases stage with
  | model =>
      rw [start_model_eq]
      dsimp only [procedure, filesOf]
      generalize loadAll _ _ _ _ _ = loaded
      rcases loaded with ⟨work, verdict | _⟩
      · rfl
      · rfl
  | logic =>
      rw [start_logic_eq]
      dsimp only [procedure, filesOf]
      generalize loadAll _ _ _ _ _ = loaded
      rcases loaded with ⟨work, verdict | _⟩
      · rfl
      · rfl
  | template =>
      unfold start startTemplate
      dsimp only [procedure, filesOf, id_eq]
      rw [loadAll_cons]
      cases work.mark? context (context.layout.grammarFile context.root) with
      | none => rfl
      | some marked => rfl
  | sample =>
      unfold start startSample
      dsimp only [procedure, filesOf, id_eq]
      rw [loadAll_cons]
      cases work.mark? context (context.layout.sampleFile context.root) with
      | none => rfl
      | some marked => rfl

/-- A sample needs the template that an earlier stage has built. -/
def Ready (work : Work engine) (stage : Stage) : Prop :=
  stage = .sample → work.template ≠ none

theorem finish_eq_conclude {work : Work engine} {stage : Stage} (ready : Ready work stage) :
    finish files context work stage =
      conclude context stage ((procedure files context stage).ask work) := by
  cases stage with
  | model =>
      rcases answered : engine.resolve work.models with ⟨models, setback | _⟩
      · simp only [finish, finishModels, procedure, askModels, answered, conclude]
      · simp only [finish, finishModels, procedure, askModels, answered, conclude]
  | logic =>
      rcases answered : engine.compile work.logic work.models true with ⟨logic, setback | _⟩
      · simp only [finish, finishLogic, procedure, askLogic, answered, conclude]
      · simp only [finish, finishLogic, procedure, askLogic, answered, conclude]
  | template =>
      rcases built : buildTemplate files context work with ⟨result, setback | template⟩
      · simp only [finish, finishTemplate, procedure, askTemplate, built, conclude]
      · simp only [finish, finishTemplate, procedure, askTemplate, built, conclude]
  | sample =>
      cases present : work.template with
      | none => exact absurd present (ready rfl)
      | some template =>
          rcases parsed : parseSample files work template
            (context.layout.sampleFile context.root) with ⟨result, setback | _⟩
          · simp only [finish, finishSample, procedure, askSample, present, parsed, conclude]
          · simp only [finish, finishSample, procedure, askSample, present, parsed, conclude]

/-! ## Loading -/

/-- These files load, one after the other, each listed before it is loaded. -/
inductive Loads (load : Work engine → Path → Work engine × Answer) (context : Context) :
    Work engine → List Path → Work engine → Prop
  | done (work : Work engine) : Loads load context work [] work
  | next {work marked loaded last : Work engine} {path : Path} {rest : List Path}
      (listed : work.mark? context path = some marked)
      (answered : load marked path = (loaded, .ok ()))
      (later : Loads load context loaded rest last) : Loads load context work (path :: rest) last

variable {files context}

/-- If files have URIs, then they all load, or the files before one of them do
and that one does not. -/
theorem loadAll_cases (load : Work engine → Path → Work engine × Answer) {paths : List Path}
    (named : ∀ path ∈ paths, ∃ uri, context.subject.uriFor? path = some uri) (stage : Stage)
    (work : Work engine) :
    (∃ loaded, Loads load context work paths loaded ∧
      loadAll load context stage paths work = (loaded, .waiting)) ∨
    ∃ before path after started marked loaded setback, paths = before ++ path :: after ∧
      Loads load context work before started ∧ started.mark? context path = some marked ∧
      load marked path = (loaded, .error setback) ∧
      loadAll load context stage paths work =
        ((loaded.endWith context stage setback).1,
          .over (loaded.endWith context stage setback).2) := by
  induction paths generalizing work with
  | nil => exact Or.inl ⟨work, .done work, rfl⟩
  | cons path rest induction =>
      rcases named path List.mem_cons_self with ⟨uri, isNamed⟩
      rcases listed : work.mark? context path with _ | marked
      · simp [Work.mark?, isNamed] at listed
      · rcases answered : load marked path with ⟨loaded, setback | _⟩
        · refine Or.inr ⟨[], path, rest, work, marked, loaded, setback, rfl, .done work, listed,
            answered, ?_⟩
          simp only [loadAll_cons, listed, answered]
        · have goesOn : loadAll load context stage (path :: rest) work =
              loadAll load context stage rest loaded := by
            simp only [loadAll_cons, listed, answered]
          rw [goesOn]
          have others : ∀ other ∈ rest, ∃ uri, context.subject.uriFor? other = some uri :=
            fun other member => named other (List.mem_cons_of_mem _ member)
          rcases induction others loaded with
            ⟨last, loads, ended⟩ |
            ⟨before, failing, after, started, listedLast, last, setback, split, loads, later⟩
          · exact Or.inl ⟨last, .next listed answered loads, ended⟩
          · exact Or.inr ⟨path :: before, failing, after, started, listedLast, last, setback,
              by rw [split]; rfl, .next listed answered loads, later⟩

/-! ## Stages -/

/-- The course of a stage: the files that it came to, the answer that ended it,
and the work it left. The last file it came to is the first one that does not
load, unless all of them load and the engine answers the stage's question. -/
inductive Course (files : FileSystem) (context : Context) (stage : Stage) (work : Work engine) :
    List Path → Answer → Work engine → Prop
  | stopped {before after : List Path} {path : Path} {started marked loaded : Work engine}
      {setback : Setback} (enumerated : filesOf files context stage = before ++ path :: after)
      (loads : Loads (procedure files context stage).load context
        ((procedure files context stage).prepare work) before started)
      (listed : started.mark? context path = some marked)
      (fails : (procedure files context stage).load marked path = (loaded, .error setback)) :
      Course files context stage work (before ++ [path]) (.error setback) loaded
  | answered {loaded result : Work engine} {answer : Answer}
      (loads : Loads (procedure files context stage).load context
        ((procedure files context stage).prepare work) (filesOf files context stage) loaded)
      (answers : (procedure files context stage).ask
        (loaded.pose (procedure files context stage).question) = (result, answer)) :
      Course files context stage work (filesOf files context stage) answer result

/-- Only the template stage builds a template, and no stage takes it away before
the sample is parsed. -/
theorem ready_of_loads {stage : Stage} {work loaded : Work engine} (ready : Ready work stage)
    (loads : Loads (procedure files context stage).load context
      ((procedure files context stage).prepare work) (filesOf files context stage) loaded) :
    Ready (loaded.pose (procedure files context stage).question) stage := by
  intro isSample
  subst isSample
  have present := ready rfl
  cases loads with
  | next listed answered later =>
      cases later
      cases answered
      rcases Option.map_eq_some_iff.mp listed with ⟨uri, _, equal⟩
      rw [← equal]
      exact present

theorem course_runStage (sited : context.Sited files) {work : Work engine} {stage : Stage}
    (ready : Ready work stage) :
    ∃ tried answer result, Course files context stage work tried answer result ∧
      runStage files context work stage = conclude context stage (result, answer) := by
  unfold runStage
  rw [start_eq_loadAll]
  rcases loadAll_cases (procedure files context stage).load (fun _ => sited.named) stage
      ((procedure files context stage).prepare work) with
    ⟨loaded, loads, all⟩ |
    ⟨before, path, after, started, marked, loaded, setback, split, loads, listed, fails, ended⟩
  · rw [all]
    dsimp only
    rw [finish_eq_conclude files context (ready_of_loads ready loads)]
    exact ⟨_, _, _, .answered loads rfl, rfl⟩
  · rw [ended]
    exact ⟨_, _, _, .stopped split loads listed fails, rfl⟩

/-! ## Passes -/

/-- The course of the stages of a pass: the files that each of them came to, and
the stage that was set back, if one was. -/
inductive Journey (files : FileSystem) (context : Context) :
    List Stage → Work engine → List (Stage × List Path) → Option (Stage × Setback) →
      Work engine → Prop
  | done (work : Work engine) : Journey files context [] work [] none work
  | passed {stage : Stage} {rest : List Stage} {work next last : Work engine} {tried : List Path}
      {looked : List (Stage × List Path)} {ended : Option (Stage × Setback)}
      (course : Course files context stage work tried (.ok ()) next)
      (ran : runStage files context work stage = (next, .passed))
      (later : Journey files context rest next looked ended last) :
      Journey files context (stage :: rest) work ((stage, tried) :: looked) ended last
  | ended {stage : Stage} {rest : List Stage} {work last : Work engine} {tried : List Path}
      {setback : Setback} (course : Course files context stage work tried (.error setback) last) :
      Journey files context (stage :: rest) work [(stage, tried)] (some (stage, setback)) last

/-- What the stages of a pass give, by the work they left and what set them back. -/
def settle (context : Context) (looked : List (Stage × List Path)) (work : Work engine) :
    Option (Stage × Setback) → Work engine × Option (List StageResult)
  | none => (work, some (looked.map fun entry => ⟨entry.1, true⟩))
  | some (stage, .failure failure) =>
      (work.fail context stage failure,
        some ((looked.map fun entry => (⟨entry.1, true⟩ : StageResult)).dropLast ++
          [⟨stage, false⟩]))
  | some (_, .breakdown) => (work, none)

theorem settle_cons (context : Context) {looked : List (Stage × List Path)} (work : Work engine)
    (stage : Stage) (tried : List Path) {ended : Option (Stage × Setback)}
    (more : ended ≠ none → looked ≠ []) :
    settle context ((stage, tried) :: looked) work ended =
      ((settle context looked work ended).1,
        (settle context looked work ended).2.map (⟨stage, true⟩ :: ·)) := by
  cases ended with
  | none => rfl
  | some setback =>
      have nonempty := more (by simp)
      rcases setback with ⟨last, failure | _⟩
      · cases looked with
        | nil => exact absurd rfl nonempty
        | cons head tail => rfl
      · rfl

theorem Journey.looked_ne_nil {stages : List Stage} {work last : Work engine}
    {looked : List (Stage × List Path)} {ended : Option (Stage × Setback)}
    (journey : Journey files context stages work looked ended last) (set : ended ≠ none) :
    looked ≠ [] := by
  cases journey with
  | done => exact absurd rfl set
  | passed course ran later => simp
  | ended course => simp

theorem Journey.looked_of_setback {stages : List Stage} {work last : Work engine}
    {looked : List (Stage × List Path)} {stage : Stage} {setback : Setback}
    (journey : Journey files context stages work looked (some (stage, setback)) last) :
    ∃ before tried, looked = before ++ [(stage, tried)] := by
  generalize set : some (stage, setback) = ended at journey
  induction journey with
  | done work => cases set
  | @passed own rest work next last tried looked ended course ran later induction =>
      rcases induction set with ⟨before, last, split⟩
      exact ⟨(own, tried) :: before, last, by rw [split]; rfl⟩
  | @ended own rest work last tried setback course =>
      cases set
      exact ⟨[], tried, rfl⟩

/-- In these stages a sample stage comes right after a template stage. -/
def Sequenced : List Stage → Prop
  | stage :: next :: rest => (next = .sample → stage = .template) ∧ Sequenced (next :: rest)
  | _ => True

theorem Sequenced.tail {stage : Stage} {rest : List Stage} (sequenced : Sequenced (stage :: rest)) :
    Sequenced rest := by
  cases rest with
  | nil => trivial
  | cons next others => exact sequenced.2

theorem Sequenced.beginning {stages first : List Stage} (sequenced : Sequenced stages)
    (begins : first <+: stages) : Sequenced first := by
  induction first generalizing stages with
  | nil => trivial
  | cons stage others induction =>
      rcases begins with ⟨rest, split⟩
      rw [← split] at sequenced
      cases others with
      | nil => trivial
      | cons next more => exact ⟨sequenced.1, induction sequenced.2 ⟨rest, rfl⟩⟩

theorem template_of_course {work result : Work engine} {tried : List Path}
    (course : Course files context .template work tried (.ok ()) result) :
    result.template ≠ none := by
  cases course with
  | answered loads answers =>
      simp only [procedure, askTemplate] at answers
      split at answers
      · cases answers
      · cases answers
        simp

theorem journey_runStages (sited : context.Sited files) {stages : List Stage} {work : Work engine}
    (sequenced : Sequenced stages) (ready : ∀ stage, stages.head? = some stage → Ready work stage) :
    ∃ looked ended last, Journey files context stages work looked ended last ∧
      runStages files context stages work = settle context looked last ended := by
  induction stages generalizing work with
  | nil => exact ⟨[], none, work, .done work, rfl⟩
  | cons stage rest induction =>
      rcases course_runStage sited (ready stage rfl) with ⟨tried, answer, result, course, ran⟩
      rcases answer with setback | _
      · refine ⟨_, _, _, .ended course, ?_⟩
        cases setback with
        | failure failure =>
            simp only [runStages, ran, conclude, Work.endWith]
            rfl
        | breakdown =>
            simp only [runStages, ran, conclude, Work.endWith]
            rfl
      · have readyNext : ∀ next, rest.head? = some next → Ready result next := by
          intro next isNext isSample
          rcases List.head?_eq_some_iff.mp isNext with ⟨others, equal⟩
          rw [equal] at sequenced
          have isTemplate := sequenced.1 isSample
          subst isTemplate
          exact template_of_course course
        rcases induction sequenced.tail readyNext with ⟨looked, ended, last, later, ranRest⟩
        refine ⟨_, _, _, .passed course ran later, ?_⟩
        rw [settle_cons context last stage tried fun set => later.looked_ne_nil set, ← ranRest]
        simp only [runStages, ran, conclude]

theorem sequenced_stagesFor (kind : Package.SourceKind) : Sequenced (stagesFor kind) := by
  cases kind with
  | model => simp [Sequenced, stagesFor]
  | logic => simp [Sequenced, stagesFor]
  | grammar => simp [Sequenced, stagesFor]
  | other => simp [Sequenced, stagesFor]

/-- The first stages of every pass have a course. -/
theorem journey_stagesFor (sited : context.Sited files) (registries : Registries engine)
    {stages : List Stage} (first : stages <+: stagesFor context.kind) :
    ∃ looked ended last, Journey files context stages registries.fresh looked ended last ∧
      runStages files context stages registries.fresh = settle context looked last ended := by
  have sequenced := sequenced_stagesFor context.kind
  have leads : ∀ stage, stages.head? = some stage → stage = .model := by
    intro stage isFirst
    rcases List.head?_eq_some_iff.mp isFirst with ⟨others, equal⟩
    rcases first with ⟨rest, split⟩
    rw [equal] at split
    cases kind : context.kind with
    | model => simp_all [stagesFor]
    | logic => simp_all [stagesFor]
    | grammar => simp_all [stagesFor]
    | other => simp_all [stagesFor]
  apply journey_runStages sited (sequenced.beginning first)
  intro stage isFirst isSample
  rw [leads stage isFirst] at isSample
  cases isSample

end TemplateCheck.Pass
