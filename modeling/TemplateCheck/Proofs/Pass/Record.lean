import TemplateCheck.Pass.Run

/-! # The record of a pass

A pass keeps a record of what it has done, and never looks at it. So work that
follows other work goes as it would on a blank record, and what it does is
recorded behind what was there.
-/

namespace TemplateCheck.Pass

variable {engine : Engine}

namespace Work

/-- The same work, with other actions recorded before its own. -/
def following (past : List (Action engine.Template)) (work : Work engine) : Work engine :=
  { work with actions := past ++ work.actions }

/-- The same work on a blank record. -/
def unrecorded (work : Work engine) : Work engine :=
  { work with actions := [] }

theorem following_unrecorded (work : Work engine) :
    work.unrecorded.following work.actions = work := by
  simp [unrecorded, following]

end Work

variable (past : List (Action engine.Template)) (files : FileSystem) (context : Context)

/-- The result of some work that follows other work. -/
def followingBoth {result : Type} (ended : Work engine × result) : Work engine × result :=
  (ended.1.following past, ended.2)

theorem call_following (work : Work engine) (call : Call engine.Template) :
    (work.following past).call call = (work.call call).following past := by
  simp [Work.following, Work.call, Work.act]

@[simp] theorem call_models (work : Work engine) (call : Call engine.Template) :
    (work.call call).models = work.models := rfl

@[simp] theorem call_logic (work : Work engine) (call : Call engine.Template) :
    (work.call call).logic = work.logic := rfl

@[simp] theorem following_models (work : Work engine) :
    (work.following past).models = work.models := rfl

@[simp] theorem following_logic (work : Work engine) :
    (work.following past).logic = work.logic := rfl

theorem mark?_following (work : Work engine) (path : Path) :
    (work.following past).mark? context path =
      (work.mark? context path).map (Work.following past) := by
  cases named : context.subject.uriFor? path with
  | none => simp [Work.mark?, named]
  | some uri => simp [Work.mark?, named, Work.following, Work.act]

theorem endWith_following (work : Work engine) (stage : Stage) (setback : Setback) :
    (work.following past).endWith context stage setback =
      followingBoth past (work.endWith context stage setback) := by
  cases setback with
  | failure failure => rfl
  | breakdown => rfl

theorem readFile_following (work : Work engine) (path : Path) :
    readFile files (work.following past) path = followingBoth past (readFile files work path) := by
  unfold readFile
  dsimp only
  split
  · simp [followingBoth, Work.following, Work.act]
  · simp [followingBoth, Work.following, Work.act]

theorem readSource_following (work : Work engine) (path : Path) :
    readSource files context (work.following past) path =
      followingBoth past (readSource files context work path) := by
  unfold readSource
  split
  · rfl
  · exact readFile_following past files work path

theorem storeModel_following (work : Work engine) (path : Path) (content : String) :
    storeModel (work.following past) path content =
      followingBoth past (storeModel work path content) := by
  unfold storeModel
  simp only [call_following, following_models, call_models]
  cases engine.namespaceOf work.models content path with
  | error setback => rfl
  | ok name =>
      cases known : engine.hasNamespace work.models name with
      | true => simp only [known, if_true]; rfl
      | false => simp only [known]; rfl

theorem loadModel_following (work : Work engine) (path : Path) :
    loadModel files context (work.following past) path =
      followingBoth past (loadModel files context work path) := by
  unfold loadModel
  rw [readSource_following]
  rcases readSource files context work path with ⟨read, _ | content⟩
  · rfl
  · exact storeModel_following past read path content

theorem loadUnit_following (work : Work engine) (path : Path) :
    loadUnit files context (work.following past) path =
      followingBoth past (loadUnit files context work path) := by
  unfold loadUnit
  rw [readSource_following]
  rcases readSource files context work path with ⟨read, _ | content⟩
  · rfl
  · simp only [followingBoth, call_following]
    rfl

theorem loadAll_following {load : Work engine → Path → Work engine × Answer}
    (loads : ∀ work path, load (work.following past) path = followingBoth past (load work path))
    (stage : Stage) (paths : List Path) (work : Work engine) :
    loadAll load context stage paths (work.following past) =
      followingBoth past (loadAll load context stage paths work) := by
  induction paths generalizing work with
  | nil => rfl
  | cons path rest induction =>
      unfold loadAll
      rw [mark?_following]
      cases work.mark? context path with
      | none => rfl
      | some marked =>
          simp only [Option.map_some, loads]
          rcases load marked path with ⟨loaded, setback | _⟩
          · simp only [followingBoth, endWith_following]
          · exact induction loaded

theorem removeUnits_following (paths : List Path) (work : Work engine) :
    removeUnits paths (work.following past) = (removeUnits paths work).following past := by
  induction paths generalizing work with
  | nil => rfl
  | cons path rest induction =>
      have later := induction
        { work.call (.removeUnit path) with logic := engine.removeUnit work.logic path }
      unfold removeUnits
      rw [call_following]
      exact later

/-- The end of loading: the engine is asked, unless a file failed. -/
def asking (call : Call engine.Template) : Work engine × Half → Work engine × Half
  | (work, .waiting) => (work.call call, .waiting)
  | ended => ended

theorem asking_following (call : Call engine.Template) (loaded : Work engine × Half) :
    asking call (followingBoth past loaded) = followingBoth past (asking call loaded) := by
  rcases loaded with ⟨work, verdict | _⟩
  · rfl
  · simp only [followingBoth, asking, call_following]

theorem start_model_eq (work : Work engine) :
    start files context work .model =
      asking .resolve (loadAll (loadModel files context) context .model (modelFiles files context)
        { work.call .clear with models := engine.clear work.models }) := rfl

theorem start_logic_eq (work : Work engine) :
    start files context work .logic =
      asking (.compile true) (loadAll (loadUnit files context) context .logic
        (logicFiles files context)
        (removeUnits ((engine.unitPaths work.logic).filter (isStaleUnit files context))
          (work.call .unitPaths))) := rfl

theorem start_following (work : Work engine) (stage : Stage) :
    start files context (work.following past) stage =
      followingBoth past (start files context work stage) := by
  cases stage with
  | model =>
      rw [start_model_eq, start_model_eq, ← asking_following, ← loadAll_following past context
        (loadModel_following past files context), call_following]
      rfl
  | logic =>
      rw [start_logic_eq, start_logic_eq, ← asking_following, ← loadAll_following past context
        (loadUnit_following past files context), ← removeUnits_following, call_following]
      rfl
  | template =>
      unfold start startTemplate
      dsimp only
      rw [mark?_following]
      cases work.mark? context (context.layout.grammarFile context.root) with
      | none => rfl
      | some marked => simp only [Option.map_some, followingBoth, call_following]
  | sample =>
      unfold start startSample
      dsimp only
      rw [mark?_following]
      cases work.mark? context (context.layout.sampleFile context.root) with
      | none => rfl
      | some marked => rfl

theorem applyGrammar_following (work : Work engine) (template : engine.Template) :
    applyGrammar context (work.following past) template =
      followingBoth past (applyGrammar context work template) := by
  unfold applyGrammar
  split
  · rw [call_following]
    rcases engine.buildGrammar template context.document.text with ⟨built, _ | _⟩
    · rfl
    · rfl
  · rfl

theorem buildTemplate_following (work : Work engine) :
    buildTemplate files context (work.following past) =
      followingBoth past (buildTemplate files context work) := by
  unfold buildTemplate
  cases engine.loadTemplate files context.root with
  | error setback => rfl
  | ok template =>
      dsimp only
      rw [applyGrammar_following]
      rcases applyGrammar context work template with ⟨applied, _ | built⟩
      · rfl
      · simp only [followingBoth, call_following]
        cases engine.validate built with
        | error setback => rfl
        | ok _ => rfl

theorem parseSample_following (work : Work engine) (template : engine.Template) (path : Path) :
    parseSample files (work.following past) template path =
      followingBoth past (parseSample files work template path) := by
  unfold parseSample
  rw [readFile_following]
  rcases readFile files work path with ⟨read, _ | sample⟩
  · rfl
  · simp only [followingBoth, call_following]
    cases engine.parseSample template sample with
    | error setback => rfl
    | ok _ => rfl

theorem finish_following (work : Work engine) (stage : Stage) :
    finish files context (work.following past) stage =
      followingBoth past (finish files context work stage) := by
  cases stage with
  | model =>
      rcases answered : engine.resolve work.models with ⟨models, setback | _⟩
      · simp only [finish, finishModels, following_models, answered]
        exact endWith_following past context { work with models } .model setback
      · simp only [finish, finishModels, following_models, answered]
        rfl
  | logic =>
      rcases answered : engine.compile work.logic work.models true with ⟨logic, setback | _⟩
      · simp only [finish, finishLogic, following_models, following_logic, answered]
        exact endWith_following past context { work with logic } .logic setback
      · simp only [finish, finishLogic, following_models, following_logic, answered]
        rfl
  | template =>
      unfold finish finishTemplate
      dsimp only
      rw [buildTemplate_following]
      rcases buildTemplate files context work with ⟨built, setback | template⟩
      · exact endWith_following past context built .template _
      · rfl
  | sample =>
      unfold finish finishSample
      dsimp only
      cases present : work.template with
      | none => simp [Work.following, present, followingBoth]
      | some template =>
          have present' : (work.following past).template = some template := present
          rw [present']
          dsimp only
          rw [parseSample_following]
          rcases parseSample files work template (context.layout.sampleFile context.root) with
            ⟨parsed, setback | _⟩
          · exact endWith_following past context parsed .sample _
          · rfl

theorem runStage_following (work : Work engine) (stage : Stage) :
    runStage files context (work.following past) stage =
      followingBoth past (runStage files context work stage) := by
  unfold runStage
  rw [start_following]
  rcases start files context work stage with ⟨started, verdict | _⟩
  · rfl
  · exact finish_following past files context started stage

theorem runStages_following (stages : List Stage) (work : Work engine) :
    runStages files context stages (work.following past) =
      followingBoth past (runStages files context stages work) := by
  induction stages generalizing work with
  | nil => rfl
  | cons stage rest induction =>
      simp only [runStages, runStage_following]
      rcases runStage files context work stage with ⟨ended, verdict⟩
      cases verdict with
      | passed => simp only [followingBoth, induction]
      | failed => rfl
      | aborted => rfl
      | broken => rfl

/-! ## Passes under way -/

/-- What a pass comes to that has these stages left. -/
def resume (done : List StageResult) (stages : List Stage) (work : Work engine) :
    Finished engine :=
  let (work, results) := runStages files context stages work
  let outcome := match results with
    | some stages => .completed ⟨some context.root, done ++ stages, work.report⟩
    | none => .broken
  ⟨outcome, ⟨work.models, work.logic⟩, work.actions⟩

/-- What a pass comes to after the verdict on a stage. -/
def proceed (done : List StageResult) (stage : Stage) (rest : List Stage) :
    Work engine × Verdict → Finished engine
  | (work, .passed) => resume files context (done ++ [⟨stage, true⟩]) rest work
  | (work, .broken) => ⟨.broken, ⟨work.models, work.logic⟩, work.actions⟩
  | (work, _) =>
      ⟨.completed ⟨some context.root, done ++ [⟨stage, false⟩], work.report⟩,
        ⟨work.models, work.logic⟩, work.actions⟩

/-- The work with which a pass starts. -/
def Registries.fresh (registries : Registries engine) : Work engine :=
  { models := registries.models, logic := registries.logic }

theorem run_eq_resume (registries : Registries engine) :
    run files context registries =
      resume files context [] (stagesFor context.kind) registries.fresh := rfl

theorem resume_nil (done : List StageResult) (work : Work engine) :
    resume files context done [] work =
      ⟨.completed ⟨some context.root, done, work.report⟩, ⟨work.models, work.logic⟩,
        work.actions⟩ := by
  simp [resume, runStages]

theorem resume_cons (done : List StageResult) (stage : Stage) (rest : List Stage)
    (work : Work engine) :
    resume files context done (stage :: rest) work =
      proceed files context done stage rest (runStage files context work stage) := by
  simp only [resume, runStages]
  rcases runStage files context work stage with ⟨ended, verdict⟩
  cases verdict with
  | passed =>
      simp only [proceed, resume]
      rcases runStages files context rest ended with ⟨last, _ | results⟩
      · rfl
      · simp
  | failed => rfl
  | aborted => rfl
  | broken => rfl

/-- What a pass comes to, with other actions recorded before its own. -/
def Finished.following (past : List (Action engine.Template)) (finished : Finished engine) :
    Finished engine :=
  { finished with actions := past ++ finished.actions }

theorem resume_following (done : List StageResult) (stages : List Stage) (work : Work engine) :
    resume files context done stages (work.following past) =
      (resume files context done stages work).following past := by
  simp only [resume, runStages_following]
  rfl

theorem proceed_following (done : List StageResult) (stage : Stage) (rest : List Stage)
    (ended : Work engine × Verdict) :
    proceed files context done stage rest (followingBoth past ended) =
      (proceed files context done stage rest ended).following past := by
  rcases ended with ⟨work, verdict⟩
  cases verdict with
  | passed => exact resume_following past files context _ rest work
  | failed => rfl
  | aborted => rfl
  | broken => rfl

theorem stagesFor_ne_nil (kind : Package.SourceKind) : stagesFor kind ≠ [] := by
  cases kind with
  | model => nofun
  | logic => nofun
  | grammar => nofun
  | other => nofun

/-- The first stages of a pass have passed, and left this work. -/
def Passed (begun : Work engine) (past : List Stage) (work : Work engine) : Prop :=
  runStages files context past begun = (work, some (past.map (⟨·, true⟩)))

variable {files context} {begun work : Work engine} {past : List Stage}

theorem passed_cons {first : Stage} {rest : List Stage} :
    Passed files context begun (first :: rest) work ↔
      ∃ middle, runStage files context begun first = (middle, .passed) ∧
        Passed files context middle rest work := by
  unfold Passed
  simp only [runStages, List.map_cons]
  rcases runStage files context begun first with ⟨middle, verdict⟩
  cases verdict with
  | passed => simp [Prod.ext_iff]
  | failed => simp
  | aborted => simp
  | broken => simp

theorem Passed.snoc (passed : Passed files context begun past work) {stage : Stage}
    {next : Work engine} (ran : runStage files context work stage = (next, .passed)) :
    Passed files context begun (past ++ [stage]) next := by
  induction past generalizing begun with
  | nil =>
      cases passed
      exact passed_cons.mpr ⟨next, ran, rfl⟩
  | cons first rest induction =>
      rcases passed_cons.mp passed with ⟨middle, ranFirst, later⟩
      exact passed_cons.mpr ⟨middle, ranFirst, induction later⟩

/-- A pass goes on from the stages that have passed. -/
theorem Passed.resume (passed : Passed files context begun past work) (done : List StageResult)
    (rest : List Stage) :
    resume files context done (past ++ rest) begun =
      Pass.resume files context (done ++ past.map (⟨·, true⟩)) rest work := by
  induction past generalizing begun done with
  | nil =>
      cases passed
      simp
  | cons first others induction =>
      rcases passed_cons.mp passed with ⟨middle, ranFirst, later⟩
      rw [List.cons_append, resume_cons, ranFirst, proceed, induction later]
      simp

end TemplateCheck.Pass
