import TemplateCheck.Proofs.Engine.Shelf
import TemplateCheck.Proofs.Pool.Visits

/-! # What a pass recalls

A pass starts on registries that earlier passes have left. It builds the models
from scratch and the units of the files it finds anew, so of all that was there
before it recalls only the units of files that it does not look at. Two passes
that start with the same such units go in step and come to the same end; and as a
pass leaves these units alone, it comes to the same end when it is run again.
-/

namespace TemplateCheck.Pass

variable {engine : Engine}

/-! ## In step -/

/-- Two works that differ at most in their records, and in registries that have
something to do with each other. -/
structure Paired (alike : engine.Models → engine.Models → Prop)
    (akin : engine.Logic → engine.Logic → Prop) (left right : Work engine) : Prop where
  models : alike left.models right.models
  logic : akin left.logic right.logic
  template : left.template = right.template
  report : left.report = right.report

/-- Two steps with the same result. -/
def InStep (alike : engine.Models → engine.Models → Prop)
    (akin : engine.Logic → engine.Logic → Prop) {result : Type}
    (left right : Work engine × result) : Prop :=
  left.2 = right.2 ∧ Paired alike akin left.1 right.1

section

variable {alike : engine.Models → engine.Models → Prop}
  {akin : engine.Logic → engine.Logic → Prop} {left right : Work engine}
  (files : FileSystem) (context : Context)

theorem InStep.split {result : Type} {leftEnd rightEnd : Work engine × result}
    (inStep : InStep alike akin leftEnd rightEnd) :
    ∃ leftWork rightWork value, leftEnd = (leftWork, value) ∧ rightEnd = (rightWork, value) ∧
      Paired alike akin leftWork rightWork :=
  ⟨leftEnd.1, rightEnd.1, leftEnd.2, rfl, by rw [inStep.1], inStep.2⟩

theorem Paired.call (paired : Paired alike akin left right)
    (leftCall rightCall : Call engine.Template) :
    Paired alike akin (left.call leftCall) (right.call rightCall) :=
  ⟨paired.models, paired.logic, paired.template, paired.report⟩

theorem Paired.pose (paired : Paired alike akin left right)
    (question : Option (Call engine.Template)) :
    Paired alike akin (left.pose question) (right.pose question) := by
  cases question with
  | none => exact paired
  | some call => exact paired.call call call

theorem Paired.endWith (paired : Paired alike akin left right) (stage : Stage)
    (setback : Setback) :
    InStep alike akin (left.endWith context stage setback)
      (right.endWith context stage setback) := by
  cases setback with
  | failure failure =>
      refine ⟨rfl, paired.models, paired.logic, paired.template, ?_⟩
      simp only [Work.endWith, Work.fail, paired.report]
  | breakdown => exact ⟨rfl, paired⟩

theorem Paired.mark? (paired : Paired alike akin left right) (path : Path) :
    (left.mark? context path = none ∧ right.mark? context path = none) ∨
      ∃ leftMarked rightMarked, left.mark? context path = some leftMarked ∧
        right.mark? context path = some rightMarked ∧
        Paired alike akin leftMarked rightMarked := by
  cases named : context.subject.uriFor? path with
  | none => exact Or.inl ⟨by simp [Work.mark?, named], by simp [Work.mark?, named]⟩
  | some uri =>
      simp only [Work.mark?, named, Option.map_some, Option.some.injEq]
      refine Or.inr ⟨_, _, rfl, rfl, paired.models, paired.logic, paired.template, ?_⟩
      simp only [paired.report]

theorem Paired.readFile (paired : Paired alike akin left right) (path : Path) :
    InStep alike akin (readFile files left path) (readFile files right path) := by
  unfold Pass.readFile
  dsimp only
  split
  · exact ⟨rfl, paired.models, paired.logic, paired.template, paired.report⟩
  · exact ⟨rfl, paired.models, paired.logic, paired.template, paired.report⟩

theorem Paired.readSource (paired : Paired alike akin left right) (path : Path) :
    InStep alike akin (readSource files context left path)
      (readSource files context right path) := by
  unfold Pass.readSource
  split
  · exact ⟨rfl, paired⟩
  · exact paired.readFile files path

theorem Paired.applyGrammar (paired : Paired alike akin left right) (template : engine.Template) :
    InStep alike akin (applyGrammar context left template)
      (applyGrammar context right template) := by
  unfold Pass.applyGrammar
  split
  · dsimp only
    split
    · exact ⟨rfl, paired.call _ _⟩
    · exact ⟨rfl, paired.call _ _⟩
  · exact ⟨rfl, paired⟩

theorem Paired.buildTemplate (paired : Paired alike akin left right) :
    InStep alike akin (buildTemplate files context left) (buildTemplate files context right) := by
  unfold Pass.buildTemplate
  cases engine.loadTemplate files context.root with
  | error setback => exact ⟨rfl, paired⟩
  | ok template =>
      rcases (paired.applyGrammar context template).split with
        ⟨leftWork, rightWork, answer, isLeft, isRight, pairedWork⟩
      dsimp only
      rw [isLeft, isRight]
      cases answer with
      | error setback => exact ⟨rfl, pairedWork⟩
      | ok built =>
          dsimp only
          split
          · exact ⟨rfl, pairedWork.call _ _⟩
          · exact ⟨rfl, pairedWork.call _ _⟩

theorem Paired.parseSample (paired : Paired alike akin left right) (template : engine.Template)
    (path : Path) :
    InStep alike akin (parseSample files left template path)
      (parseSample files right template path) := by
  rcases (paired.readFile files path).split with
    ⟨leftWork, rightWork, answer, isLeft, isRight, pairedWork⟩
  unfold Pass.parseSample
  rw [isLeft, isRight]
  cases answer with
  | error setback => exact ⟨rfl, pairedWork⟩
  | ok sample =>
      have parsed := (pairedWork.call .newClause .newClause).call (.parse sample) (.parse sample)
      dsimp only
      split
      · exact ⟨rfl, parsed⟩
      · exact ⟨rfl, parsed.call _ _⟩

/-! ## Loading in step -/

/-- Files that load in step. What the registries have to do with each other may
depend on the files loaded so far, and is at least `weak` when a file fails. -/
theorem loadAll_inStep {load : Work engine → Path → Work engine × Answer}
    {loaded : List Path → engine.Logic → engine.Logic → Prop}
    {weak : engine.Logic → engine.Logic → Prop} (stage : Stage) {paths : List Path}
    (weaker : ∀ done left right, loaded done left right → weak left right)
    (loads : ∀ path ∈ paths, ∀ done left right, Paired alike (loaded done) left right →
      InStep alike weak (load left path) (load right path) ∧
        ((load left path).2 = .ok () →
          Paired alike (loaded (done ++ [path])) (load left path).1 (load right path).1))
    {done : List Path} (paired : Paired alike (loaded done) left right) :
    InStep alike weak (loadAll load context stage paths left)
        (loadAll load context stage paths right) ∧
      ((loadAll load context stage paths left).2 = .waiting →
        Paired alike (loaded (done ++ paths)) (loadAll load context stage paths left).1
          (loadAll load context stage paths right).1) := by
  induction paths generalizing done left right with
  | nil =>
      refine ⟨⟨rfl, ?_⟩, ?_⟩
      · exact ⟨paired.models, weaker _ _ _ paired.logic, paired.template, paired.report⟩
      · intro _
        rw [List.append_nil]
        exact paired
  | cons path rest induction =>
      rw [loadAll_cons, loadAll_cons]
      rcases paired.mark? context path with
        ⟨unnamedLeft, unnamedRight⟩ | ⟨leftMarked, rightMarked, isLeft, isRight, marked⟩
      · rw [unnamedLeft, unnamedRight]
        refine ⟨⟨rfl, ?_⟩, nofun⟩
        exact ⟨paired.models, weaker _ _ _ paired.logic, paired.template, paired.report⟩
      · rw [isLeft, isRight]
        dsimp only
        rcases loads path List.mem_cons_self done leftMarked rightMarked marked with
          ⟨step, goesOn⟩
        rcases step.split with ⟨leftWork, rightWork, answer, ranLeft, ranRight, pairedWork⟩
        rw [ranLeft, ranRight] at goesOn ⊢
        cases answer with
        | error setback =>
            have ended := pairedWork.endWith context stage setback
            exact ⟨⟨congrArg Half.over ended.1, ended.2⟩, nofun⟩
        | ok _ =>
            have others := induction
              (fun other member => loads other (List.mem_cons_of_mem _ member)) (goesOn rfl)
            rw [List.append_assoc] at others
            exact others

theorem start_inStep {loaded : List Path → engine.Logic → engine.Logic → Prop}
    {weak : engine.Logic → engine.Logic → Prop} {stage : Stage}
    (weaker : ∀ done left right, loaded done left right → weak left right)
    (loads : ∀ path ∈ filesOf files context stage, ∀ done left right,
      Paired alike (loaded done) left right →
      InStep alike weak ((procedure files context stage).load left path)
          ((procedure files context stage).load right path) ∧
        (((procedure files context stage).load left path).2 = .ok () →
          Paired alike (loaded (done ++ [path])) ((procedure files context stage).load left path).1
            ((procedure files context stage).load right path).1))
    (prepared : Paired alike (loaded []) ((procedure files context stage).prepare left)
      ((procedure files context stage).prepare right)) :
    InStep alike weak (start files context left stage) (start files context right stage) ∧
      ((start files context left stage).2 = .waiting →
        Paired alike (loaded (filesOf files context stage)) (start files context left stage).1
          (start files context right stage).1) := by
  rcases loadAll_inStep context stage weaker loads prepared with ⟨all, goesOn⟩
  rcases all.split with ⟨leftWork, rightWork, half, isLeft, isRight, pairedWork⟩
  rw [start_eq_loadAll, start_eq_loadAll, isLeft, isRight]
  rw [isLeft, isRight] at goesOn
  rcases half with verdict | _
  · exact ⟨⟨rfl, pairedWork⟩, nofun⟩
  · exact ⟨⟨rfl, pairedWork.pose _⟩, fun _ => (goesOn rfl).pose _⟩

/-- The halves of a stage make the stage. -/
theorem runStage_inStep {weak : engine.Logic → engine.Logic → Prop} {stage : Stage}
    (started : InStep alike weak (start files context left stage) (start files context right stage))
    (finished : (start files context left stage).2 = .waiting →
      InStep alike weak (finish files context (start files context left stage).1 stage)
        (finish files context (start files context right stage).1 stage)) :
    InStep alike weak (runStage files context left stage) (runStage files context right stage) := by
  rcases started.split with ⟨leftWork, rightWork, half, isLeft, isRight, pairedWork⟩
  rw [isLeft, isRight] at finished
  unfold runStage
  rw [isLeft, isRight]
  rcases half with verdict | _
  · exact ⟨rfl, pairedWork⟩
  · exact finished rfl

/-! ## Stages without registries -/

theorem runStage_template_inStep (paired : Paired alike akin left right) :
    InStep alike akin (runStage files context left .template)
      (runStage files context right .template) := by
  have started := @start_inStep engine alike left right files context (fun _ => akin) akin .template
    (fun _ _ _ same => same) (fun _ _ _ _ _ same => ⟨⟨rfl, same⟩, fun _ => same⟩) paired
  apply runStage_inStep files context started.1
  intro waiting
  rcases ((started.2 waiting).buildTemplate files context).split with
    ⟨leftWork, rightWork, answer, isLeft, isRight, pairedWork⟩
  simp only [finish, finishTemplate, isLeft, isRight]
  cases answer with
  | error setback => exact pairedWork.endWith context .template _
  | ok template => exact ⟨rfl, pairedWork.models, pairedWork.logic, rfl, pairedWork.report⟩

theorem runStage_sample_inStep (paired : Paired alike akin left right) :
    InStep alike akin (runStage files context left .sample)
      (runStage files context right .sample) := by
  have started := @start_inStep engine alike left right files context (fun _ => akin) akin .sample
    (fun _ _ _ same => same) (fun _ _ _ _ _ same => ⟨⟨rfl, same⟩, fun _ => same⟩) paired
  apply runStage_inStep files context started.1
  intro waiting
  have ready := started.2 waiting
  simp only [finish, finishSample, ready.template]
  cases (start files context right .sample).1.template with
  | none => exact ⟨rfl, ready⟩
  | some template =>
      rcases (ready.parseSample files template (context.layout.sampleFile context.root)).split with
        ⟨leftWork, rightWork, answer, isLeft, isRight, pairedWork⟩
      dsimp only
      rw [isLeft, isRight]
      cases answer with
      | error setback => exact pairedWork.endWith context .sample _
      | ok _ => exact ⟨rfl, pairedWork⟩

theorem InStep.conclude {leftEnd rightEnd : Work engine × Answer}
    (inStep : InStep alike akin leftEnd rightEnd) (stage : Stage) :
    InStep alike akin (conclude context stage leftEnd) (conclude context stage rightEnd) := by
  rcases inStep.split with ⟨leftWork, rightWork, answer, isLeft, isRight, paired⟩
  rw [isLeft, isRight]
  cases answer with
  | error setback => exact paired.endWith context stage setback
  | ok _ => exact ⟨rfl, paired⟩

end

/-! ## The model stage -/

section

variable {alike : engine.Models → engine.Models → Prop}
  {akin : engine.Logic → engine.Logic → Prop} {left right : Work engine}
  (maps : engine.Maps) (files : FileSystem) (context : Context)

/-- Models with the same definitions. -/
def SameModels (left right : engine.Models) : Prop :=
  maps.definition left = maps.definition right

theorem storeModel_inStep (paired : Paired (SameModels maps) akin left right) (path : Path)
    (content : String) :
    InStep (SameModels maps) akin (storeModel left path content)
      (storeModel right path content) := by
  unfold storeModel
  simp only [call_models]
  rw [maps.namespaceOf left.models right.models]
  cases engine.namespaceOf right.models content path with
  | error setback => exact ⟨rfl, paired.call _ _⟩
  | ok name =>
      have known := maps.hasNamespace left.models right.models name paired.models
      cases present : engine.hasNamespace right.models name with
      | true =>
          have updated := maps.update content path left.models right.models paired.models
          simp only [known, present, if_true]
          exact ⟨updated.1, updated.2, paired.logic, paired.template, paired.report⟩
      | false =>
          have added := maps.add content path left.models right.models paired.models
          simp only [known, present]
          exact ⟨added.1, added.2, paired.logic, paired.template, paired.report⟩

theorem loadModel_inStep (paired : Paired (SameModels maps) akin left right) (path : Path) :
    InStep (SameModels maps) akin (loadModel files context left path)
      (loadModel files context right path) := by
  rcases (paired.readSource files context path).split with
    ⟨leftWork, rightWork, answer, isLeft, isRight, pairedWork⟩
  unfold loadModel
  rw [isLeft, isRight]
  cases answer with
  | error setback => exact ⟨rfl, pairedWork⟩
  | ok content => exact storeModel_inStep maps pairedWork path content

theorem askModels_inStep (paired : Paired (SameModels maps) akin left right) :
    InStep (SameModels maps) akin (askModels left) (askModels right) := by
  have resolved := maps.resolve left.models right.models paired.models
  exact ⟨resolved.1, resolved.2, paired.logic, paired.template, paired.report⟩

/-- Whatever the models held before, the model stage starts from none. -/
theorem runStage_model_inStep (paired : Paired alike akin left right) :
    InStep (SameModels maps) akin (runStage files context left .model)
      (runStage files context right .model) := by
  have cleared : Paired (SameModels maps) akin
      ((procedure files context .model).prepare left)
      ((procedure files context .model).prepare right) := by
    refine ⟨?_, paired.logic, paired.template, paired.report⟩
    funext name
    exact (maps.clear left.models name).trans (maps.clear right.models name).symm
  have started := @start_inStep engine (SameModels maps) left right files context (fun _ => akin)
    akin .model (fun _ _ _ same => same)
    (fun path _ _ _ _ same => ⟨loadModel_inStep maps files context same path,
      fun _ => (loadModel_inStep maps files context same path).2⟩) cleared
  apply runStage_inStep files context started.1
  intro waiting
  have ready := started.2 waiting
  have isReady : ∀ work : Work engine, Ready work .model := fun _ => nofun
  rw [finish_eq_conclude files context (isReady _), finish_eq_conclude files context (isReady _)]
  exact (askModels_inStep maps ready).conclude context .model

/-! ## The logic stage -/

theorem removeUnits_keeps (paths : List Path) (work : Work engine) :
    (removeUnits paths work).models = work.models ∧
      (removeUnits paths work).template = work.template ∧
      (removeUnits paths work).report = work.report := by
  induction paths generalizing work with
  | nil => exact ⟨rfl, rfl, rfl⟩
  | cons path rest induction => exact induction _

theorem loadUnit_inStep {first second : engine.Logic} {done : List Path} {path : Path}
    (member : path ∈ logicFiles files context)
    (paired : Paired alike (Loading maps files context first second done) left right) :
    InStep alike (Loading maps files context first second [])
        (loadUnit files context left path) (loadUnit files context right path) ∧
      ((loadUnit files context left path).2 = .ok () →
        Paired alike (Loading maps files context first second (done ++ [path]))
          (loadUnit files context left path).1 (loadUnit files context right path).1) := by
  rcases (paired.readSource files context path).split with
    ⟨leftWork, rightWork, answer, isLeft, isRight, pairedWork⟩
  unfold loadUnit
  rw [isLeft, isRight]
  cases answer with
  | error setback =>
      exact ⟨⟨rfl, pairedWork.models, pairedWork.logic.forget, pairedWork.template,
        pairedWork.report⟩, nofun⟩
  | ok content =>
      refine ⟨⟨maps.updateUnit_answer _ _ content path, pairedWork.models,
        pairedWork.logic.outside member content, pairedWork.template, pairedWork.report⟩, ?_⟩
      intro ok
      exact ⟨pairedWork.models, pairedWork.logic.load member ok, pairedWork.template,
        pairedWork.report⟩

theorem askLogic_inStep {first second : engine.Logic}
    (paired : Paired (SameModels maps)
      (Loading maps files context first second (logicFiles files context)) left right)
    (agree : AgreeOutside maps files context first second) :
    InStep (SameModels maps) (Loading maps files context first second []) (askLogic left)
      (askLogic right) := by
  have answers := maps.compile_answer left.logic right.logic left.models right.models true
    (paired.logic.unitAt_iff agree) paired.models
  refine ⟨answers, paired.models, ⟨?_, ?_, by simp⟩, paired.template, paired.report⟩
  · intro path outside
    dsimp only [askLogic]
    rw [maps.compile_stored]
    exact paired.logic.leftKept path outside
  · intro path outside
    dsimp only [askLogic]
    rw [maps.compile_stored]
    exact paired.logic.rightKept path outside

theorem runStage_logic_inStep (paired : Paired (SameModels maps) akin left right)
    (agree : AgreeOutside maps files context left.logic right.logic) :
    InStep (SameModels maps) (Loading maps files context left.logic right.logic [])
      (runStage files context left .logic) (runStage files context right .logic) := by
  have pruned : Paired (SameModels maps) (Loading maps files context left.logic right.logic [])
      ((procedure files context .logic).prepare left)
      ((procedure files context .logic).prepare right) := by
    refine ⟨?models, ⟨?left, ?right, by simp⟩, ?template, ?report⟩
    case models =>
      dsimp only [procedure]
      rw [(removeUnits_keeps _ _).1, (removeUnits_keeps _ _).1]
      exact paired.models
    case left => exact fun path _ => stored_prepare maps files context left path
    case right => exact fun path _ => stored_prepare maps files context right path
    case template =>
      dsimp only [procedure]
      rw [(removeUnits_keeps _ _).2.1, (removeUnits_keeps _ _).2.1]
      exact paired.template
    case report =>
      dsimp only [procedure]
      rw [(removeUnits_keeps _ _).2.2, (removeUnits_keeps _ _).2.2]
      exact paired.report
  have started := @start_inStep engine (SameModels maps) left right files context
    (Loading maps files context left.logic right.logic)
    (Loading maps files context left.logic right.logic []) .logic
    (fun _ _ _ loading => loading.forget)
    (fun path member _ _ _ loading => loadUnit_inStep maps files context member loading) pruned
  apply runStage_inStep files context started.1
  intro waiting
  have ready := started.2 waiting
  have isReady : ∀ work : Work engine, Ready work .logic := fun _ => nofun
  rw [finish_eq_conclude files context (isReady _), finish_eq_conclude files context (isReady _)]
  exact (askLogic_inStep maps files context ready agree).conclude context .logic

/-! ## All stages -/

theorem runStages_cons_inStep {stage : Stage} {rest : List Stage}
    (ran : InStep alike akin (runStage files context left stage)
      (runStage files context right stage))
    (later : ∀ left right, Paired alike akin left right →
      InStep alike akin (runStages files context rest left) (runStages files context rest right)) :
    InStep alike akin (runStages files context (stage :: rest) left)
      (runStages files context (stage :: rest) right) := by
  rcases ran.split with ⟨leftWork, rightWork, verdict, isLeft, isRight, paired⟩
  simp only [runStages, isLeft, isRight]
  cases verdict with
  | passed =>
      rcases (later leftWork rightWork paired).split with
        ⟨leftLast, rightLast, results, ranLeft, ranRight, pairedLast⟩
      simp only [ranLeft, ranRight]
      exact ⟨rfl, pairedLast⟩
  | failed => exact ⟨rfl, paired⟩
  | aborted => exact ⟨rfl, paired⟩
  | broken => exact ⟨rfl, paired⟩

theorem runStages_inStep {stages : List Stage}
    (logicStage : .logic ∈ stages → ∀ left right, Paired (SameModels maps) akin left right →
      InStep (SameModels maps) akin (runStage files context left .logic)
        (runStage files context right .logic))
    (paired : Paired (SameModels maps) akin left right) :
    InStep (SameModels maps) akin (runStages files context stages left)
      (runStages files context stages right) := by
  induction stages generalizing left right with
  | nil => exact ⟨rfl, paired⟩
  | cons stage rest induction =>
      apply runStages_cons_inStep files context
      · cases stage with
        | model => exact runStage_model_inStep maps files context paired
        | logic => exact logicStage List.mem_cons_self left right paired
        | template => exact runStage_template_inStep files context paired
        | sample => exact runStage_sample_inStep files context paired
      · intro leftWork rightWork pairedWork
        exact induction (fun member => logicStage (List.mem_cons_of_mem _ member)) pairedWork

/-- All passes start with the models, so what models they find is nothing to
them. -/
theorem runStages_fresh_inStep {left right : Registries engine}
    (logicStage : .logic ∈ stagesFor context.kind → ∀ left right,
      Paired (SameModels maps) akin left right →
      InStep (SameModels maps) akin (runStage files context left .logic)
        (runStage files context right .logic))
    (related : akin left.logic right.logic) :
    InStep (SameModels maps) akin
      (runStages files context (stagesFor context.kind) left.fresh)
      (runStages files context (stagesFor context.kind) right.fresh) := by
  have paired : Paired (fun _ _ => True) akin left.fresh right.fresh := ⟨trivial, related, rfl, rfl⟩
  have first : ∃ rest, stagesFor context.kind = .model :: rest := by
    cases context.kind with
    | model => exact ⟨_, rfl⟩
    | logic => exact ⟨_, rfl⟩
    | grammar => exact ⟨_, rfl⟩
    | other => exact ⟨_, rfl⟩
  rcases first with ⟨rest, isFirst⟩
  rw [isFirst] at logicStage ⊢
  apply runStages_cons_inStep files context (runStage_model_inStep maps files context paired)
  intro leftWork rightWork pairedWork
  exact runStages_inStep maps files context
    (fun member => logicStage (List.mem_cons_of_mem _ member)) pairedWork

theorem run_outcome_eq {left right : Registries engine}
    (inStep : InStep alike akin (runStages files context (stagesFor context.kind) left.fresh)
      (runStages files context (stagesFor context.kind) right.fresh)) :
    (run files context left).outcome = (run files context right).outcome := by
  rcases inStep.split with ⟨leftWork, rightWork, results, isLeft, isRight, paired⟩
  simp only [run_eq_resume, resume, isLeft, isRight, paired.report]

/-! ## What is recalled -/

/-- A pass leaves the units of the files it does not find as they were, but for
those that have no file. -/
def Spares (before after : engine.Logic) : Prop :=
  ∀ path, ¬ Enumerates files context path →
    maps.stored after path = maps.stored before path ∨
      (maps.stored after path = none ∧ files.isMissing path = true ∧
        path.same context.path = false)

variable {maps files context}

theorem Spares.refl (logic : engine.Logic) : Spares maps files context logic logic :=
  fun _ _ => Or.inl rfl

/-- The units that a pass does not look at are not changed by its logic stage. -/
theorem Loading.recalled {base first second left right : engine.Logic}
    (loading : Loading maps files context first second [] left right)
    (agree : AgreeOutside maps files context first second)
    (spares : Spares maps files context base first) :
    AgreeOutside maps files context left right ∧ Spares maps files context base left := by
  constructor
  · intro path outside _
    rw [loading.leftKept path outside, loading.rightKept path outside]
    exact agree.keptAt outside
  · intro path outside
    rw [loading.leftKept path outside]
    unfold keptAt
    split
    · next gone =>
        simp only [isStaleUnit, Bool.and_eq_true, Bool.not_eq_true'] at gone
        exact Or.inr ⟨rfl, gone.2, gone.1⟩
    · exact spares path outside

theorem runStages_recalls {left right : Registries engine}
    (agree : AgreeOutside maps files context left.logic right.logic) :
    InStep (SameModels maps)
      (fun leftLogic rightLogic => AgreeOutside maps files context leftLogic rightLogic ∧
        Spares maps files context left.logic leftLogic)
      (runStages files context (stagesFor context.kind) left.fresh)
      (runStages files context (stagesFor context.kind) right.fresh) := by
  apply runStages_fresh_inStep maps files context _ ⟨agree, .refl _⟩
  intro _ leftWork rightWork paired
  have ran := runStage_logic_inStep maps files context paired paired.logic.1
  exact ⟨ran.1, ran.2.models, ran.2.logic.recalled paired.logic.1 paired.logic.2, ran.2.template,
    ran.2.report⟩

theorem run_spares (registries : Registries engine) :
    Spares maps files context registries.logic (run files context registries).registries.logic :=
  have same : AgreeOutside maps files context registries.logic registries.logic := fun _ _ _ => rfl
  (runStages_recalls same).2.logic.2

theorem Spares.agree {before after : engine.Logic} (spares : Spares maps files context before after) :
    AgreeOutside maps files context after before := by
  intro path outside stays
  rcases spares path outside with same | ⟨_, missing, notOwn⟩
  · exact same
  · rcases stays with present | own
    · rw [missing] at present
      cases present
    · rw [notOwn] at own
      cases own

end

/-- What a pass over a document makes of registries that earlier passes have left.
Two passes come to the same end if the units agree that the pass does not look at;
it leaves these units as they are, and so comes to the same end again. -/
structure Recollection (maps : engine.Maps) (files : FileSystem) (checker : Checker)
    (document : Document) : Prop where
  same : ∀ left right : Registries engine,
    (∀ context, arrive files checker document = .ok context →
      AgreeOutside maps files context left.logic right.logic) →
    (validate files checker document left).outcome =
      (validate files checker document right).outcome
  spared : ∀ (registries : Registries engine) context,
    arrive files checker document = .ok context →
    Spares maps files context registries.logic
      (validate files checker document registries).registries.logic
  /-- Without a package there is nothing to change. -/
  untouched : ∀ (registries : Registries engine) outcome,
    arrive files checker document = .error outcome →
    (validate files checker document registries).registries = registries
  /-- Without a logic stage nothing is recalled. -/
  blank : ∀ (left right : Registries engine) context,
    arrive files checker document = .ok context →
    context.kind = .grammar ∨ context.kind = .other →
    (validate files checker document left).outcome =
      (validate files checker document right).outcome
  again : ∀ registries : Registries engine,
    (validate files checker document
      (validate files checker document registries).registries).outcome =
      (validate files checker document registries).outcome
  /-- The same for two pools in which nothing else is going on. -/
  visited : ∀ left right : Pool engine, left.Idle → right.Idle →
    (∀ context, arrive files checker document = .ok context →
      AgreeOutside maps files context
        (left.registries (Pool.Visit.site ⟨files, checker, document⟩ left)).logic
        (right.registries (Pool.Visit.site ⟨files, checker, document⟩ right)).logic) →
    ((left.visit ⟨files, checker, document⟩).deliveries.getLast?.map Pool.Delivery.outcome) =
      (right.visit ⟨files, checker, document⟩).deliveries.getLast?.map Pool.Delivery.outcome

/-- For every engine that keeps its registries as maps. -/
theorem recollection (maps : engine.Maps) (files : FileSystem) (checker : Checker)
    (document : Document) : Recollection maps files checker document := by
  have same : ∀ left right : Registries engine,
      (∀ context, arrive files checker document = .ok context →
        AgreeOutside maps files context left.logic right.logic) →
      (validate files checker document left).outcome =
        (validate files checker document right).outcome := by
    intro left right agree
    cases arrived : arrive files checker document with
    | error outcome => simp only [validate, arrived]
    | ok context =>
        simp only [validate, arrived]
        exact run_outcome_eq files context (runStages_recalls (agree context arrived))
  have spared : ∀ (registries : Registries engine) context,
      arrive files checker document = .ok context →
      Spares maps files context registries.logic
        (validate files checker document registries).registries.logic := by
    intro registries context arrived
    simp only [validate, arrived]
    exact run_spares registries
  refine ⟨same, spared, ?untouched, ?blank, ?again, ?visited⟩
  case untouched =>
    intro registries outcome arrived
    simp only [validate, arrived]
  case blank =>
    intro left right context arrived kind
    simp only [validate, arrived]
    have noLogic : .logic ∉ stagesFor context.kind := by
      rcases kind with isGrammar | isOther
      · simp [isGrammar, stagesFor]
      · simp [isOther, stagesFor]
    have inStep := @runStages_fresh_inStep engine (fun _ _ => True) maps files context left right
      (fun member => absurd member noLogic) trivial
    exact run_outcome_eq files context inStep
  case again =>
    intro registries
    apply same
    intro context arrived
    exact (spared registries context arrived).agree
  case visited =>
    intro left right leftIdle rightIdle agree
    rw [(leftIdle.visited _).2.1, (rightIdle.visited _).2.1, List.getLast?_concat,
      List.getLast?_concat, Option.map_some, Option.map_some]
    exact congrArg some (same _ _ agree)

/-! A package whose one logic file was once different, and from which a file was
deleted. The units of both are nothing to the next pass; that of a file next to the
logic is, as no pass ever looks at it. -/

namespace Leftovers

def files : FileSystem where
  entries := [("p", .directory
    [("package.json", .file (Text.Utf8.encodeChars "\x7b\"accordproject\":true\x7d".toList)),
      ("models", .directory [("m.cto", .file (Text.Utf8.encodeChars "alpha".toList))]),
      ("lib", .directory [("a.ergo", .file (Text.Utf8.encodeChars "alpha".toList))]),
      ("kept.ergo", .file [])])]
  workingDirectory := []

def checker : Checker := (Checker.ofLayout {}).toOption.getD default

def uri (path : String) : Uri where
  scheme := "file"
  authority := some ⟨"", "", none⟩
  path := path
  query := none
  fragment := none

def document : Document := ⟨uri "/p/lib/a.ergo", "alpha"⟩

def passed : Outcome :=
  .completed ⟨some ⟨"/p"⟩, [⟨.model, true⟩, ⟨.logic, true⟩],
    ⟨[(uri "/p/lib/a.ergo", []), (uri "/p/models/m.cto", [])]⟩⟩

def context : Context := ⟨checker, document, ⟨"/p/lib/a.ergo"⟩, ⟨"/p"⟩⟩

def edited : Registries Shelf.engine :=
  ⟨["beta"], [(⟨"/p/gone.ergo"⟩, "beta"), (⟨"/p/lib/a.ergo"⟩, "beta")]⟩

def untold : Registries Shelf.engine := ⟨[], []⟩

def besides : Registries Shelf.engine := ⟨[], [(⟨"/p/kept.ergo"⟩, "beta")]⟩

theorem arrived : arrive files checker document = .ok context := by
  have isFile : document.uri.toPath? = some ⟨"/p/lib/a.ergo"⟩ := by decide +kernel
  have found : Package.findRoot? files checker.layout ⟨"/p/lib/a.ergo"⟩ = some ⟨"/p"⟩ := by
    decide +kernel
  simp only [arrive, isFile, found]
  rfl

theorem agree : AgreeOutside Shelf.maps files context edited.logic untold.logic := by
  intro path outside stays
  cases found : Shelf.lookup edited.logic path with
  | none => exact found
  | some content =>
      exfalso
      have member := List.mem_of_find?_eq_some (Shelf.lookup_eq_some.mp found)
      rcases List.mem_cons.mp member with isGone | isKept
      · have equal : path = ⟨"/p/gone.ergo"⟩ := congrArg Prod.fst isGone
        rw [equal] at stays
        revert stays
        decide +kernel
      · have equal : path = ⟨"/p/lib/a.ergo"⟩ := congrArg Prod.fst (List.mem_singleton.mp isKept)
        apply outside
        rw [equal]
        exact ⟨⟨"/p/lib/a.ergo"⟩, by decide +kernel, Path.same_refl _⟩

theorem recollection_leftovers :
    (validate files checker document edited).outcome = passed ∧
      (validate files checker document besides).outcome ≠ passed := by
  have fresh : (validate files checker document untold).outcome = passed := by decide +kernel
  refine ⟨?_, by decide +kernel⟩
  rw [← fresh]
  apply (recollection Shelf.maps files checker document).same edited untold
  intro other isOther
  rw [arrived] at isOther
  rw [← Except.ok.inj isOther]
  exact agree

end Leftovers

end TemplateCheck.Pass
