import TemplateCheck.Proofs.Ordered
import TemplateCheck.Proofs.Pass.Record

/-! # What a pass that finds no fault lists

Every stage lists files as valid before it looks at them: the model stage and the
logic stage those they have found, the template stage the grammar file, the
sample stage the sample file. So the report of a pass whose stages have all
passed lists these files, all of them without diagnostics, and no other. In
particular the edited document is listed only if it is one of them.
-/

namespace TemplateCheck

/-- A report that lists these files, each of them as valid. -/
structure Report.Clears (report : Report) (uris : List Uri) : Prop where
  clean : ∀ entry ∈ report.files, entry.2 = []
  listed : ∀ uri, (report.get? uri).isSome = uris.any uri.same

namespace Report

theorem clears_empty : Clears {} [] where
  clean := by simp
  listed := fun _ => rfl

theorem Clears.markValid {report : Report} {uris : List Uri} (clears : report.Clears uris)
    (uri : Uri) : (report.markValid uri).Clears (uris ++ [uri]) where
  clean := by
    intro entry member
    rcases Ordered.mem_put member with new | old
    · exact new
    · exact clears.clean entry old
  listed := by
    intro other
    have before := clears.listed other
    simp only [get?, Report.markValid, Uri.find?_put] at before ⊢
    by_cases same : other.same uri = true
    · simp [same]
    · simp [same, before]

end Report

namespace Pass

variable {engine : Engine} (files : FileSystem) (context : Context)

/-- The files that a stage looks at. -/
def filesOf : Stage → List Path
  | .model => modelFiles files context
  | .logic => logicFiles files context
  | .template => [context.layout.grammarFile context.root]
  | .sample => [context.layout.sampleFile context.root]

def urisOf (paths : List Path) : List Uri :=
  paths.filterMap context.subject.uriFor?

/-- The files that a pass lists if all its stages pass. -/
def reviewed : List Uri :=
  (stagesFor context.kind).flatMap fun stage => urisOf context (filesOf files context stage)

/-! ## Work that leaves the report as it is -/

theorem readSource_report (work : Work engine) (path : Path) :
    (readSource files context work path).1.report = work.report := by
  unfold readSource readFile
  split
  · rfl
  · dsimp only
    split
    · rfl
    · rfl

theorem storeModel_report (work : Work engine) (path : Path) (content : String) :
    (storeModel work path content).1.report = work.report := by
  unfold storeModel
  dsimp only
  split
  · rfl
  · split
    · rfl
    · rfl

theorem loadModel_report (work : Work engine) (path : Path) :
    (loadModel files context work path).1.report = work.report := by
  have reads := readSource_report files context work path
  unfold loadModel
  split
  · next equal =>
      rw [equal] at reads
      exact reads
  · next equal =>
      rw [equal] at reads
      rw [storeModel_report]
      exact reads

theorem loadUnit_report (work : Work engine) (path : Path) :
    (loadUnit files context work path).1.report = work.report := by
  have reads := readSource_report files context work path
  unfold loadUnit
  split
  · next equal =>
      rw [equal] at reads
      exact reads
  · next equal =>
      rw [equal] at reads
      exact reads

theorem removeUnits_report (paths : List Path) (work : Work engine) :
    (removeUnits paths work).report = work.report := by
  induction paths generalizing work with
  | nil => rfl
  | cons path rest induction => exact induction _

theorem applyGrammar_report (work : Work engine) (template : engine.Template) :
    (applyGrammar context work template).1.report = work.report := by
  unfold applyGrammar
  split
  · dsimp only
    split
    · rfl
    · rfl
  · rfl

theorem buildTemplate_report (work : Work engine) :
    (buildTemplate files context work).1.report = work.report := by
  unfold buildTemplate
  split
  · rfl
  · next template _ =>
      have applies := applyGrammar_report context work template
      split
      · next equal =>
          rw [equal] at applies
          exact applies
      · next equal =>
          rw [equal] at applies
          dsimp only
          split
          · exact applies
          · exact applies

theorem parseSample_report (work : Work engine) (template : engine.Template) (path : Path) :
    (parseSample files work template path).1.report = work.report := by
  unfold parseSample readFile
  dsimp only
  split
  · next equal =>
      split at equal
      · cases equal
      · cases equal
        rfl
  · next equal =>
      split at equal
      · cases equal
        split
        · rfl
        · rfl
      · cases equal

/-! ## Stages -/

theorem endWith_ne_passed (work : Work engine) (stage : Stage) (setback : Setback) :
    (work.endWith context stage setback).2 ≠ .passed := by
  cases setback with
  | failure failure => nofun
  | breakdown => nofun

section

variable {work result : Work engine} {uris : List Uri}

theorem mark?_clears {path : Path} (clears : work.report.Clears uris)
    (marked : work.mark? context path = some result) :
    result.report.Clears (uris ++ urisOf context [path]) := by
  rcases Option.map_eq_some_iff.mp marked with ⟨uri, named, equal⟩
  rw [← equal]
  simpa [urisOf, named] using clears.markValid uri

theorem loadAll_clears {load : Work engine → Path → Work engine × Answer}
    (loads : ∀ work path, (load work path).1.report = work.report) {stage : Stage}
    {paths : List Path} (clears : work.report.Clears uris)
    (loaded : loadAll load context stage paths work = (result, .waiting)) :
    result.report.Clears (uris ++ urisOf context paths) := by
  induction paths generalizing work uris with
  | nil =>
      cases loaded
      simpa [urisOf] using clears
  | cons path rest induction =>
      unfold loadAll at loaded
      split at loaded
      · cases loaded
      · next marked mark =>
          have sameReport := loads marked path
          have clearsOne := mark?_clears context clears mark
          split at loaded
          · cases loaded
          · next equal =>
              rw [equal] at sameReport
              rw [← sameReport] at clearsOne
              have clearsAll := induction clearsOne loaded
              rw [List.append_assoc] at clearsAll
              simpa only [urisOf, ← List.filterMap_append, List.singleton_append] using clearsAll

theorem asking_eq_waiting {call : Call engine.Template} {loaded : Work engine × Half}
    (waiting : asking call loaded = (result, .waiting)) :
    ∃ before, loaded = (before, .waiting) ∧ result = before.call call := by
  rcases loaded with ⟨before, verdict | _⟩
  · cases waiting
  · cases waiting
    exact ⟨before, rfl, rfl⟩

theorem start_clears {stage : Stage} (clears : work.report.Clears uris)
    (started : start files context work stage = (result, .waiting)) :
    result.report.Clears (uris ++ urisOf context (filesOf files context stage)) := by
  cases stage with
  | model =>
      rw [start_model_eq] at started
      rcases asking_eq_waiting started with ⟨loaded, equal, asked⟩
      have clearsLoaded :
          loaded.report.Clears (uris ++ urisOf context (modelFiles files context)) := by
        refine loadAll_clears context (loadModel_report files context) ?_ equal
        exact clears
      rw [asked]
      exact clearsLoaded
  | logic =>
      rw [start_logic_eq] at started
      rcases asking_eq_waiting started with ⟨loaded, equal, asked⟩
      have clearsLoaded :
          loaded.report.Clears (uris ++ urisOf context (logicFiles files context)) := by
        refine loadAll_clears context (loadUnit_report files context) ?_ equal
        rw [removeUnits_report]
        exact clears
      rw [asked]
      exact clearsLoaded
  | template =>
      unfold start startTemplate at started
      dsimp only at started
      split at started
      · cases started
      · next marked mark =>
          have clearsMarked := mark?_clears context clears mark
          cases started
          exact clearsMarked
  | sample =>
      unfold start startSample at started
      dsimp only at started
      split at started
      · cases started
      · next marked mark =>
          cases started
          exact mark?_clears context clears mark

theorem loadAll_ne_passed (load : Work engine → Path → Work engine × Answer) (stage : Stage)
    (paths : List Path) (work : Work engine) :
    (loadAll load context stage paths work).2 ≠ .over .passed := by
  induction paths generalizing work with
  | nil => nofun
  | cons path rest induction =>
      unfold loadAll
      split
      · nofun
      · split
        · intro passed
          exact endWith_ne_passed context _ stage _ (Half.over.inj passed)
        · exact induction _

theorem asking_ne_passed (call : Call engine.Template) {loaded : Work engine × Half}
    (loads : loaded.2 ≠ .over .passed) : (asking call loaded).2 ≠ .over .passed := by
  rcases loaded with ⟨before, verdict | _⟩
  · exact loads
  · nofun

/-- No stage passes in its first half. -/
theorem start_ne_passed (work : Work engine) (stage : Stage) :
    (start files context work stage).2 ≠ .over .passed := by
  cases stage with
  | model =>
      rw [start_model_eq]
      exact asking_ne_passed _ (loadAll_ne_passed context _ _ _ _)
  | logic =>
      rw [start_logic_eq]
      exact asking_ne_passed _ (loadAll_ne_passed context _ _ _ _)
  | template =>
      unfold start startTemplate
      dsimp only
      split
      · nofun
      · nofun
  | sample =>
      unfold start startSample
      dsimp only
      split
      · nofun
      · nofun

theorem finish_report {stage : Stage}
    (passed : finish files context work stage = (result, .passed)) :
    result.report = work.report := by
  cases stage with
  | model =>
      rcases answered : engine.resolve work.models with ⟨models, setback | _⟩
      · simp only [finish, finishModels, answered] at passed
        exact absurd (congrArg Prod.snd passed) (endWith_ne_passed context _ _ setback)
      · simp only [finish, finishModels, answered] at passed
        cases passed
        rfl
  | logic =>
      rcases answered : engine.compile work.logic work.models true with ⟨logic, setback | _⟩
      · simp only [finish, finishLogic, answered] at passed
        exact absurd (congrArg Prod.snd passed) (endWith_ne_passed context _ _ setback)
      · simp only [finish, finishLogic, answered] at passed
        cases passed
        rfl
  | template =>
      have built := buildTemplate_report files context work
      unfold finish finishTemplate at passed
      dsimp only at passed
      split at passed
      · exact absurd (congrArg Prod.snd passed) (endWith_ne_passed context _ _ _)
      · next equal =>
          rw [equal] at built
          cases passed
          exact built
  | sample =>
      unfold finish finishSample at passed
      dsimp only at passed
      split at passed
      · cases passed
      · next template _ =>
          have parsed := parseSample_report files work template
            (context.layout.sampleFile context.root)
          split at passed
          · exact absurd (congrArg Prod.snd passed) (endWith_ne_passed context _ _ _)
          · next equal =>
              rw [equal] at parsed
              cases passed
              exact parsed

theorem runStage_clears {stage : Stage} (clears : work.report.Clears uris)
    (passed : runStage files context work stage = (result, .passed)) :
    result.report.Clears (uris ++ urisOf context (filesOf files context stage)) := by
  have unpassed := start_ne_passed files context work stage
  unfold runStage at passed
  split at passed
  · next equal =>
      rw [equal] at unpassed
      cases passed
      exact absurd rfl unpassed
  · next equal =>
      rw [finish_report files context passed]
      exact start_clears files context clears equal

/-! ## Passes -/

/-- If every stage has passed then so have all that were run. -/
theorem runStages_clears {stages : List Stage} (different : stages.Nodup)
    (clears : work.report.Clears uris) {results : List StageResult}
    (ran : runStages files context stages work = (result, some results))
    (passed : ∀ stage ∈ stages, ⟨stage, true⟩ ∈ results) :
    result.report.Clears
      (uris ++ stages.flatMap fun stage => urisOf context (filesOf files context stage)) := by
  induction stages generalizing work uris results with
  | nil =>
      cases ran
      simpa using clears
  | cons stage rest induction =>
      rcases List.nodup_cons.mp different with ⟨apart, restDifferent⟩
      rcases outcome : runStage files context work stage with ⟨ended, verdict⟩
      have first := passed stage List.mem_cons_self
      cases verdict with
      | passed =>
          simp only [runStages, outcome] at ran
          rcases later : runStages files context rest ended with ⟨last, _ | lastResults⟩
          · simp [later] at ran
          · simp only [later, Option.map_some, Prod.mk.injEq, Option.some.injEq] at ran
            rw [ran.1] at later
            have all := induction restDifferent (runStage_clears files context clears outcome)
              later (by
                intro other member
                have listed := passed other (List.mem_cons_of_mem _ member)
                rw [← ran.2] at listed
                rcases List.mem_cons.mp listed with same | behind
                · cases same
                  exact absurd member apart
                · exact behind)
            rw [List.append_assoc] at all
            simpa only [List.flatMap_cons] using all
      | failed =>
          simp only [runStages, outcome] at ran
          cases ran
          simp at first
      | aborted =>
          simp only [runStages, outcome] at ran
          cases ran
          simp at first
      | broken =>
          simp only [runStages, outcome] at ran
          cases ran

end

theorem stagesFor_nodup (kind : Package.SourceKind) : (stagesFor kind).Nodup := by
  cases kind with
  | model => decide
  | logic => decide
  | grammar => decide
  | other => decide

theorem mem_stages_of_passed {completed : Completed} {stage : Stage}
    (passed : completed.passed stage = true) : ⟨stage, true⟩ ∈ completed.stages := by
  rcases List.any_eq_true.mp passed with ⟨result, member, both⟩
  rcases result with ⟨own, isPassed⟩
  simp only [Bool.and_eq_true, beq_iff_eq] at both
  rw [← both.1, ← both.2]
  exact member

/-- The report of a pass whose stages have all passed. -/
theorem run_clears {registries : Registries engine} {completed : Completed}
    (ended : (run files context registries).outcome = .completed completed)
    (passed : ∀ stage ∈ stagesFor context.kind, completed.passed stage = true) :
    completed.report.Clears (reviewed files context) := by
  unfold run at ended
  dsimp only at ended
  rcases ran : runStages files context (stagesFor context.kind)
    { models := registries.models, logic := registries.logic } with ⟨work, _ | results⟩
  · simp [ran] at ended
  · simp only [ran, Outcome.completed.injEq] at ended
    subst ended
    exact runStages_clears files context (stagesFor_nodup _) Report.clears_empty ran
      fun stage member => mem_stages_of_passed (passed stage member)

end Pass

end TemplateCheck
