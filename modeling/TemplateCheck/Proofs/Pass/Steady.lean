import TemplateCheck.Pass.Stages

/-! # Engines that do not break down

An operation of an engine may break down instead of giving an answer. Where none
does, no half of any stage ends broken: every other setback is a failure, and
failures are reported.
-/

namespace TemplateCheck

/-- An engine that never breaks down. -/
structure Engine.Steady (engine : Engine) : Prop where
  namespaceOf : ∀ models content path, engine.namespaceOf models content path ≠ .error .breakdown
  add : ∀ models content path, (engine.add models content path).2 ≠ .error .breakdown
  update : ∀ models content path, (engine.update models content path).2 ≠ .error .breakdown
  resolve : ∀ models, (engine.resolve models).2 ≠ .error .breakdown
  updateUnit : ∀ logic content path, (engine.updateUnit logic content path).2 ≠ .error .breakdown
  compile : ∀ logic models strict, (engine.compile logic models strict).2 ≠ .error .breakdown
  loadTemplate : ∀ files root, engine.loadTemplate files root ≠ .error .breakdown
  buildGrammar : ∀ template grammar, (engine.buildGrammar template grammar).2 ≠ .error .breakdown
  validate : ∀ template, engine.validate template ≠ .error .breakdown
  parseSample : ∀ template sample, engine.parseSample template sample ≠ .error .breakdown

/-- An engine that accepts everything. -/
def Engine.lenient : Engine where
  Models := Unit
  Logic := Unit
  Template := Unit
  newModels := ()
  newLogic := ()
  clear := id
  namespaceOf := fun _ _ _ => .ok ""
  hasNamespace := fun _ _ => false
  add := fun models _ _ => (models, .ok ())
  update := fun models _ _ => (models, .ok ())
  resolve := fun models => (models, .ok ())
  updateUnit := fun logic _ _ => (logic, .ok ())
  removeUnit := fun logic _ => logic
  unitPaths := fun _ => []
  compile := fun logic _ _ => (logic, .ok ())
  loadTemplate := fun _ _ => .ok ()
  buildGrammar := fun template _ => (template, .ok ())
  validate := fun _ => .ok ()
  parseSample := fun _ _ => .ok ()

/-- A setback is told apart from a breakdown whatever the answer was to be. -/
theorem Setback.ne_breakdown_of_error {value : Type} {setback : Setback}
    (answered : (Except.error setback : Except Setback value) ≠ .error .breakdown) :
    setback ≠ .breakdown := by
  intro broken
  exact answered (congrArg Except.error broken)

theorem Setback.withFile_ne_breakdown {setback : Setback} (reported : setback ≠ .breakdown)
    (path : Path) : setback.withFile path ≠ .breakdown := by
  cases setback with
  | failure failure => nofun
  | breakdown => exact absurd rfl reported

namespace Pass

variable {engine : Engine} (files : FileSystem) (context : Context)

theorem endWith_ne_broken {setback : Setback} (reported : setback ≠ .breakdown)
    (work : Work engine) (stage : Stage) : (work.endWith context stage setback).2 ≠ .broken := by
  cases setback with
  | failure failure => nofun
  | breakdown => exact absurd rfl reported

theorem readFile_ne_breakdown (work : Work engine) (path : Path) :
    (readFile files work path).2 ≠ .error .breakdown := by
  unfold readFile
  split
  · nofun
  · nofun

theorem readSource_ne_breakdown (work : Work engine) (path : Path) :
    (readSource files context work path).2 ≠ .error .breakdown := by
  unfold readSource
  split
  · nofun
  · exact readFile_ne_breakdown files work path

theorem storeModel_ne_breakdown (steady : engine.Steady) (work : Work engine) (path : Path)
    (content : String) : (storeModel work path content).2 ≠ .error .breakdown := by
  unfold storeModel
  dsimp only
  split
  · next setback equal =>
      intro broken
      cases broken
      exact steady.namespaceOf _ _ _ equal
  · split
    · exact steady.update _ _ _
    · exact steady.add _ _ _

theorem loadModel_ne_breakdown (steady : engine.Steady) (work : Work engine) (path : Path) :
    (loadModel files context work path).2 ≠ .error .breakdown := by
  have reads := readSource_ne_breakdown files context work path
  unfold loadModel
  split
  · next equal =>
      rw [equal] at reads
      simpa using Setback.ne_breakdown_of_error reads
  · exact storeModel_ne_breakdown steady _ _ _

theorem loadUnit_ne_breakdown (steady : engine.Steady) (work : Work engine) (path : Path) :
    (loadUnit files context work path).2 ≠ .error .breakdown := by
  have reads := readSource_ne_breakdown files context work path
  unfold loadUnit
  split
  · next equal =>
      rw [equal] at reads
      simpa using Setback.ne_breakdown_of_error reads
  · exact steady.updateUnit _ _ _

theorem loadAll_ne_broken {load : Work engine → Path → Work engine × Answer}
    (loads : ∀ work path, (load work path).2 ≠ .error .breakdown) (stage : Stage)
    (paths : List Path) (work : Work engine) :
    (loadAll load context stage paths work).2 ≠ .over .broken := by
  induction paths generalizing work with
  | nil => nofun
  | cons path rest induction =>
      unfold loadAll
      split
      · nofun
      · next marked _ =>
          have reported := loads marked path
          split
          · next equal =>
              rw [equal] at reported
              intro broken
              exact endWith_ne_broken context (Setback.ne_breakdown_of_error reported) _ _
                (Half.over.inj broken)
          · exact induction _

theorem start_ne_broken (steady : engine.Steady) (work : Work engine) (stage : Stage) :
    (start files context work stage).2 ≠ .over .broken := by
  cases stage with
  | model =>
      have loads := loadAll_ne_broken context (loadModel_ne_breakdown files context steady) .model
        (modelFiles files context)
      unfold start startModels
      dsimp only
      split
      · exact Half.noConfusion
      · exact loads _
  | logic =>
      have loads := loadAll_ne_broken context (loadUnit_ne_breakdown files context steady) .logic
        (logicFiles files context)
      unfold start startLogic
      dsimp only
      split
      · exact Half.noConfusion
      · exact loads _
  | template =>
      unfold start startTemplate
      dsimp only
      split
      · nofun
      · nofun
  | sample =>
      unfold start startSample
      dsimp only
      split
      · nofun
      · nofun

theorem applyGrammar_ne_breakdown (steady : engine.Steady) (work : Work engine)
    (template : engine.Template) :
    (applyGrammar context work template).2 ≠ .error .breakdown := by
  have builds := steady.buildGrammar template context.document.text
  unfold applyGrammar
  split
  · split
    · next equal =>
        rw [equal] at builds
        intro broken
        cases broken
        exact builds rfl
    · nofun
  · nofun

theorem buildTemplate_ne_breakdown (steady : engine.Steady) (work : Work engine) :
    (buildTemplate files context work).2 ≠ .error .breakdown := by
  have loads := steady.loadTemplate files context.root
  unfold buildTemplate
  split
  · next equal =>
      rw [equal] at loads
      intro broken
      cases broken
      exact loads rfl
  · next template _ =>
      have applies := applyGrammar_ne_breakdown context steady work template
      split
      · next equal =>
          rw [equal] at applies
          exact applies
      · next built _ =>
          have validates := steady.validate built
          dsimp only
          split
          · next equal =>
              rw [equal] at validates
              intro broken
              cases broken
              exact validates rfl
          · nofun

theorem parseSample_ne_breakdown (steady : engine.Steady) (work : Work engine)
    (template : engine.Template) (path : Path) :
    (parseSample files work template path).2 ≠ .error .breakdown := by
  have reads := readFile_ne_breakdown files work path
  unfold parseSample
  split
  · next equal =>
      rw [equal] at reads
      simpa using Setback.ne_breakdown_of_error reads
  · next sample _ =>
      have parses := steady.parseSample template sample
      dsimp only
      split
      · next equal =>
          rw [equal] at parses
          exact parses
      · nofun

theorem finish_ne_broken (steady : engine.Steady) (work : Work engine) (stage : Stage) :
    (finish files context work stage).2 ≠ .broken := by
  cases stage with
  | model =>
      have resolves := steady.resolve work.models
      simp only [finish, finishModels]
      split
      · next equal =>
          rw [equal] at resolves
          exact endWith_ne_broken context (Setback.ne_breakdown_of_error resolves) _ _
      · nofun
  | logic =>
      have compiles := steady.compile work.logic work.models true
      simp only [finish, finishLogic]
      split
      · next equal =>
          rw [equal] at compiles
          exact endWith_ne_broken context (Setback.ne_breakdown_of_error compiles) _ _
      · nofun
  | template =>
      have builds := buildTemplate_ne_breakdown files context steady work
      simp only [finish, finishTemplate]
      split
      · next equal =>
          rw [equal] at builds
          have reported := Setback.withFile_ne_breakdown
            (Setback.ne_breakdown_of_error builds)
          exact endWith_ne_broken context (reported _) _ _
      · nofun
  | sample =>
      simp only [finish, finishSample]
      split
      · nofun
      · next template _ =>
          have parses := parseSample_ne_breakdown files steady work template
            (context.layout.sampleFile context.root)
          split
          · next equal =>
              rw [equal] at parses
              have reported := Setback.withFile_ne_breakdown
                (Setback.ne_breakdown_of_error parses)
              exact endWith_ne_broken context (reported _) _ _
          · nofun

end Pass

end TemplateCheck
