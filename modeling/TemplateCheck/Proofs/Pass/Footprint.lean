import TemplateCheck.Proofs.Diagnostic.Order
import TemplateCheck.Proofs.Increasing
import TemplateCheck.Proofs.Pass.Findings
import TemplateCheck.Proofs.Path.Inside

/-! # The footprint of a stage

The paths that a stage marks, reads or hands to the engine are the files that it looks at and
the root of its package. So both halves of a stage stay inside the package, whatever the file
system has become in between, and every stage that fails shows an error of its own.
-/

namespace TemplateCheck

/-- The path that is marked, read or given to the engine together with what is there. Units are
removed by the paths that the engine itself has listed. -/
def Action.touched? {template : Type} : Action template → Option Path
  | .mark path => some path
  | .read path => some path
  | .call (.namespaceOf _ path) => some path
  | .call (.add _ path) => some path
  | .call (.update _ path) => some path
  | .call (.updateUnit _ path) => some path
  | .call (.load root) => some root
  | .call _ => none

/-- The report has an error of a stage. -/
def Report.Shows (report : Report) (stage : Stage) : Prop :=
  ∃ uri diagnostics, report.get? uri = some diagnostics ∧
    ∃ diagnostic ∈ diagnostics, diagnostic.stage = stage ∧ diagnostic.severity = .error

namespace Pass

variable {engine : Engine}

/-! ## Touched paths -/

/-- All paths that were touched are allowed. -/
def Work.Stays (allowed : Path → Prop) (work : Work engine) : Prop :=
  ∀ action ∈ work.actions, ∀ path, action.touched? = some path → allowed path

namespace Work.Stays

variable {allowed : Path → Prop} {work : Work engine} (stays : work.Stays allowed)
  (files : FileSystem) (context : Context)

include stays

theorem of_eq {next : Work engine} (same : next.actions = work.actions) : next.Stays allowed := by
  unfold Work.Stays
  rw [same]
  exact stays

theorem of_act {next : Work engine} (action : Action engine.Template)
    (did : next.actions = work.actions ++ [action])
    (inside : ∀ path, action.touched? = some path → allowed path) : next.Stays allowed := by
  unfold Work.Stays
  rw [did]
  intro other member
  rcases List.mem_append.mp member with earlier | last
  · exact stays other earlier
  · exact List.mem_singleton.mp last ▸ inside

/-- An action that touches one path. -/
theorem of_touch {next : Work engine} (action : Action engine.Template)
    (did : next.actions = work.actions ++ [action]) {path : Path}
    (touched : action.touched? = some path) (inside : allowed path) : next.Stays allowed := by
  refine stays.of_act action did fun other equal => ?_
  rw [touched] at equal
  exact Option.some.inj equal ▸ inside

/-- An action that touches none. -/
theorem of_quiet {next : Work engine} (action : Action engine.Template)
    (did : next.actions = work.actions ++ [action]) (quiet : action.touched? = none) :
    next.Stays allowed := by
  refine stays.of_act action did fun other equal => ?_
  rw [quiet] at equal
  cases equal

theorem mark? {path : Path} (inside : allowed path) {marked : Work engine}
    (listed : work.mark? context path = some marked) : marked.Stays allowed := by
  rcases Option.map_eq_some_iff.mp listed with ⟨uri, _, rfl⟩
  exact stays.of_touch (.mark path) rfl rfl inside

theorem endWith (stage : Stage) (setback : Setback) :
    (work.endWith context stage setback).1.Stays allowed := by
  cases setback with
  | failure failure => exact stays.of_eq rfl
  | breakdown => exact stays.of_eq rfl

theorem readFile {path : Path} (inside : allowed path) :
    (readFile files work path).1.Stays allowed := by
  have did : (Pass.readFile files work path).1.actions = work.actions ++ [.read path] := by
    unfold Pass.readFile
    dsimp only
    split
    · rfl
    · rfl
  exact stays.of_touch _ did rfl inside

theorem readSource {path : Path} (inside : allowed path) :
    (readSource files context work path).1.Stays allowed := by
  unfold Pass.readSource
  split
  · exact stays
  · exact stays.readFile files inside

theorem storeModel {path : Path} (inside : allowed path) (content : String) :
    (storeModel work path content).1.Stays allowed := by
  have asked : (work.call (.namespaceOf content path)).Stays allowed :=
    stays.of_touch _ rfl rfl inside
  unfold Pass.storeModel
  dsimp only
  split
  · exact asked
  · next name _ =>
      have looked : ((work.call (.namespaceOf content path)).call (.hasNamespace name)).Stays
          allowed := asked.of_quiet _ rfl rfl
      split
      · exact looked.of_touch (.call (.update content path)) rfl rfl inside
      · exact looked.of_touch (.call (.add content path)) rfl rfl inside

theorem load (stage : Stage) {path : Path} (inside : allowed path) :
    ((procedure files context stage).load work path).1.Stays allowed := by
  cases stage with
  | model =>
      have read := stays.readSource files context inside
      simp only [procedure, loadModel]
      split
      · next equal =>
          rw [equal] at read
          exact read
      · next equal =>
          rw [equal] at read
          exact read.storeModel inside _
  | logic =>
      have read := stays.readSource files context inside
      simp only [procedure, loadUnit]
      split
      · next equal =>
          rw [equal] at read
          exact read
      · next content equal =>
          rw [equal] at read
          exact read.of_touch (.call (.updateUnit content path)) rfl rfl inside
  | template => exact stays
  | sample => exact stays

theorem removeUnits (paths : List Path) : (removeUnits paths work).Stays allowed := by
  induction paths generalizing work with
  | nil => exact stays
  | cons path rest induction =>
      unfold Pass.removeUnits
      exact induction (stays.of_quiet (.call (.removeUnit path)) rfl rfl)

theorem prepare (stage : Stage) : ((procedure files context stage).prepare work).Stays allowed := by
  cases stage with
  | model => exact stays.of_quiet (.call .clear) rfl rfl
  | logic =>
      have asked : (work.call .unitPaths).Stays allowed := stays.of_quiet _ rfl rfl
      exact asked.removeUnits _
  | template => exact stays
  | sample => exact stays

theorem pose (stage : Stage) (inside : allowed context.root) :
    (work.pose (procedure files context stage).question).Stays allowed := by
  cases stage with
  | model => exact stays.of_quiet (.call .resolve) rfl rfl
  | logic => exact stays.of_quiet (.call (.compile true)) rfl rfl
  | template => exact stays.of_touch (.call (.load context.root)) rfl rfl inside
  | sample => exact stays

theorem buildTemplate : (buildTemplate files context work).1.Stays allowed := by
  unfold Pass.buildTemplate
  split
  · exact stays
  · next template _ =>
      have applied : (applyGrammar context work template).1.Stays allowed := by
        unfold applyGrammar
        split
        · dsimp only
          split
          · exact stays.of_quiet (.call (.buildGrammar context.document.text)) rfl rfl
          · exact stays.of_quiet (.call (.buildGrammar context.document.text)) rfl rfl
        · exact stays
      split
      · next equal =>
          rw [equal] at applied
          exact applied
      · next built equal =>
          rw [equal] at applied
          dsimp only
          split
          · exact applied.of_quiet (.call (.validate built)) rfl rfl
          · exact applied.of_quiet (.call (.validate built)) rfl rfl

theorem parseSample (template : engine.Template) {path : Path} (inside : allowed path) :
    (parseSample files work template path).1.Stays allowed := by
  have read := stays.readFile files inside
  unfold Pass.parseSample
  split
  · next equal =>
      rw [equal] at read
      exact read
  · next middle sample equal =>
      rw [equal] at read
      have parsed : ((middle.call .newClause).call (.parse sample)).Stays allowed :=
        (read.of_quiet (.call .newClause) rfl rfl).of_quiet _ rfl rfl
      dsimp only
      split
      · exact parsed
      · exact parsed.of_quiet (.call .data) rfl rfl

theorem ask (stage : Stage) (inside : ∀ path ∈ filesOf files context stage, allowed path) :
    ((procedure files context stage).ask work).1.Stays allowed := by
  cases stage with
  | model => exact stays.of_eq rfl
  | logic => exact stays.of_eq rfl
  | template =>
      have built := stays.buildTemplate files context
      simp only [procedure, askTemplate]
      split
      · next equal =>
          rw [equal] at built
          exact built
      · next equal =>
          rw [equal] at built
          exact built.of_eq rfl
  | sample =>
      simp only [procedure, askSample]
      split
      · exact stays
      · next template _ =>
          have parsed := stays.parseSample files template (inside _ List.mem_cons_self)
          split
          · next equal =>
              rw [equal] at parsed
              exact parsed
          · next equal =>
              rw [equal] at parsed
              exact parsed

theorem loads {stage : Stage} {paths : List Path} (inside : ∀ path ∈ paths, allowed path)
    {loaded : Work engine}
    (loads : Loads (procedure files context stage).load context work paths loaded) :
    loaded.Stays allowed := by
  induction loads with
  | done work => exact stays
  | @next work marked loaded last path rest listed answered later induction =>
      have marks := stays.mark? context (inside path List.mem_cons_self) listed
      have loads := marks.load files context stage (inside path List.mem_cons_self)
      rw [answered] at loads
      exact induction loads fun other member => inside other (List.mem_cons_of_mem _ member)

end Work.Stays

/-! ## Both halves -/

theorem shows_fail (work : Work engine) (context : Context) (stage : Stage) (failure : Failure) :
    (work.fail context stage failure).report.Shows stage := by
  have added := Report.get?_add work.report (context.place failure) (context.place failure)
    (.error failure.range failure.message stage)
  rw [if_pos (Uri.same_refl _)] at added
  exact ⟨_, _, added, _, Ordered.mem_insert_iff.mpr (Or.inl rfl), rfl, rfl⟩

/-- A setback ends a stage with an error that is shown, or with a breakdown. -/
theorem endWith_cases (work : Work engine) (context : Context) (stage : Stage) (setback : Setback) :
    (work.endWith context stage setback).2 = .failed ∧
        (work.endWith context stage setback).1.report.Shows stage ∨
      (work.endWith context stage setback).2 = .broken := by
  cases setback with
  | failure failure => exact Or.inl ⟨rfl, shows_fail work context stage failure⟩
  | breakdown => exact Or.inr rfl

/-- A path inside the package of a context. -/
def Context.Contains (context : Context) (path : Path) : Prop :=
  path.isAbsolute = true ∧ path.isUnder context.root = true

section Halves

variable {files : FileSystem} {context : Context} (housed : context.Housed)
  (wellNamed : files.isWellNamed = true)

include housed

theorem Context.Housed.contains_root : context.Contains context.root :=
  ⟨housed.isAbsolute_root, Path.isUnder_refl _⟩

include wellNamed

theorem Context.Housed.contains {stage : Stage} {path : Path}
    (member : path ∈ filesOf files context stage) : context.Contains path := by
  have inside := housed.isUnder_of_mem_filesOf wellNamed member
  exact ⟨Path.isAbsolute_of_isUnder housed.isAbsolute_root inside, inside⟩

/-- Every file that a stage looks at can be listed. -/
theorem Context.Housed.named {stage : Stage} {path : Path}
    (member : path ∈ filesOf files context stage) :
    ∃ uri, context.subject.uriFor? path = some uri := by
  unfold Subject.uriFor?
  split
  · exact ⟨_, rfl⟩
  · exact Option.isSome_iff_exists.mp
      (Uri.isSome_ofPath? (housed.contains wellNamed member).1)

/-- The first half of a stage ends it with a shown error or a breakdown, or the second half has
what it needs. -/
theorem start_confined {work : Work engine} (stays : work.Stays context.Contains) {stage : Stage}
    (ready : Ready work stage) :
    (start files context work stage).1.Stays context.Contains ∧
      match (start files context work stage).2 with
      | .waiting => Ready (start files context work stage).1 stage
      | .over verdict =>
          verdict = .failed ∧ (start files context work stage).1.report.Shows stage ∨
            verdict = .broken := by
  have prepared := stays.prepare files context stage
  have inside : ∀ path ∈ filesOf files context stage, context.Contains path :=
    fun path => housed.contains wellNamed
  rw [start_eq_loadAll]
  rcases loadAll_cases (procedure files context stage).load (fun _ => housed.named wellNamed) stage
      ((procedure files context stage).prepare work) with
    ⟨loaded, loads, all⟩ |
    ⟨before, path, after, started, marked, loaded, setback, split, loads, listed, fails, ended⟩
  · rw [all]
    exact ⟨(prepared.loads files context inside loads).pose files context stage
      housed.contains_root, ready_of_loads ready loads⟩
  · rw [ended]
    have earlier : ∀ other ∈ before, context.Contains other := by
      intro other member
      exact inside other (split ▸ List.mem_append_left _ member)
    have here : context.Contains path :=
      inside path (split ▸ List.mem_append_right _ List.mem_cons_self)
    have marks := (prepared.loads files context earlier loads).mark? context here listed
    have tried := marks.load files context stage here
    rw [fails] at tried
    exact ⟨tried.endWith context stage setback, endWith_cases loaded context stage setback⟩

/-- The second half of a stage ends it with a shown error or a breakdown, or the stage has
passed. -/
theorem finish_confined {work : Work engine} (stays : work.Stays context.Contains) {stage : Stage}
    (ready : Ready work stage) :
    (finish files context work stage).1.Stays context.Contains ∧
      ((finish files context work stage).2 = .passed ∧
          (stage = .template → (finish files context work stage).1.template ≠ none) ∨
        (finish files context work stage).2 = .failed ∧
          (finish files context work stage).1.report.Shows stage ∨
        (finish files context work stage).2 = .broken) := by
  have asked := stays.ask files context stage fun path => housed.contains wellNamed
  rw [finish_eq_conclude files context ready]
  rcases answered : (procedure files context stage).ask work with ⟨result, setback | _⟩
  · rw [answered] at asked
    exact ⟨asked.endWith context stage setback,
      Or.inr (endWith_cases result context stage setback)⟩
  · rw [answered] at asked
    refine ⟨asked, Or.inl ⟨rfl, ?_⟩⟩
    rintro rfl
    simp only [procedure, askTemplate] at answered
    split at answered
    · cases answered
    · cases answered
      simp [conclude]

end Halves

end Pass

end TemplateCheck
