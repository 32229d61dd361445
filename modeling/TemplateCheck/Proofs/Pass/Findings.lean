import TemplateCheck.Proofs.Pass.Course

/-! # What a pass finds

The report of a pass that ran to its end has an entry for every file that its
stages came to, and one for the place of the failure that ended it, if one did.
Every entry is empty but the last one, which is the one error of the failure.
-/

namespace TemplateCheck

namespace Ordered

theorem mem_of_find? {key value : Type} {order : key → key → Ordering} {name : key}
    {content : value} {entries : List (key × value)}
    (found : find? order name entries = some content) : ∃ own, (own, content) ∈ entries := by
  induction entries with
  | nil => cases found
  | cons head tail induction =>
      rcases head with ⟨headName, headContent⟩
      unfold find? at found
      split at found
      · cases found
        exact ⟨headName, List.mem_cons_self⟩
      · rcases induction found with ⟨own, member⟩
        exact ⟨own, List.mem_cons_of_mem _ member⟩

end Ordered

namespace Report

theorem get?_add (report : Report) (uri other : Uri) (diagnostic : Diagnostic) :
    (report.add uri diagnostic).get? other =
      if other.same uri = true then
        some (Ordered.insert Diagnostic.compare diagnostic ((report.get? uri).getD []))
      else report.get? other :=
  Uri.find?_put uri other _ report.files

theorem Clears.get? {report : Report} {uris : List Uri} (clears : report.Clears uris) {uri : Uri}
    {diagnostics : List Diagnostic} (found : report.get? uri = some diagnostics) :
    diagnostics = [] := by
  rcases Ordered.mem_of_find? found with ⟨own, member⟩
  exact clears.clean _ member

end Report

namespace Pass

variable {engine : Engine} (files : FileSystem) (context : Context)

/-! ## Entries of a course -/

theorem load_report (stage : Stage) (work : Work engine) (path : Path) :
    ((procedure files context stage).load work path).1.report = work.report := by
  cases stage with
  | model => exact loadModel_report files context work path
  | logic => exact loadUnit_report files context work path
  | template => rfl
  | sample => rfl

theorem prepare_report (stage : Stage) (work : Work engine) :
    ((procedure files context stage).prepare work).report = work.report := by
  cases stage with
  | model => rfl
  | logic => exact removeUnits_report _ _
  | template => rfl
  | sample => rfl

theorem pose_report (work : Work engine) (question : Option (Call engine.Template)) :
    (work.pose question).report = work.report := by
  cases question with
  | none => rfl
  | some call => rfl

theorem ask_report (stage : Stage) (work : Work engine) :
    ((procedure files context stage).ask work).1.report = work.report := by
  cases stage with
  | model => rfl
  | logic => rfl
  | template =>
      have built := buildTemplate_report files context work
      simp only [procedure, askTemplate]
      split
      · next equal =>
          rw [equal] at built
          exact built
      · next equal =>
          rw [equal] at built
          exact built
  | sample =>
      simp only [procedure, askSample]
      split
      · rfl
      · next template _ =>
          have parsed := parseSample_report files work template
            (context.layout.sampleFile context.root)
          split
          · next equal =>
              rw [equal] at parsed
              exact parsed
          · next equal =>
              rw [equal] at parsed
              exact parsed

variable {files context}

theorem urisOf_append (context : Context) (paths more : List Path) :
    urisOf context (paths ++ more) = urisOf context paths ++ urisOf context more :=
  List.filterMap_append

theorem Loads.clears {load : Work engine → Path → Work engine × Answer}
    (keeps : ∀ work path, (load work path).1.report = work.report) {paths : List Path}
    {work last : Work engine} {uris : List Uri} (loads : Loads load context work paths last)
    (clears : work.report.Clears uris) : last.report.Clears (uris ++ urisOf context paths) := by
  induction loads generalizing uris with
  | done work => simpa [urisOf] using clears
  | @next work marked loaded last path rest listed answered later induction =>
      have kept := keeps marked path
      rw [answered] at kept
      have one := mark?_clears context clears listed
      rw [← kept] at one
      have all := induction one
      rw [List.append_assoc, ← urisOf_append] at all
      exact all

theorem Course.clears {stage : Stage} {work result : Work engine} {tried : List Path}
    {answer : Answer} {uris : List Uri}
    (course : Course files context stage work tried answer result)
    (clears : work.report.Clears uris) : result.report.Clears (uris ++ urisOf context tried) := by
  rw [← prepare_report files context stage work] at clears
  cases course with
  | @stopped before after path started marked loaded setback enumerated loads listed fails =>
      have kept := load_report files context stage marked path
      rw [fails] at kept
      have all := mark?_clears context (loads.clears (load_report files context stage) clears) listed
      rw [kept, urisOf_append, ← List.append_assoc]
      exact all
  | @answered loaded result answer loads answers =>
      have kept := ask_report files context stage
        (loaded.pose (procedure files context stage).question)
      rw [answers, pose_report] at kept
      rw [kept]
      exact loads.clears (load_report files context stage) clears

/-- The URIs of the files that the stages of a pass came to. -/
def listedBy (context : Context) (looked : List (Stage × List Path)) : List Uri :=
  looked.flatMap fun entry => urisOf context entry.2

theorem Journey.clears {stages : List Stage} {work last : Work engine}
    {looked : List (Stage × List Path)} {ended : Option (Stage × Setback)} {uris : List Uri}
    (journey : Journey files context stages work looked ended last)
    (clears : work.report.Clears uris) : last.report.Clears (uris ++ listedBy context looked) := by
  induction journey generalizing uris with
  | done work => simpa [listedBy] using clears
  | passed course ran later induction =>
      have all := induction (course.clears clears)
      rw [List.append_assoc] at all
      simpa only [listedBy, List.flatMap_cons] using all
  | ended course =>
      have all := course.clears clears
      simpa [listedBy] using all

/-! ## The findings of a pass -/

/-- The URI at which a pass shows a failure. -/
def Context.place (context : Context) (failure : Failure) : Uri :=
  failure.place context.layout.logicExtension context.subject

/-- The diagnostics at a URI after a pass that ended with a failure of a stage, or
with none. -/
def Context.shownAt (context : Context) (uri : Uri) : Option (Stage × Failure) → List Diagnostic
  | none => []
  | some (stage, failure) =>
      if uri.same (context.place failure) then [.error failure.range failure.message stage] else []

/-- What a pass inside a package found: the files that its stages came to are
listed, and the failure that ended it, if one did, is shown at its place. -/
structure Finds (context : Context) (looked : List (Stage × List Path))
    (failed : Option (Stage × Failure)) (completed : Completed) : Prop where
  root : completed.root = some context.root
  stages : completed.stages.map StageResult.stage = looked.map Prod.fst
  keys : ∀ uri, (completed.report.get? uri).isSome = true ↔
    (∃ entry ∈ looked, ∃ path ∈ entry.2, ∃ own,
      context.subject.uriFor? path = some own ∧ uri.same own = true) ∨
    ∃ stage failure, failed = some (stage, failure) ∧ uri.same (context.place failure) = true
  shown : ∀ uri diagnostics, completed.report.get? uri = some diagnostics →
    diagnostics = context.shownAt uri failed
  passed : failed = none ↔ ∀ result ∈ completed.stages, result.passed = true
  last : ∀ stage failure, failed = some (stage, failure) →
    completed.stages.getLast? = some ⟨stage, false⟩

theorem any_listedBy {context : Context} {looked : List (Stage × List Path)} {uri : Uri} :
    (listedBy context looked).any uri.same = true ↔
      ∃ entry ∈ looked, ∃ path ∈ entry.2, ∃ own,
        context.subject.uriFor? path = some own ∧ uri.same own = true := by
  simp only [listedBy, urisOf, List.any_eq_true, List.mem_flatMap, List.mem_filterMap]
  constructor
  · rintro ⟨own, ⟨entry, inside, path, tried, named⟩, same⟩
    exact ⟨entry, inside, path, tried, own, named, same⟩
  · rintro ⟨entry, inside, path, tried, own, named, same⟩
    exact ⟨own, ⟨entry, inside, path, tried, named⟩, same⟩

theorem Journey.finds_all {stages : List Stage} {registries : Registries engine}
    {last : Work engine} {looked : List (Stage × List Path)}
    (journey : Journey files context stages registries.fresh looked none last) :
    Finds context looked none
      ⟨some context.root, looked.map fun entry => ⟨entry.1, true⟩, last.report⟩ := by
  have clears := journey.clears Report.clears_empty
  rw [List.nil_append] at clears
  constructor
  case root => rfl
  case stages => simp
  case keys =>
    intro uri
    dsimp only
    rw [clears.listed uri, any_listedBy]
    simp
  case shown =>
    intro uri diagnostics found
    exact clears.get? found
  case passed =>
    simp only [true_iff]
    intro result member
    rcases List.mem_map.mp member with ⟨entry, _, equal⟩
    rw [← equal]
  case last => simp

theorem Journey.finds_failure {stages : List Stage} {registries : Registries engine}
    {last : Work engine} {looked : List (Stage × List Path)} {stage : Stage} {failure : Failure}
    (journey : Journey files context stages registries.fresh looked
      (some (stage, .failure failure)) last) :
    Finds context looked (some (stage, failure))
      ⟨some context.root, (looked.map fun entry => (⟨entry.1, true⟩ : StageResult)).dropLast ++
        [⟨stage, false⟩], (last.fail context stage failure).report⟩ := by
  have clears := journey.clears Report.clears_empty
  rw [List.nil_append] at clears
  rcases journey.looked_of_setback with ⟨before, tried, split⟩
  have known : (last.report.get? (context.place failure)).getD [] = [] := by
    cases found : last.report.get? (context.place failure) with
    | none => rfl
    | some diagnostics => exact clears.get? found
  have entries : ∀ uri, (last.fail context stage failure).report.get? uri =
      if uri.same (context.place failure) = true then
        some [.error failure.range failure.message stage]
      else last.report.get? uri := by
    intro uri
    have added := Report.get?_add last.report (context.place failure) uri
      (.error failure.range failure.message stage)
    rw [known] at added
    exact added
  constructor
  case root => rfl
  case stages => simp [split]
  case keys =>
    intro uri
    dsimp only
    rw [entries, ← any_listedBy, ← clears.listed uri]
    by_cases same : uri.same (context.place failure) = true
    · simp only [same, if_true, Option.isSome_some, true_iff]
      exact Or.inr ⟨stage, failure, rfl, same⟩
    · simp only [same, Bool.false_eq_true, if_false]
      constructor
      · exact Or.inl
      · rintro (listed | ⟨_, _, equal, elsewhere⟩)
        · exact listed
        · cases equal
          exact absurd elsewhere same
  case shown =>
    intro uri diagnostics found
    dsimp only at found
    rw [entries] at found
    by_cases same : uri.same (context.place failure) = true
    · simp only [same, if_true, Option.some.injEq] at found
      simp [Context.shownAt, same, found]
    · simp only [same, Bool.false_eq_true, if_false] at found
      simp [Context.shownAt, same, clears.get? found]
  case passed => simp
  case last => simp

/-- The outcome of a pass inside a package, from its course. -/
theorem Journey.finds {registries : Registries engine} {last : Work engine}
    {looked : List (Stage × List Path)} {ended : Option (Stage × Setback)}
    (journey : Journey files context (stagesFor context.kind) registries.fresh looked ended last)
    (ran : runStages files context (stagesFor context.kind) registries.fresh =
      settle context looked last ended) {completed : Completed}
    (finished : (run files context registries).outcome = .completed completed) :
    ∃ failed : Option (Stage × Failure),
      ended = failed.map (fun (stage, failure) => (stage, .failure failure)) ∧
        Finds context looked failed completed := by
  rw [Registries.fresh] at ran
  simp only [run, ran] at finished
  rcases ended with _ | ⟨stage, failure | _⟩
  · cases finished
    exact ⟨none, rfl, journey.finds_all⟩
  · cases finished
    exact ⟨some (stage, failure), rfl, journey.finds_failure⟩
  · cases finished

end Pass

end TemplateCheck
