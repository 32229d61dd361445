import TemplateCheck.Engine.Scripted
import TemplateCheck.Proofs.Pass.Findings
import TemplateCheck.Proofs.Pool.Conduct

/-! # What passes report

A pass that runs to its end reports on the files that its stages came to, and on
the place of the failure that ended it. Outside of all packages it reports one
error, and touches neither an engine nor the cache. Both are true of passes on
their own, and of all that a pool delivers, in whatever order its tasks move.
-/

namespace TemplateCheck

namespace Pass

variable {engine : Engine}

/-- What is found outside of all packages: one error on the document. -/
def outsideFinding (checker : Checker) (document : Document) (path : Path) : Completed where
  root := none
  stages := []
  report := ⟨[(document.uri,
    [.error .documentStart (Package.rootNotFoundMessage checker.layout path) .template])]⟩

/-- What a pass over a document reports. Inside a package it follows the course of
its stages. -/
inductive Reports (files : FileSystem) (checker : Checker) (document : Document) (path : Path)
    (registries : Registries engine) : Completed → Prop
  | outside (rootless : Package.findRoot? files checker.layout path = none) :
      Reports files checker document path registries (outsideFinding checker document path)
  | inside {root : Path} {looked : List (Stage × List Path)} {failed : Option (Stage × Failure)}
      {last : Work engine} {completed : Completed}
      (found : Package.findRoot? files checker.layout path = some root)
      (journey : Journey files ⟨checker, document, path, root⟩
        (stagesFor (checker.layout.classify path)) registries.fresh looked
        (failed.map fun (stage, failure) => (stage, .failure failure)) last)
      (finds : Finds ⟨checker, document, path, root⟩ looked failed completed) :
      Reports files checker document path registries completed

theorem validate_outside {files : FileSystem} {checker : Checker} {document : Document}
    {path : Path} (isFile : document.uri.toPath? = some path)
    (rootless : Package.findRoot? files checker.layout path = none)
    (registries : Registries engine) :
    validate files checker document registries =
      ⟨.completed (outsideFinding checker document path), registries, []⟩ := by
  simp only [validate, arrive, isFile, rootless]
  rfl

theorem reports_validate {files : FileSystem} {checker : Checker} {document : Document}
    {path : Path} (isFile : document.uri.toPath? = some path) {registries : Registries engine}
    {completed : Completed}
    (ended : (validate files checker document registries).outcome = .completed completed) :
    Reports files checker document path registries completed := by
  cases found : Package.findRoot? files checker.layout path with
  | none =>
      rw [validate_outside isFile found] at ended
      cases ended
      exact .outside found
  | some root =>
      let context : Context := ⟨checker, document, path, root⟩
      have arrived : arrive files checker document = .ok context := by
        simp only [arrive, isFile, found, context]
      simp only [validate, arrived] at ended
      have sited : context.Sited files := ⟨isFile, found⟩
      rcases journey_stagesFor sited registries List.prefix_rfl with
        ⟨looked, setback, last, journey, ran⟩
      rcases journey.finds ran ended with ⟨failed, equal, finds⟩
      rw [equal] at journey
      exact .inside found journey finds

end Pass

namespace Pool

open Roots (Ticket Handle Store)

variable {engine : Engine}

/-- The reports of passes on their own and of those in a pool. -/
structure Reporting (files : FileSystem) (moves : List Move) (pool : Pool engine) : Prop where
  alone : ∀ (checker : Checker) (document : Document) (path : Path)
      (registries : Pass.Registries engine) (completed : Completed),
    document.uri.toPath? = some path →
    (Pass.validate files checker document registries).outcome = .completed completed →
    Pass.Reports files checker document path registries completed
  outside : ∀ (checker : Checker) (document : Document) (path : Path)
      (registries : Pass.Registries engine),
    document.uri.toPath? = some path → Package.findRoot? files checker.layout path = none →
    Pass.validate files checker document registries =
      ⟨.completed (Pass.outsideFinding checker document path), registries, []⟩
  delivered : ∀ delivery ∈ pool.deliveries, ∀ path completed,
    delivery.document.uri.toPath? = some path → delivery.outcome = .completed completed →
    ∃ (checker : Checker) (registries : Pass.Registries engine),
      Asked moves (.validate checker delivery.document) ∧
        Pass.Reports files checker delivery.document path registries completed
  /-- Outside of all packages a task returns, having done nothing but read manifests. -/
  untouched : ∀ (task : Nat) (jobs : List Job) (checker : Checker) (document : Document)
      (path : Path),
    pool.tasks[task]? = some ⟨jobs, .arriving checker document⟩ →
    document.uri.toPath? = some path → Package.findRoot? files checker.layout path = none →
    (pool.step task).store = pool.store ∧ (pool.step task).log = pool.log ∧
      (pool.step task).tasks[task]? = some
        ⟨jobs, .returned document (.completed (Pass.outsideFinding checker document path))⟩
  delivers : ∀ (task : Nat) (jobs : List Job) (document : Document) (outcome : Outcome),
    pool.tasks[task]? = some ⟨jobs, .returned document outcome⟩ →
    (pool.step task).store = pool.store ∧ (pool.step task).log = pool.log ∧
      (pool.step task).deliveries = pool.deliveries ++ [⟨task, document, outcome⟩]

/-- For every engine and every run in which no file changes. -/
theorem reporting_run (engine : Engine) (files : FileSystem) (capacity : Nat) (moves : List Move)
    (still : ∀ changed, .change changed ∉ moves) :
    Reporting files moves ((Pool.empty engine files capacity).run moves) := by
  rcases conduct_run engine files capacity still with ⟨sameFiles, conduct⟩
  generalize (Pool.empty engine files capacity).run moves = pool at sameFiles conduct
  generalize (Pool.empty engine files capacity).deeds moves = deeds at conduct
  subst sameFiles
  refine ⟨?alone, ?outside, ?delivered, ?untouched, ?delivers⟩
  case alone =>
    intro checker document path registries completed isFile ended
    exact Pass.reports_validate isFile ended
  case outside =>
    intro checker document path registries isFile rootless
    exact Pass.validate_outside isFile rootless registries
  case delivered =>
    intro delivery member path completed isFile ended
    rcases conduct.delivered delivery member with ⟨checker, asked, overtaken | ⟨registries, due⟩⟩
    · rw [ended] at overtaken
      cases overtaken
    · rw [ended] at due
      exact ⟨checker, registries, asked, Pass.reports_validate isFile due⟩
  case untouched =>
    intro task jobs checker document path found isFile rootless
    have arrived : Pass.arrive pool.files checker document =
        .error (.completed (Pass.outsideFinding checker document path)) := by
      simp only [Pass.arrive, isFile, rootless]
      rfl
    have stepped : pool.step task =
        (pool.noteApproach task (Pass.manifestsRead pool.files checker document)).place task
          ⟨jobs, .returned document (.completed (Pass.outsideFinding checker document path))⟩ := by
      simp only [step, found, arrived]
      exact setActivity_eq_place found (noteApproach_tasks pool task _) _
    rw [stepped]
    exact ⟨rfl, rfl, tasks_place_self found (noteApproach_tasks pool task _) _⟩
  case delivers =>
    intro task jobs document outcome found
    simp only [step, found, deliver]
    split
    · exact ⟨rfl, rfl, rfl⟩
    · exact ⟨rfl, rfl, rfl⟩

/-! A logic file is edited twice while its first pass is under way, in a package
with a unit that the engine rejects, and a file outside of the package is opened. -/

namespace LateEdit

def package : FileSystem where
  entries := [("p", .directory [
    ("lib", .directory [
      ("a.ergo", .file []),
      ("b.ergo", .file (Text.Utf8.encodeChars "@update_unit \x7b\"message\":\"bad\"\x7d".toList))]),
    ("models", .directory [("m.cto", .file (Text.Utf8.encodeChars "namespace m".toList))]),
    ("package.json", .file (Text.Utf8.encodeChars "\x7b\"accordproject\":true\x7d".toList))])]
  workingDirectory := []

def uri (path : String) : Uri where
  scheme := "file"
  authority := some ⟨"", "", none⟩
  path := path
  query := none
  fragment := none

def checker : Checker := (Checker.ofLayout {}).toOption.getD default

def moves : List Move :=
  [.spawn [.validate checker ⟨uri "/p/lib/a.ergo", "old"⟩],
    .spawn [.validate checker ⟨uri "/p/lib/a.ergo", "new"⟩],
    .spawn [.validate checker ⟨uri "/q.ergo", ""⟩]] ++
    (List.replicate 8 0 ++ List.replicate 5 1 ++ List.replicate 3 0 ++ List.replicate 12 1 ++
      List.replicate 3 2).map .step

theorem still_moves : ∀ changed, .change changed ∉ moves := by
  simp [moves]

/-- The second pass fails in its second stage, and the third finds no package. -/
theorem reporting_lateEdit :
    (∀ changed, .change changed ∉ moves) ∧
      Reporting package moves ((Pool.empty Scripted.engine package 1).run moves) ∧
      ((Pool.empty Scripted.engine package 1).run moves).deliveries.map Delivery.outcome =
        [.superseded,
          .completed ⟨some ⟨"/p"⟩, [⟨.model, true⟩, ⟨.logic, false⟩],
            ⟨[(uri "/p/lib/a.ergo", [.error .documentStart "bad" .logic]),
              (uri "/p/lib/b.ergo", []), (uri "/p/models/m.cto", [])]⟩⟩,
          .completed (Pass.outsideFinding checker ⟨uri "/q.ergo", ""⟩ ⟨"/q.ergo"⟩)] :=
  ⟨still_moves, reporting_run Scripted.engine package 1 moves still_moves, by decide +kernel⟩

end LateEdit

end Pool

end TemplateCheck
