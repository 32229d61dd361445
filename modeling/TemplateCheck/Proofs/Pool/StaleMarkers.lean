import TemplateCheck.Proofs.Pass.Review
import TemplateCheck.Proofs.Pass.Steady
import TemplateCheck.Proofs.Pool.Visits

/-! # Markers that outlive their cause

An editor shows for every file what was published for it last. A pass whose
stages have all passed clears the files that it has looked at, and leaves the
markers of all others. The document itself need not be among the files it has
looked at: an error that was shown on it for want of a better place, or because
there was no package around it, then stays.
-/

namespace TemplateCheck

/-- The diagnostics that an editor shows for a file: those published for it last. -/
def markers (batches : List Batch) (uri : Uri) : List Diagnostic :=
  ((batches.reverse.find? fun batch => uri.same batch.uri).map Batch.diagnostics).getD []

theorem any_batches {report : Report} {uris : List Uri} (clears : report.Clears uris) (uri : Uri) :
    (report.batches.any fun batch => uri.same batch.uri) = uris.any uri.same := by
  have listed := clears.listed uri
  rw [Report.get?, Ordered.isSome_find?] at listed
  rw [← listed, Report.batches, List.any_map]
  congr 1
  funext entry
  rw [Bool.eq_iff_iff, beq_iff_eq, Uri.compare_eq_iff]
  rfl

/-- What a report without diagnostics does to the markers. -/
theorem markers_append {report : Report} {uris : List Uri} (clears : report.Clears uris)
    (batches : List Batch) (uri : Uri) :
    markers (batches ++ report.batches) uri =
      if uris.any uri.same = true then [] else markers batches uri := by
  have listed := any_batches clears uri
  simp only [markers, List.reverse_append, List.find?_append]
  cases found : report.batches.reverse.find? fun batch => uri.same batch.uri with
  | none =>
      have absent : uris.any uri.same = false := by
        rw [← listed, List.any_eq_false]
        intro batch member
        exact List.find?_eq_none.mp found batch (List.mem_reverse.mpr member)
      simp [absent]
  | some batch =>
      have member := List.mem_reverse.mp (List.mem_of_find?_eq_some found)
      have same := List.find?_some found
      have present : uris.any uri.same = true := by
        rw [← listed]
        exact List.any_eq_true.mpr ⟨batch, member, same⟩
      rcases List.mem_map.mp member with ⟨entry, inFiles, equal⟩
      have clean := clears.clean entry inFiles
      simp [present, ← equal, clean]

theorem Pass.validate_of_root {engine : Engine} {files : FileSystem} {checker : Checker}
    {document : Document} {path root : Path} (isFile : document.uri.toPath? = some path)
    (found : Package.findRoot? files checker.layout path = some root)
    (registries : Registries engine) :
    validate files checker document registries =
      run files ⟨checker, document, path, root⟩ registries := by
  simp [validate, arrive, isFile, found]

namespace Pool

variable {engine : Engine}

/-- All that was published. -/
def published (pool : Pool engine) : List Batch :=
  pool.deliveries.flatMap fun delivery => delivery.outcome.batches

/-- What a visit publishes when all its stages pass. -/
theorem published_visit {before : Pool engine} (idle : before.Idle) {visit : Visit}
    {path root : Path} {result : Completed} (isFile : visit.document.uri.toPath? = some path)
    (found : Package.findRoot? visit.files visit.checker.layout path = some root)
    (ended : (before.visit visit).deliveries.getLast?.map Delivery.outcome =
      some (.completed result))
    (passed : ∀ stage ∈ stagesFor (visit.checker.layout.classify path),
      result.passed stage = true) :
    (before.visit visit).published = before.published ++ result.report.batches ∧
      result.report.Clears
        (Pass.reviewed visit.files ⟨visit.checker, visit.document, path, root⟩) := by
  have delivered := (idle.visited visit).2.1
  have outcome : (visit.finished before).outcome = .completed result := by
    rw [delivered, List.getLast?_concat] at ended
    exact Option.some.inj ended
  constructor
  · simp [published, delivered, outcome, Outcome.batches]
  · rw [Visit.finished, Pass.validate_of_root isFile found] at outcome
    exact Pass.run_clears _ _ outcome passed

/-- After a pass whose stages have all passed its document has no markers if the
pass has looked at it, or if it had none before. -/
theorem unmarked_visitAll (engine : Engine) (files : FileSystem) (capacity : Nat)
    (earlier : List Visit) (last : Visit) {path root : Path} {result : Completed}
    (isFile : last.document.uri.toPath? = some path)
    (found : Package.findRoot? last.files last.checker.layout path = some root)
    (ended : ((Pool.empty engine files capacity).visitAll
      (earlier ++ [last])).deliveries.getLast?.map Delivery.outcome = some (.completed result))
    (passed : ∀ stage ∈ stagesFor (last.checker.layout.classify path), result.passed stage = true) :
    markers ((Pool.empty engine files capacity).visitAll (earlier ++ [last])).published
        last.document.uri = [] ↔
      (∃ uri ∈ Pass.reviewed last.files ⟨last.checker, last.document, path, root⟩,
        last.document.uri.same uri = true) ∨
      markers ((Pool.empty engine files capacity).visitAll earlier).published
        last.document.uri = [] := by
  have idle := (idle_empty engine files capacity).visitAll earlier
  rw [visitAll_snoc] at ended ⊢
  rcases published_visit idle isFile found ended passed with ⟨published, clears⟩
  rw [published, markers_append clears, ← List.any_eq_true]
  split
  · next listed => simp [listed]
  · next unlisted => simp [unlisted]

/-! A folder that becomes a package after its files were checked once. The marker
of a logic file is cleared, that of a file of no kind stays. -/

namespace LateManifest

def folder (more : List (String × Entry)) : FileSystem where
  entries := [("p", .directory
    ([("README.md", .file []), ("lib", .directory [("a.ergo", .file [])])] ++ more))]
  workingDirectory := []

def bare : FileSystem := folder []

def package : FileSystem :=
  folder [("package.json",
    .file (Text.Utf8.encodeChars "\x7b\"accordproject\":true\x7d".toList))]

def document (path : String) : Document where
  uri := {
    scheme := "file"
    authority := some ⟨"", "", none⟩
    path := path
    query := none
    fragment := none }
  text := ""

def checker : Checker := (Checker.ofLayout {}).toOption.getD default

/-- The same document before and after. -/
def twice (document : Document) : List Visit :=
  [⟨bare, checker, document⟩] ++ [⟨package, checker, document⟩]

def logicFile : Document := document "/p/lib/a.ergo"

def readme : Document := document "/p/README.md"

theorem unmarked_logicFile :
    markers ((Pool.empty .lenient bare 1).visitAll [⟨bare, checker, logicFile⟩]).published
        logicFile.uri ≠ [] ∧
      markers ((Pool.empty .lenient bare 1).visitAll (twice logicFile)).published
        logicFile.uri = [] := by
  have isFile : logicFile.uri.toPath? = some ⟨"/p/lib/a.ergo"⟩ := by decide +kernel
  have found : Package.findRoot? package checker.layout ⟨"/p/lib/a.ergo"⟩ = some ⟨"/p"⟩ := by
    decide +kernel
  have ended : ((Pool.empty .lenient bare 1).visitAll (twice logicFile)).deliveries.getLast?.map
      Delivery.outcome = some (.completed
        ⟨some ⟨"/p"⟩, [⟨.model, true⟩, ⟨.logic, true⟩], ⟨[(logicFile.uri, [])]⟩⟩) := by
    decide +kernel
  have passed : ∀ stage ∈ stagesFor (checker.layout.classify ⟨"/p/lib/a.ergo"⟩),
      Completed.passed ⟨some ⟨"/p"⟩, [⟨.model, true⟩, ⟨.logic, true⟩],
        ⟨[(logicFile.uri, [])]⟩⟩ stage = true := by
    decide +kernel
  refine ⟨by decide +kernel, ?_⟩
  apply (unmarked_visitAll .lenient bare 1 [⟨bare, checker, logicFile⟩]
    ⟨package, checker, logicFile⟩ isFile found ended passed).mpr
  exact Or.inl ⟨logicFile.uri, by decide +kernel, Uri.same_refl _⟩

/-- The pass finds a package, all its stages pass, and the marker is still there. -/
theorem marker_survives_pass :
    Package.findRoot? package checker.layout ⟨"/p/README.md"⟩ = some ⟨"/p"⟩ ∧
      stagesFor (checker.layout.classify ⟨"/p/README.md"⟩) = [.model] ∧
      ((Pool.empty .lenient bare 1).visitAll (twice readme)).deliveries.getLast?.map
        Delivery.outcome = some (.completed ⟨some ⟨"/p"⟩, [⟨.model, true⟩], {}⟩) ∧
      markers ((Pool.empty .lenient bare 1).visitAll (twice readme)).published readme.uri ≠ [] := by
  decide +kernel

end LateManifest

end Pool

end TemplateCheck
