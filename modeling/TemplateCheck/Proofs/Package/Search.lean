import TemplateCheck.Package.Root

/-! # The search for a root

A search goes through directories until it comes to one whose manifest is marked. It finds what
`List.find?` finds, and reads the manifests up to the one that is marked.
-/

namespace TemplateCheck.Package

variable {files : FileSystem} {layout : Layout}

theorem search_found (candidates : List Path) :
    (search files layout candidates).2 = candidates.find? (isRoot files layout) := by
  induction candidates with
  | nil => rfl
  | cons folder higher induction =>
      unfold search
      cases marked : isRoot files layout folder with
      | true => simp [marked]
      | false => simpa [marked] using induction

theorem findRoot?_eq (files : FileSystem) (layout : Layout) (path : Path) :
    findRoot? files layout path = (rootCandidates path).find? (isRoot files layout) :=
  search_found (rootCandidates path)

theorem mem_rootCandidates_of_findRoot? {path root : Path}
    (found : findRoot? files layout path = some root) : root ∈ rootCandidates path :=
  List.mem_of_find?_eq_some ((findRoot?_eq files layout path).symm.trans found)

theorem isRoot_of_findRoot? {path root : Path}
    (found : findRoot? files layout path = some root) : isRoot files layout root = true :=
  List.find?_some ((findRoot?_eq files layout path).symm.trans found)

/-- Directories without a marked manifest are passed, but their manifests are read. -/
theorem search_append {passed : List Path}
    (unmarked : ∀ folder ∈ passed, isRoot files layout folder = false) (rest : List Path) :
    (search files layout (passed ++ rest)).1 =
      passed.map layout.manifestIn ++ (search files layout rest).1 := by
  induction passed with
  | nil => rfl
  | cons folder others induction =>
      rcases List.forall_mem_cons.mp unmarked with ⟨here, later⟩
      rw [List.cons_append, search]
      simp [here, induction later]

/-- A search that finds a root has read the manifests of the directories up to it. -/
theorem manifestsRead_of_findRoot? {path root : Path}
    (found : findRoot? files layout path = some root) :
    ∃ passed higher, rootCandidates path = passed ++ root :: higher ∧
      manifestsRead files layout path = (passed ++ [root]).map layout.manifestIn := by
  rw [findRoot?_eq, List.find?_eq_some_iff_append] at found
  rcases found with ⟨marked, passed, higher, split, unmarked⟩
  have atRoot : (search files layout (root :: higher)).1 = [layout.manifestIn root] := by
    simp [search, marked]
  refine ⟨passed, higher, split, ?_⟩
  rw [manifestsRead, split, search_append (by simpa using unmarked), atRoot, List.map_append]
  rfl

end TemplateCheck.Package
