import TemplateCheck.Proofs.Increasing
import TemplateCheck.Proofs.Path.Inside
import TemplateCheck.Proofs.Roots.Bookkeeping

/-! # The order of paths

Paths are ordered by their components, and two spellings of one path are taken for equal.
Source files are found in this order, so a file that several folders lead to is found once. A
document is among them if it is a plain file in its own folder and has the name of a source.
-/

namespace TemplateCheck

namespace Path

/-! ## Comparison -/

namespace Component

/-- What the rank of a component does not tell. -/
def text : Component → String
  | .name text => text
  | _ => ""

theorem compare_eq (left right : Component) :
    compare left right =
      (Ord.compare left.rank right.rank).then (Ord.compare left.text right.text) := by
  cases left <;> cases right <;> rfl

instance : Std.TransCmp compare := by
  have lexicographic : compare = compareLex (compareOn rank) (compareOn text) := by
    funext left right
    exact compare_eq left right
  rw [lexicographic]
  infer_instance

instance : Std.LawfulEqCmp compare where
  compare_self := fun {component} => Std.ReflCmp.compare_self
  eq_of_compare := by
    intro left right equal
    rw [compare_eq, Ordering.then_eq_eq, Std.LawfulEqOrd.compare_eq_iff_eq,
      Std.LawfulEqOrd.compare_eq_iff_eq] at equal
    cases left <;> cases right <;> simp_all [rank, text]

end Component

theorem compareLists_eq {item : Type} (order : item → item → Ordering) :
    Ordered.compareLists order = List.compareLex order := by
  funext left right
  induction left generalizing right with
  | nil => cases right <;> rfl
  | cons first rest induction =>
      cases right with
      | nil => rfl
      | cons second others =>
          rw [Ordered.compareLists, List.compareLex_cons_cons, induction]

theorem compare_eq_compareLex (left right : Path) :
    left.compare right =
      List.compareLex Component.compare left.components right.components := by
  rw [compare, compareLists_eq]

instance : Std.TransCmp compare where
  eq_swap := by
    intro left right
    simp only [compare_eq_compareLex]
    exact Std.OrientedCmp.eq_swap
  isLE_trans := by
    intro left middle right
    simp only [compare_eq_compareLex]
    exact Std.TransCmp.isLE_trans

theorem compare_eq_iff {left right : Path} :
    left.compare right = .eq ↔ left.same right = true := by
  rw [compare_eq_compareLex, Std.LawfulEqCmp.compare_eq_iff_eq, same_iff]

/-! ## A path and the folder it is in -/

/-- The nearest directory above lacks the last segment that says something. -/
theorem nearest_enclosing {reversed folder : List String}
    (nearest : (enclosing reversed).head? = some folder) :
    ∃ last before, (last :: before) <:+ reversed ∧ folder = dropNoise before ∧
      meaning reversed.reverse = meaning (last :: before).reverse ∧
      isNoise last before = false ∧ (before = [] → last ≠ "") := by
  induction reversed with
  | nil => cases nearest
  | cons last before induction =>
      unfold enclosing at nearest
      split at nearest
      · next noise =>
          rcases induction nearest with ⟨own, above, suffix, isFolder, same, plain, some⟩
          refine ⟨own, above, suffix.trans (List.suffix_cons last before), isFolder, ?_, plain,
            some⟩
          rw [← same, ← meaning_dropNoise, dropNoise, if_pos noise, meaning_dropNoise]
      · next plain =>
          split at nearest
          · cases nearest
          · next some =>
              refine ⟨last, before, List.suffix_rfl, (Option.some.inj nearest).symm, rfl,
                by simpa using plain, ?_⟩
              rintro rfl empty
              exact some (by simp [empty])

theorem componentOf?_cases {segment : String} (notEmpty : segment ≠ "") (notDot : segment ≠ ".") :
    componentOf? segment = some .parent ∨ componentOf? segment = some (.name segment) := by
  by_cases up : segment = ".."
  · simp [componentOf?, up]
  · simp [componentOf?, notEmpty, notDot, up]

/-- A path is its folder with one more component behind it. -/
theorem components_above {path folder : Path} (absolute : path.isAbsolute = true)
    (above : path.parent? = some folder) :
    ∃ last ∈ path.segments, ∃ component, componentOf? last = some component ∧
      path.components = folder.components ++ [component] := by
  rcases Option.map_eq_some_iff.mp ((List.head?_map ..).symm.trans above) with
    ⟨reversed, nearest, rfl⟩
  rcases nearest_enclosing nearest with ⟨last, before, suffix, rfl, same, plain, some⟩
  have free : ∀ segment ∈ dropNoise before, '/' ∉ segment.toList := by
    intro segment inside
    have inPath := suffix.subset (List.mem_cons_of_mem _ ((dropNoise_suffix before).subset inside))
    exact not_mem_segments (List.mem_reverse.mp inPath)
  have more : before ≠ [] := by
    rintro rfl
    -- The first segment of an absolute path is empty.
    rcases segments_of_isAbsolute absolute with ⟨rest, segments⟩
    rcases suffix with ⟨front, whole⟩
    rw [segments, List.reverse_cons] at whole
    exact some rfl (by simpa using (List.append_inj' whole rfl).2)
  have parts : path.components = meaning before.reverse ++ [last].filterMap componentOf? := by
    rw [components_eq, ← List.reverse_reverse path.segments, same, List.reverse_cons,
      meaning_append (by simpa using more)]
  have plainLast : last ≠ "" ∧ last ≠ "." := by simpa [isNoise, more] using plain
  refine ⟨last, List.mem_reverse.mp (suffix.subset List.mem_cons_self), ?_⟩
  rw [components_ofReversed free, meaning_dropNoise, parts]
  rcases componentOf?_cases plainLast.1 plainLast.2 with isParent | isName
  · exact ⟨_, isParent, by simp [isParent]⟩
  · exact ⟨_, isName, by simp [isName]⟩

/-- A path is its folder with its file name behind it. -/
theorem components_parent? {path folder : Path} (absolute : path.isAbsolute = true)
    (above : path.parent? = some folder) {name : String} (named : path.fileName? = some name) :
    path.components = folder.components ++ [.name name] ∧ name ∈ path.segments ∧
      componentOf? name = some (.name name) := by
  rcases components_above absolute above with ⟨last, inPath, component, isComponent, parts⟩
  have isName : component = .name name := by
    rw [fileName?, parts, List.getLast?_concat] at named
    cases component with
    | name text => simpa using named
    | root => cases named
    | current => cases named
    | parent => cases named
  subst isName
  have plainLast : last ≠ "" ∧ last ≠ "." := by
    constructor <;> rintro rfl <;> cases isComponent
  rcases componentOf?_cases plainLast.1 plainLast.2 with isParent | isName
  · simp [isParent] at isComponent
  · have isLast : last = name := by simpa [isName] using isComponent
    exact ⟨parts, isLast ▸ inPath, isLast ▸ isName⟩

theorem segments_name {name : String} (some : name ≠ "") (free : '/' ∉ name.toList) :
    (Path.mk name).segments = [name] := by
  have single : Text.splitAt '/' ("/".toList.intercalate [name.toList]) = [name.toList] :=
    Text.splitAt_intercalate (by simpa using free) (by simp)
  rw [segments_of_ne some]
  simpa using congrArg (List.map String.ofList) single

theorem isAbsolute_name {name : String} (free : '/' ∉ name.toList) :
    (Path.mk name).isAbsolute = false := by
  rw [Bool.eq_false_iff]
  intro isAbsolute
  rcases isAbsolute_iff.mp isAbsolute with ⟨rest, text⟩
  exact free (by simp [text])

theorem same_join_of_parent? {path folder : Path} (absolute : path.isAbsolute = true)
    (above : path.parent? = some folder) {name : String} (named : path.fileName? = some name) :
    (folder.join ⟨name⟩).same path = true := by
  rcases components_parent? absolute above named with ⟨parts, inPath, isName⟩
  have free := not_mem_segments inPath
  have some : name ≠ "" := by
    rintro rfl
    cases isName
  have below : folder.text ≠ "" := by
    intro empty
    have isAbsolute := isAbsolute_parent? absolute above
    simp [Path.isAbsolute, empty] at isAbsolute
  rw [same_iff, components_join below (isAbsolute_name free), segments_name some free, parts]
  simp [isName]

end Path

/-! ## Source files -/

namespace FileSystem

theorem mem_filesIn {folder path : Path} {name : String} {entry : Entry}
    {entries : List (String × Entry)} (listed : (name, entry) ∈ entries)
    (shown : isHidden name = false) (below : path ∈ filesOf (folder.join ⟨name⟩) entry) :
    path ∈ filesIn folder entries := by
  induction entries with
  | nil => cases listed
  | cons head rest induction =>
      rcases head with ⟨headName, headEntry⟩
      rw [filesIn]
      rcases List.mem_cons.mp listed with isHead | later
      · cases isHead
        rw [shown]
        exact List.mem_append_left _ below
      · split
        · exact induction later
        · exact List.mem_append_right _ (induction later)

/-- A plain file in a folder, with a name that a walk does not pass over. -/
def Holds (files : FileSystem) (folder : Path) (name : String) : Prop :=
  ∃ entries content, files.entry folder = .ok (.directory entries) ∧
    (name, .file content) ∈ entries ∧ isHidden name = false

theorem mem_filesBelow_of_holds {files : FileSystem} {folder : Path} {name : String}
    (holds : files.Holds folder name) : folder.join ⟨name⟩ ∈ files.filesBelow folder := by
  rcases holds with ⟨entries, content, found, listed, shown⟩
  simp only [filesBelow, found]
  exact mem_filesIn listed shown (by simp [filesOf])

end FileSystem

namespace Package

variable {sources : Sources} {files : FileSystem} {set : SourceSet}

theorem Sources.increasing_find (folders : List Path) :
    Ordered.Increasing Path.compare (sources.find files folders set) :=
  Ordered.Increasing.insertAll .nil _

theorem Sources.belongs_congr {left right : Path} (same : left.same right = true) :
    sources.belongs set left = sources.belongs set right := by
  simp only [belongs, Path.fileName?, Path.same_iff.mp same]

/-- A path is found if it is a path of a source below one of the folders, whatever its
spelling. -/
theorem Sources.exists_mem_find {folders : List Path} {path : Path} :
    (∃ own ∈ sources.find files folders set, own.same path = true) ↔
      sources.belongs set path = true ∧
        ∃ folder ∈ folders, ∃ own ∈ files.filesBelow folder, own.same path = true := by
  simp only [← Path.compare_eq_iff, find]
  rw [Ordered.exists_mem_insertAll]
  simp only [List.mem_filter, List.mem_flatMap, List.not_mem_nil, false_and, exists_false, or_false,
    Path.compare_eq_iff]
  constructor
  · rintro ⟨own, ⟨⟨folder, searched, below⟩, isSource⟩, same⟩
    exact ⟨belongs_congr same ▸ isSource, folder, searched, own, below, same⟩
  · rintro ⟨isSource, folder, searched, own, below, same⟩
    exact ⟨own, ⟨⟨folder, searched, below⟩, (belongs_congr same).trans isSource⟩, same⟩

theorem mem_searchFolders_of_parent? {edited folder : Path} (above : edited.parent? = some folder)
    (layoutFolder : Path) : folder ∈ searchFolders edited layoutFolder := by
  simp only [searchFolders, above]
  split
  · exact List.mem_cons_self
  · exact List.mem_cons_self

end Package

end TemplateCheck
