import TemplateCheck.Proofs.FileSystem.Lookup

/-! # Finding source files

A search lists, in path order, the files that its folders lead to through the tree. Which
files these are depends on the set of folders only, and a folder that another one leads to
adds none.
-/

namespace TemplateCheck

namespace Path

theorem fileName?_of_components {path : Path} {before : List Component} {name : String}
    (parts : path.components = before ++ [.name name]) : path.fileName? = some name := by
  simp only [fileName?, parts, List.getLast?_concat]

end Path

namespace FileSystem

variable {files : FileSystem}

/-! ## Files that a folder leads to -/

/-- A folder leads to a path if names come from the folder's directory to a regular file, with
no link and no hidden name on the way. The folder itself may be a link and may be hidden. -/
def LeadsTo (files : FileSystem) (folder path : Path) (names : List String) : Prop :=
  ∃ entries, files.entry folder = .ok (.directory entries) ∧ Shown (.directory entries) names ∧
    path.components = folder.components ++ names.map .name

theorem text_ne_of_entry {path : Path} {found : Entry} (isFound : files.entry path = .ok found) :
    path.text ≠ "" := by
  rcases entry_eq_ok.mp isFound with ⟨place, resolved, -⟩
  exact (resolve_eq_ok.mp resolved).2.1

theorem exists_mem_filesBelow (isTree : files.isTree = true) {folder path : Path} :
    (∃ own ∈ files.filesBelow folder, own.same path = true) ↔
      ∃ names, files.LeadsTo folder path names := by
  constructor
  · rintro ⟨own, member, same⟩
    unfold filesBelow at member
    split at member
    · next entries isFolder =>
        have once := all_of_entry isTree isFolder
        rcases shown_of_mem_filesOf (.directory entries) once (by rwa [filesOf]) with
          ⟨names, shown, rfl⟩
        rcases shown.isFile with ⟨content, there⟩
        have areNames := areNames_of_at? once there shown.shown
        rw [Path.same_iff, components_below (text_ne_of_entry isFolder) areNames] at same
        exact ⟨names, entries, isFolder, shown, same.symm⟩
    · cases member
  · rintro ⟨names, entries, isFolder, shown, parts⟩
    rcases shown.isFile with ⟨content, there⟩
    have areNames := areNames_of_at? (all_of_entry isTree isFolder) there shown.shown
    have member := mem_filesOf_of_shown shown folder
    rw [filesOf] at member
    refine ⟨below folder names, by simpa only [filesBelow, isFolder] using member, ?_⟩
    rw [Path.same_iff, components_below (text_ne_of_entry isFolder) areNames, parts]

/-- A file is never its own folder. -/
theorem LeadsTo.exists_last {folder path : Path} {names : List String}
    (leads : files.LeadsTo folder path names) : ∃ before last, names = before ++ [last] := by
  rcases leads with ⟨entries, -, ⟨⟨content, there⟩, -⟩, -⟩
  rcases List.eq_nil_or_concat names with rfl | ⟨before, last, isConcat⟩
  · cases there
  · exact ⟨before, last, by simpa using isConcat⟩

/-- A folder that real directories with no hidden name lead to from another one. -/
def Nested (files : FileSystem) (inner outer : Path) : Prop :=
  ∃ entries inside names, files.entry outer = .ok (.directory entries) ∧
    (Entry.directory entries).at? names = some (.directory inside) ∧
    (∀ name ∈ names, isHidden name = false) ∧
    inner.components = outer.components ++ names.map .name

theorem LeadsTo.of_nested (isTree : files.isTree = true) {inner outer path : Path}
    (nested : files.Nested inner outer) {names : List String}
    (leads : files.LeadsTo inner path names) : ∃ more, files.LeadsTo outer path more := by
  rcases nested with ⟨entries, inside, between, isOuter, there, shown, parts⟩
  rcases leads with ⟨own, isInner, ⟨⟨content, isFile⟩, ownShown⟩, ownParts⟩
  have areNames := areNames_of_at? (all_of_entry isTree isOuter) there shown
  rcases entry_eq_ok.mp isInner with ⟨place, resolved, -⟩
  have sameEntry := entry_below isOuter areNames there rfl parts resolved
  cases isInner.symm.trans sameEntry
  refine ⟨between ++ names, entries, isOuter, ⟨⟨content, ?_⟩, ?_⟩, ?_⟩
  · rw [Entry.at?_append, there]
    exact isFile
  · exact List.forall_mem_append.mpr ⟨shown, ownShown⟩
  · rw [ownParts, parts, List.map_append, List.append_assoc]

/-- Each of the folders is one of the others, or is nested in one of them. -/
def Within (files : FileSystem) (folders others : List Path) : Prop :=
  ∀ folder ∈ folders, ∃ other ∈ others, folder = other ∨ files.Nested folder other

end FileSystem

namespace Package

variable {sources : Sources} {files : FileSystem} {set : SourceSet}

/-! ## Files that a search finds -/

theorem Sources.exists_mem_find_iff (isTree : files.isTree = true) {folders : List Path}
    {path : Path} :
    (∃ own ∈ sources.find files folders set, own.same path = true) ↔
      ∃ folder ∈ folders, ∃ names last, files.LeadsTo folder path (names ++ [last]) ∧
        Glob.isMatch (sources.patternOf set) last = true := by
  have named : ∀ {folder names last}, files.LeadsTo folder path (names ++ [last]) →
      sources.belongs set path = Glob.isMatch (sources.patternOf set) last := by
    rintro folder names last ⟨entries, -, -, parts⟩
    rw [List.map_append, ← List.append_assoc] at parts
    simp only [belongs, Path.fileName?_of_components parts]
  rw [Sources.exists_mem_find]
  constructor
  · rintro ⟨isSource, folder, searched, below⟩
    rcases (FileSystem.exists_mem_filesBelow isTree).mp below with ⟨names, leads⟩
    rcases leads.exists_last with ⟨before, last, rfl⟩
    exact ⟨folder, searched, before, last, leads, named leads ▸ isSource⟩
  · rintro ⟨folder, searched, names, last, leads, matched⟩
    exact ⟨(named leads).trans matched, folder, searched,
      (FileSystem.exists_mem_filesBelow isTree).mpr ⟨_, leads⟩⟩

/-- Two searches that find the same paths, up to spelling, list them alike. -/
theorem Sources.components_find_eq {folders others : List Path}
    (same : ∀ path, (∃ own ∈ sources.find files folders set, own.same path = true) ↔
      ∃ own ∈ sources.find files others set, own.same path = true) :
    (sources.find files folders set).map Path.components =
      (sources.find files others set).map Path.components := by
  have increasing : ∀ searched, Ordered.Increasing (List.compareLex Path.Component.compare)
      ((sources.find files searched set).map Path.components) := by
    intro searched
    rw [Ordered.Increasing, List.pairwise_map]
    refine (Sources.increasing_find searched).imp ?_
    intro left right before
    rwa [← Path.compare_eq_compareLex]
  have listed : ∀ searched path, path.components ∈
      (sources.find files searched set).map Path.components ↔
        ∃ own ∈ sources.find files searched set, own.same path = true := by
    intro searched path
    simp only [List.mem_map, Path.same_iff]
  refine (increasing folders).eq_of_mem_iff (increasing others) ?_
  intro parts
  constructor
  · intro member
    rcases List.mem_map.mp member with ⟨own, -, rfl⟩
    exact (listed others own).mpr ((same own).mp ((listed folders own).mp member))
  · intro member
    rcases List.mem_map.mp member with ⟨own, -, rfl⟩
    exact (listed folders own).mpr ((same own).mpr ((listed others own).mp member))

theorem Sources.exists_mem_find_of_within (isTree : files.isTree = true)
    {folders others : List Path} (within : files.Within folders others) {path : Path}
    (found : ∃ own ∈ sources.find files folders set, own.same path = true) :
    ∃ own ∈ sources.find files others set, own.same path = true := by
  rw [Sources.exists_mem_find] at found ⊢
  rcases found with ⟨isSource, folder, searched, below⟩
  rcases within folder searched with ⟨other, kept, rfl | nested⟩
  · exact ⟨isSource, folder, kept, below⟩
  · rcases (FileSystem.exists_mem_filesBelow isTree).mp below with ⟨names, leads⟩
    exact ⟨isSource, other, kept,
      (FileSystem.exists_mem_filesBelow isTree).mpr (leads.of_nested isTree nested)⟩

theorem Sources.components_find_of_within (isTree : files.isTree = true)
    {folders others : List Path} (within : files.Within folders others)
    (back : files.Within others folders) :
    (sources.find files folders set).map Path.components =
      (sources.find files others set).map Path.components :=
  Sources.components_find_eq fun _ =>
    ⟨exists_mem_find_of_within isTree within, exists_mem_find_of_within isTree back⟩

/-- What a search finds. -/
structure Discovery (sources : Sources) (files : FileSystem) (set : SourceSet) : Prop where
  /-- The paths are listed in path order, each once. -/
  increasing : ∀ folders,
    Ordered.Increasing Path.compare (sources.find files folders set)
  /-- They are the paths, up to spelling, that a folder leads to and whose last name matches. -/
  found_iff : ∀ folders path,
    (∃ own ∈ sources.find files folders set, own.same path = true) ↔
      ∃ folder ∈ folders, ∃ names last, files.LeadsTo folder path (names ++ [last]) ∧
        Glob.isMatch (sources.patternOf set) last = true
  /-- Neither the order of the folders nor how often one is given makes a difference. -/
  reordered : ∀ folders others, (∀ folder, folder ∈ folders ↔ folder ∈ others) →
    (sources.find files folders set).map Path.components =
      (sources.find files others set).map Path.components
  /-- Nor does a folder that is nested in another one. -/
  dropped : ∀ front back inner outer, outer ∈ front ++ back → files.Nested inner outer →
    (sources.find files (front ++ inner :: back) set).map Path.components =
      (sources.find files (front ++ back) set).map Path.components

theorem discovery (isTree : files.isTree = true) (sources : Sources) (set : SourceSet) :
    Discovery sources files set where
  increasing := Sources.increasing_find
  found_iff folders path := Sources.exists_mem_find_iff isTree
  reordered folders others same := by
    apply Sources.components_find_eq
    intro path
    simp only [Sources.exists_mem_find, same]
  dropped front back inner outer kept nested := by
    apply Sources.components_find_eq
    intro path
    rw [Sources.exists_mem_find, Sources.exists_mem_find]
    refine and_congr_right fun _ => ?_
    constructor
    · rintro ⟨folder, searched, below⟩
      rcases List.mem_append.mp searched with inFront | later
      · exact ⟨folder, List.mem_append_left _ inFront, below⟩
      · rcases List.mem_cons.mp later with rfl | inBack
        · rcases (FileSystem.exists_mem_filesBelow isTree).mp below with ⟨names, leads⟩
          exact ⟨outer, kept, (FileSystem.exists_mem_filesBelow isTree).mpr
            (leads.of_nested isTree nested)⟩
        · exact ⟨folder, List.mem_append_right _ inBack, below⟩
    · rintro ⟨folder, searched, below⟩
      refine ⟨folder, ?_, below⟩
      rcases List.mem_append.mp searched with inFront | inBack
      · exact List.mem_append_left _ inFront
      · exact List.mem_append_right _ (List.mem_cons_of_mem _ inBack)

/-! A tree with a hidden directory, links, and two ways into one directory. -/

namespace TwoWays

def inSub : List (String × Entry) :=
  [("c.cto", .file []), ("n.txt", .file [])]

def inStart : List (String × Entry) := [
  ("a.cto", .file []),
  (".git", .directory [("b.cto", .file [])]),
  ("link.cto", .link "a.cto"),
  ("sub", .directory inSub),
  ("way", .link "/.d")]

def tree : FileSystem where
  workingDirectory := []
  entries := [(".d", .directory inStart), ("start", .link ".d")]

def patterns : Sources where
  models := [.anyBytes, .byte 46, .byte 99, .byte 116, .byte 111]
  logic := []

theorem nested_sub : tree.Nested ⟨"/start/./sub/"⟩ ⟨"/start"⟩ := by
  have isOuter : tree.entry ⟨"/start"⟩ = .ok (.directory inStart) :=
    FileSystem.entry_eq_ok.mpr ⟨[".d"], eq_ok_of_toOption (by decide +kernel), rfl⟩
  exact ⟨inStart, inSub, ["sub"], isOuter, rfl, by decide, by decide +kernel⟩

/-- A folder and the directory below it give each file once, and the spelling of the folder that
comes first. The link leads to the same files under other paths. -/
theorem discovery_twoWays :
    tree.isTree = true ∧
      (patterns.find tree [⟨"/start/./sub/"⟩, ⟨"/start"⟩, ⟨"/.d//"⟩] .models).map Path.text =
        ["/.d//a.cto", "/.d//sub/c.cto", "/start/a.cto", "/start/./sub/c.cto"] ∧
      (patterns.find tree [⟨"/start/./sub/"⟩, ⟨"/start"⟩, ⟨"/.d//"⟩] .models).map Path.components =
        (patterns.find tree [⟨"/start"⟩, ⟨"/.d//"⟩] .models).map Path.components :=
  have isTree : tree.isTree = true := by decide +kernel
  ⟨isTree, by decide +kernel, (discovery isTree patterns .models).dropped []
    [⟨"/start"⟩, ⟨"/.d//"⟩] ⟨"/start/./sub/"⟩ ⟨"/start"⟩ (by decide) nested_sub⟩

end TwoWays

end Package

end TemplateCheck
