import TemplateCheck.Proofs.Members
import TemplateCheck.Proofs.Path.Order

/-! # Trees of entries

What holds of every entry of a tree holds of the entry that names lead to. In a tree whose
names are names, and where no directory has a name twice, a walk below a directory lists
exactly the files that one comes to without a link and without a hidden name.
-/

namespace TemplateCheck

/-! ## All entries of a tree -/

namespace Entry

mutual

/-- Whether a test holds of an entry and of all those below it. -/
def all (test : Entry → Bool) : Entry → Bool
  | .file content => test (.file content)
  | .directory entries => test (.directory entries) && allIn test entries
  | .link target => test (.link target)

def allIn (test : Entry → Bool) : List (String × Entry) → Bool
  | [] => true
  | (_, entry) :: rest => entry.all test && allIn test rest

end

theorem test_of_all {test : Entry → Bool} {entry : Entry} (holds : entry.all test = true) :
    test entry = true := by
  cases entry with
  | file content => simpa only [all] using holds
  | link target => simpa only [all] using holds
  | directory entries =>
      rw [all, Bool.and_eq_true] at holds
      exact holds.1

theorem all_of_allIn {test : Entry → Bool} {entries : List (String × Entry)}
    (holds : allIn test entries = true) {name : String} {child : Entry}
    (member : (name, child) ∈ entries) : child.all test = true := by
  induction entries with
  | nil => cases member
  | cons head rest induction =>
      rcases head with ⟨headName, headEntry⟩
      rw [allIn, Bool.and_eq_true] at holds
      rcases List.mem_cons.mp member with isHead | later
      · cases isHead
        exact holds.1
      · exact induction holds.2 later

theorem all_of_mem {test : Entry → Bool} {entries : List (String × Entry)}
    (holds : (Entry.directory entries).all test = true) {name : String} {child : Entry}
    (member : (name, child) ∈ entries) : child.all test = true := by
  rw [all, Bool.and_eq_true] at holds
  exact all_of_allIn holds.2 member

/-- What can be gone through is a directory. -/
theorem eq_directory_of_at? {entry found : Entry} {name : String} {rest : List String}
    (there : entry.at? (name :: rest) = some found) :
    ∃ entries child, entry = .directory entries ∧ entries.lookup name = some child ∧
      child.at? rest = some found := by
  rcases Option.bind_eq_some_iff.mp there with ⟨child, isChild, below⟩
  cases entry with
  | file content => cases isChild
  | link target => cases isChild
  | directory entries => exact ⟨entries, child, rfl, isChild, below⟩

theorem all_of_at? {test : Entry → Bool} {entry found : Entry} (holds : entry.all test = true)
    {names : List String} (there : entry.at? names = some found) : found.all test = true := by
  induction names generalizing entry with
  | nil =>
      cases there
      exact holds
  | cons name rest induction =>
      rcases eq_directory_of_at? there with ⟨entries, child, rfl, isChild, below⟩
      exact induction (all_of_mem holds (Members.mem_of_lookup isChild)) below

theorem at?_append (entry : Entry) (names more : List String) :
    entry.at? (names ++ more) = (entry.at? names).bind fun found => found.at? more := by
  induction names generalizing entry with
  | nil => rfl
  | cons name rest induction =>
      simp only [List.cons_append, at?]
      cases entry.child? name with
      | none => rfl
      | some child => exact induction child

def isLink : Entry → Bool
  | .link _ => true
  | _ => false

/-- A directory gives each name once, and none is empty or has a slash. -/
def namesOnce : Entry → Bool
  | .directory entries =>
      decide (entries.map Prod.fst).Nodup &&
        entries.all fun entry => entry.1 ≠ "" && !entry.1.toList.contains '/'
  | _ => true

theorem once_of_namesOnce {entries : List (String × Entry)}
    (once : (Entry.directory entries).namesOnce = true) : Members.Once entries := by
  simp only [namesOnce, Bool.and_eq_true, decide_eq_true_eq] at once
  exact once.1

end Entry

namespace FileSystem

def isLinkFree (files : FileSystem) : Bool :=
  files.root.all fun entry => !entry.isLink

/-- Whether the directories are as directories are: every name is a name, and given once. -/
def isTree (files : FileSystem) : Bool :=
  files.root.all Entry.namesOnce

theorem entry_eq_ok {files : FileSystem} {path : Path} {found : Entry} :
    files.entry path = .ok found ↔
      ∃ place, files.resolve path = .ok place ∧ files.at? place = some found := by
  unfold entry
  cases resolved : files.resolve path with
  | error fault => simp [bind, Except.bind]
  | ok place => cases here : files.at? place <;> simp [bind, Except.bind, here]

theorem all_of_entry {files : FileSystem} {test : Entry → Bool}
    (holds : files.root.all test = true) {path : Path} {found : Entry}
    (isFound : files.entry path = .ok found) : found.all test = true := by
  rcases entry_eq_ok.mp isFound with ⟨place, -, there⟩
  exact Entry.all_of_at? holds there

theorem at?_append {files : FileSystem} (place : Place) (names : List String) :
    files.at? (names.reverse ++ place) = (files.at? place).bind fun found => found.at? names := by
  rw [at?, List.reverse_append, List.reverse_reverse, Entry.at?_append]
  rfl

/-! ## Names -/

/-- A name that a directory can give to an entry. -/
structure IsName (name : String) : Prop where
  notEmpty : name ≠ ""
  notDot : name ≠ "."
  notUp : name ≠ ".."
  free : '/' ∉ name.toList

theorem isName_of_shown {entries : List (String × Entry)}
    (once : (Entry.directory entries).namesOnce = true) {name : String} {child : Entry}
    (member : (name, child) ∈ entries) (shown : isHidden name = false) : IsName name := by
  simp only [Entry.namesOnce, Bool.and_eq_true] at once
  have isProper := List.all_eq_true.mp once.2 (name, child) member
  simp only [ne_eq, decide_not, Bool.and_eq_true, Bool.not_eq_true', decide_eq_false_iff_not,
    List.contains_eq_mem] at isProper
  refine ⟨isProper.1, ?_, ?_, isProper.2⟩
  · rintro rfl
    cases shown
  · rintro rfl
    cases shown

theorem areNames_of_at? {entry found : Entry} (once : entry.all Entry.namesOnce = true)
    {names : List String} (there : entry.at? names = some found)
    (shown : ∀ name ∈ names, isHidden name = false) : ∀ name ∈ names, IsName name := by
  induction names generalizing entry with
  | nil => nofun
  | cons name rest induction =>
      rcases Entry.eq_directory_of_at? there with ⟨entries, child, rfl, isChild, inside⟩
      rcases List.forall_mem_cons.mp shown with ⟨nameShown, restShown⟩
      have listed := Members.mem_of_lookup isChild
      exact List.forall_mem_cons.mpr ⟨isName_of_shown (Entry.test_of_all once) listed nameShown,
        induction (Entry.all_of_mem once listed) inside restShown⟩

/-- What names lead to from a folder. -/
def below (folder : Path) (names : List String) : Path :=
  names.foldl (fun path name => path.join ⟨name⟩) folder

theorem text_join_ne (folder : Path) {name : String} (isName : IsName name) :
    (folder.join ⟨name⟩).text ≠ "" := by
  rw [Path.join, if_neg (by simp [Path.isAbsolute_name isName.free])]
  split <;> simp [isName.notEmpty]

theorem components_join_name {folder : Path} (some : folder.text ≠ "") {name : String}
    (isName : IsName name) :
    (folder.join ⟨name⟩).components = folder.components ++ [.name name] := by
  rw [Path.components_join some (Path.isAbsolute_name isName.free),
    Path.segments_name isName.notEmpty isName.free]
  simp [Path.componentOf?, isName.notEmpty, isName.notDot, isName.notUp]

theorem components_below {folder : Path} (some : folder.text ≠ "") {names : List String}
    (areNames : ∀ name ∈ names, IsName name) :
    (below folder names).components = folder.components ++ names.map .name := by
  induction names generalizing folder with
  | nil => simp [below]
  | cons name rest induction =>
      rcases List.forall_mem_cons.mp areNames with ⟨isName, others⟩
      have later := induction (text_join_ne folder isName) others
      rw [below, List.foldl_cons, ← below, later, components_join_name some isName]
      simp

/-! ## Files below a directory -/

/-- A file that names lead to, with no link and no hidden name on the way. -/
structure Shown (entry : Entry) (names : List String) : Prop where
  isFile : ∃ content, entry.at? names = some (.file content)
  shown : ∀ name ∈ names, isHidden name = false

theorem mem_filesOf_of_shown {entry : Entry} {names : List String} (isShown : Shown entry names)
    (folder : Path) : below folder names ∈ filesOf folder entry := by
  rcases isShown with ⟨⟨content, there⟩, shown⟩
  induction names generalizing entry folder with
  | nil =>
      cases there
      simp [below, filesOf]
  | cons name rest induction =>
      rcases Entry.eq_directory_of_at? there with ⟨entries, child, rfl, isChild, inside⟩
      rcases List.forall_mem_cons.mp shown with ⟨nameShown, restShown⟩
      rw [filesOf]
      exact mem_filesIn (Members.mem_of_lookup isChild) nameShown
        (induction (folder.join ⟨name⟩) restShown inside)

mutual

theorem shown_of_mem_filesOf {folder path : Path} (entry : Entry)
    (once : entry.all Entry.namesOnce = true) (member : path ∈ filesOf folder entry) :
    ∃ names, Shown entry names ∧ path = below folder names := by
  cases entry with
  | file content =>
      rw [filesOf] at member
      exact ⟨[], ⟨⟨content, rfl⟩, nofun⟩, List.mem_singleton.mp member⟩
  | link target =>
      rw [filesOf] at member
      cases member
  | directory entries =>
      rw [filesOf] at member
      have own := Entry.test_of_all once
      rw [Entry.all, Bool.and_eq_true] at once
      rcases shown_of_mem_filesIn entries once.2 member with
        ⟨name, child, names, listed, nameShown, ⟨⟨content, there⟩, shown⟩, isPath⟩
      refine ⟨name :: names, ⟨⟨content, ?_⟩, ?_⟩, isPath⟩
      · simp only [Entry.at?, Entry.child?, (Entry.once_of_namesOnce own).lookup_of_mem listed]
        exact there
      · exact List.forall_mem_cons.mpr ⟨nameShown, shown⟩

theorem shown_of_mem_filesIn {folder path : Path} (entries : List (String × Entry))
    (once : Entry.allIn Entry.namesOnce entries = true) (member : path ∈ filesIn folder entries) :
    ∃ name child names, (name, child) ∈ entries ∧ isHidden name = false ∧ Shown child names ∧
      path = below (folder.join ⟨name⟩) names := by
  cases entries with
  | nil =>
      rw [filesIn] at member
      cases member
  | cons head rest =>
      rcases head with ⟨headName, headEntry⟩
      rw [Entry.allIn, Bool.and_eq_true] at once
      have later : path ∈ filesIn folder rest → _ := fun inRest =>
        shown_of_mem_filesIn rest once.2 inRest
      rw [filesIn] at member
      split at member
      · rcases later member with ⟨name, child, names, listed, others⟩
        exact ⟨name, child, names, List.mem_cons_of_mem _ listed, others⟩
      · next headShown =>
          rcases List.mem_append.mp member with inHead | inRest
          · rcases shown_of_mem_filesOf headEntry once.1 inHead with
              ⟨names, shown, isPath⟩
            exact ⟨headName, headEntry, names, List.mem_cons_self, by simpa using headShown, shown,
              isPath⟩
          · rcases later inRest with ⟨name, child, names, listed, others⟩
            exact ⟨name, child, names, List.mem_cons_of_mem _ listed, others⟩

end

end FileSystem

end TemplateCheck
