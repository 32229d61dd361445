import TemplateCheck.Config
import TemplateCheck.Proofs.FileSystem.Lookup

/-! # The manifest of a directory

A manifest that is given by one name is directly in the directory whose manifest it is. Then a
root has a marked file in it, and which root is found depends on the files directly in the
directories above. A layout may give any other path for the manifest as well: then a directory
is a root because of a file somewhere else.
-/

namespace TemplateCheck

namespace Path

/-- A path of one name, which may stand behind a dot. -/
def IsSingle (path : Path) (name : String) : Prop :=
  path.components = [.name name] ∨ path.components = [.current, .name name]

/-- The pieces between the slashes, of which the empty path has one. -/
def pieces (path : Path) : List String :=
  (Text.splitAt '/' path.text.toList).map String.ofList

theorem firstComponentOf_cases (segment : String) :
    segment = "" ∧ firstComponentOf segment = .root ∨
      segment = "." ∧ firstComponentOf segment = .current ∨
      segment = ".." ∧ firstComponentOf segment = .parent ∨
      componentOf? segment = some (.name segment) ∧ firstComponentOf segment = .name segment := by
  by_cases empty : segment = ""
  · exact Or.inl ⟨empty, by simp [firstComponentOf, empty]⟩
  · by_cases dot : segment = "."
    · exact Or.inr (Or.inl ⟨dot, by simp [firstComponentOf, dot]⟩)
    · by_cases up : segment = ".."
      · exact Or.inr (Or.inr (Or.inl ⟨up, by simp [firstComponentOf, up]⟩))
      · simp [firstComponentOf, componentOf?, empty, dot, up]

/-- A path of one name is relative, and says nothing else. -/
theorem isSingle_iff {path : Path} {name : String} :
    path.IsSingle name ↔
      path.isAbsolute = false ∧ path.segments.filterMap componentOf? = [.name name] := by
  rw [Bool.eq_false_iff, ne_eq, isAbsolute_iff_components]
  unfold IsSingle components
  cases path.segments with
  | nil => simp
  | cons first rest =>
      rcases firstComponentOf_cases first with
        ⟨rfl, meant⟩ | ⟨rfl, meant⟩ | ⟨rfl, meant⟩ | ⟨isName, meant⟩
      · simp [meant]
      · have nothing : componentOf? "." = none := rfl
        simp [meant, nothing]
      · have isParent : componentOf? ".." = some .parent := rfl
        simp [meant, isParent]
      · simp [meant, isName]

theorem IsSingle.isName {path : Path} {name : String} (single : path.IsSingle name) :
    FileSystem.IsName name := by
  have meant := (isSingle_iff.mp single).2
  have isComponent : Component.name name ∈ path.segments.filterMap componentOf? := by simp [meant]
  rcases List.mem_filterMap.mp isComponent with ⟨segment, inside, isName⟩
  have written : name = segment := segment_componentOf? isName
  subst written
  refine ⟨?_, ?_, ?_, not_mem_segments inside⟩ <;> rintro rfl <;> cases isName

/-- A name stands among segments that say nothing. -/
theorem IsSingle.pieces {path : Path} {name : String} (single : path.IsSingle name) :
    ∃ before after, path.pieces = before ++ name :: after ∧
      (∀ segment ∈ before, segment = "" ∨ segment = ".") ∧
      ∀ segment ∈ after, segment = "" ∨ segment = "." := by
  have meant : path.pieces.filterMap componentOf? = [.name name] :=
    path.filterMap_segments.trans (isSingle_iff.mp single).2
  rcases List.filterMap_eq_cons_iff.mp meant with
    ⟨before, segment, after, split, silent, isName, rest⟩
  have written : name = segment := segment_componentOf? isName
  subst written
  refine ⟨before, after, split, fun segment inside => ?_, fun segment inside => ?_⟩
  · exact silent_of_componentOf? (silent segment inside)
  · exact silent_of_componentOf? (List.filterMap_eq_nil_iff.mp rest segment inside)

/-- What is put below every directory is directly in it if it is one name, and else not. -/
theorem join_direct_iff (rest : Path) :
    (∀ folder : Path, folder.text ≠ "" →
      ∃ name, (folder.join rest).components = folder.components ++ [.name name]) ↔
      ∃ name, rest.IsSingle name := by
  constructor
  · intro direct
    rcases direct ⟨"/"⟩ (by decide) with ⟨name, inRoot⟩
    rcases direct ⟨"/a"⟩ (by decide) with ⟨other, inFolder⟩
    have rootParts : (Path.mk "/").components = [.root] := by decide +kernel
    have folderParts : (Path.mk "/a").components = [.root, .name "a"] := by decide +kernel
    cases relative : rest.isAbsolute with
    | true =>
        -- An absolute path is the same below both.
        rw [join, if_pos relative, rootParts] at inRoot
        rw [join, if_pos relative, inRoot, folderParts] at inFolder
        cases inFolder
    | false =>
        rw [components_join (by decide) relative] at inRoot
        exact ⟨name, isSingle_iff.mpr ⟨relative, List.append_cancel_left inRoot⟩⟩
  · rintro ⟨name, single⟩ folder some
    rcases isSingle_iff.mp single with ⟨relative, meant⟩
    exact ⟨name, by rw [components_join some relative, meant]⟩

end Path

namespace FileSystem

variable {files : FileSystem}

/-! ## Reading below a folder -/

theorem readText_eq_ok {path : Path} {text : String} :
    files.readText path = .ok text ↔ ∃ content, files.entry path = .ok (.file content) ∧
      Text.Utf8.decode content = .ok text := by
  unfold readText readBytes
  cases files.entry path with
  | error fault => simp [bind, Except.bind]
  | ok found =>
      cases found with
      | directory entries => simp [bind, Except.bind]
      | link target => simp [bind, Except.bind]
      | file content =>
          simp only [bind, Except.bind, Except.ok.injEq, Entry.file.injEq, exists_eq_left']
          cases Text.Utf8.decode content <;> simp

/-- The content of a plain file directly in a folder. -/
def fileIn? (files : FileSystem) (folder : Path) (name : String) : Option (List UInt8) :=
  match files.entry folder with
  | .ok (.directory entries) =>
      match entries.lookup name with
      | some (.file content) => some content
      | _ => none
  | _ => none

theorem fileIn?_eq_some {folder : Path} {name : String} {content : List UInt8} :
    files.fileIn? folder name = some content ↔ ∃ entries,
      files.entry folder = .ok (.directory entries) ∧
        entries.lookup name = some (.file content) := by
  unfold fileIn?
  cases files.entry folder with
  | error fault => simp
  | ok found =>
      cases found with
      | file content => simp
      | link target => simp
      | directory entries =>
          cases found : entries.lookup name with
          | none => simp [found]
          | some child => cases child <;> simp [found]

theorem fileIn?_eq_none {folder : Path} {entries : List (String × Entry)}
    (isFolder : files.entry folder = .ok (.directory entries))
    (noFile : ∀ name content, (name, Entry.file content) ∉ entries) (name : String) :
    files.fileIn? folder name = none := by
  rw [Option.eq_none_iff_forall_ne_some]
  intro content isFile
  rcases fileIn?_eq_some.mp isFile with ⟨others, same, found⟩
  cases isFolder.symm.trans same
  exact noFile name content (Members.mem_of_lookup found)

/-- What is read under one name below a folder goes through an entry that the folder has under
this name. -/
theorem entries_of_readText {folder rest : Path} (notEmpty : folder.text ≠ "") {name : String}
    (single : rest.IsSingle name) {text : String}
    (read : files.readText (folder.join rest) = .ok text) :
    ∃ entries child, files.entry folder = .ok (.directory entries) ∧
      entries.lookup name = some child ∧
      (child.isLink = false → name.utf8ByteSize ≤ greatestNameLength ∧
        rest.pieces.getLast? = some name ∧
        ∃ content, child = .file content ∧ Text.Utf8.decode content = .ok text) := by
  rcases readText_eq_ok.mp read with ⟨content, isFile, decoded⟩
  rcases entry_eq_ok.mp isFile with ⟨place, resolved, there⟩
  rcases Path.isSingle_iff.mp single with ⟨relative, meant⟩
  rcases resolve_join notEmpty relative (by simp [meant]) resolved with
    ⟨middle, left, entries, folderResolved, here, came⟩
  rcases single.pieces with ⟨before, after, split, silentBefore, silentAfter⟩
  rw [← Path.pieces, split, follow_silent here left silentBefore] at came
  rcases found_of_onward single.isName here (goesOn_of_follow came) with ⟨short, child, found⟩
  refine ⟨entries, child, entry_eq_ok.mpr ⟨middle, folderResolved, here⟩, found, fun noLink => ?_⟩
  rw [follow_of_goes (onward_eq_goes single.isName here short found noLink)] at came
  have isChild := at?_child here found
  cases after with
  | nil =>
      rw [follow_nil] at came
      cases came
      rw [isChild] at there
      exact ⟨short, by simp [split], content, Option.some.inj there, decoded⟩
  | cons segment more =>
      -- Behind a file nothing can stand.
      rcases directory_of_follow came with ⟨inner, isDirectory⟩
      have stays := follow_silent isDirectory left silentAfter []
      rw [List.append_nil, came, follow_nil] at stays
      cases stays
      rw [isDirectory] at there
      cases there

/-- A path below a folder that can be read, as far as that depends on how it is written. -/
structure Fits (folder rest : Path) (name : String) : Prop where
  free : ∀ character ∈ (folder.join rest).text.toList, character.toNat ≠ 0
  short : (folder.join rest).text.utf8ByteSize ≤ greatestPathLength
  nameShort : name.utf8ByteSize ≤ greatestNameLength
  last : rest.pieces.getLast? = some name

/-- Without links, what is read under one name below a folder is a file directly in it. -/
theorem readText_join_iff (linkFree : files.isLinkFree = true) {folder rest : Path}
    (notEmpty : folder.text ≠ "") {name : String} (single : rest.IsSingle name) {text : String} :
    files.readText (folder.join rest) = .ok text ↔
      Fits folder rest name ∧ ∃ content, files.fileIn? folder name = some content ∧
        Text.Utf8.decode content = .ok text := by
  rcases Path.isSingle_iff.mp single with ⟨relative, meant⟩
  constructor
  · intro read
    rcases exists_resolve_of_readText read with ⟨place, resolved⟩
    rcases resolve_eq_ok.mp resolved with ⟨free, -, short, -⟩
    rcases entries_of_readText notEmpty single read with ⟨entries, child, isFolder, found, plain⟩
    have noLink : child.isLink = false := by
      have all := Entry.all_of_mem (all_of_entry linkFree isFolder) (Members.mem_of_lookup found)
      simpa using Entry.test_of_all all
    rcases plain noLink with ⟨nameShort, last, content, rfl, decoded⟩
    exact ⟨⟨free, short, nameShort, last⟩, content, fileIn?_eq_some.mpr ⟨entries, isFolder, found⟩,
      decoded⟩
  · rintro ⟨fits, content, inFolder, decoded⟩
    rcases fileIn?_eq_some.mp inFolder with ⟨entries, isFolder, found⟩
    rcases entry_eq_ok.mp isFolder with ⟨middle, resolved, here⟩
    rcases single.pieces with ⟨before, after, split, silentBefore, silentAfter⟩
    have isLast : after = [] := by
      cases reversed : after.reverse with
      | nil => exact List.reverse_eq_nil_iff.mp reversed
      | cons last others =>
          have fromEnd : after = others.reverse ++ [last] := by
            rw [← List.reverse_reverse after, reversed, List.reverse_cons]
          have isName : last = name := by
            have atEnd := fits.last
            rw [split, fromEnd, ← List.cons_append, ← List.append_assoc,
              List.getLast?_concat] at atEnd
            exact Option.some.inj atEnd
          rcases silentAfter last (by simp [fromEnd]) with empty | dot
          · exact absurd (isName ▸ empty) single.isName.notEmpty
          · exact absurd (isName ▸ dot) single.isName.notDot
    rcases follow_through resolved relative with ⟨left, goesOn⟩
    have came : files.follow greatestLinkCount (files.startOf (folder.join rest))
        (folder.join rest).segments = .ok (name :: middle) := by
      rw [goesOn, ← Path.pieces, split, isLast, follow_silent here left silentBefore,
        follow_of_goes (onward_eq_goes single.isName here fits.nameShort found rfl), follow_nil]
    have joinedSome : (folder.join rest).text ≠ "" := by
      rcases Path.text_join folder relative with ⟨between, written⟩
      simp [written, notEmpty]
    have joined := resolve_eq_ok.mpr ⟨fits.free, joinedSome, fits.short, came⟩
    exact readText_eq_ok.mpr ⟨content, entry_eq_ok.mpr ⟨_, joined, at?_child here found⟩, decoded⟩

end FileSystem

namespace Package

variable {files : FileSystem} {layout : Layout}

/-! ## Roots -/

/-- A folder that has a file under a name, directly or as a link, whose text carries the
marker. -/
def Carries (files : FileSystem) (layout : Layout) (folder : Path) (name : String) : Prop :=
  ∃ entries child text members value, files.entry folder = .ok (.directory entries) ∧
    entries.lookup name = some child ∧
    (child.isLink = false →
      ∃ content, child = .file content ∧ Text.Utf8.decode content = .ok text) ∧
    files.readText (folder.join ⟨layout.manifestFile⟩) = .ok text ∧
    Json.parse text = some (.obj members) ∧ members.lookup layout.markerKey = some value ∧
    value ≠ .null ∧ value ≠ .bool false

theorem carries_of_marked {folder : Path} (notEmpty : folder.text ≠ "") {name : String}
    (single : (Path.mk layout.manifestFile).IsSingle name) (marked : Marked files layout folder) :
    Carries files layout folder name := by
  rcases marked with ⟨text, members, value, read, rest⟩
  rcases FileSystem.entries_of_readText notEmpty single read with
    ⟨entries, child, isFolder, found, plain⟩
  exact ⟨entries, child, text, members, value, isFolder, found, fun noLink => (plain noLink).2.2,
    read, rest⟩

theorem isRoot_of_agree {left right : FileSystem} (leftFree : left.isLinkFree = true)
    (rightFree : right.isLinkFree = true) {folder : Path} (notEmpty : folder.text ≠ "")
    {name : String} (single : (Path.mk layout.manifestFile).IsSingle name)
    (agree : left.fileIn? folder name = right.fileIn? folder name)
    (isRootLeft : isRoot left layout folder = true) : isRoot right layout folder = true := by
  rcases isRoot_iff.mp isRootLeft with ⟨text, members, value, read, rest⟩
  rw [FileSystem.readText_join_iff leftFree notEmpty single, agree,
    ← FileSystem.readText_join_iff rightFree notEmpty single] at read
  exact isRoot_iff.mpr ⟨text, members, value, read, rest⟩

theorem text_ne_of_mem_rootCandidates {path folder : Path} (member : folder ∈ rootCandidates path) :
    folder.text ≠ "" := by
  simpa [String.isEmpty_iff] using (List.mem_filter.mp member).2

theorem reaches_of_mem_rootCandidates {path folder : Path} (member : folder ∈ rootCandidates path) :
    (searchStart path).Reaches folder :=
  Path.mem_ancestors_iff.mp (List.mem_filter.mp member).1

/-- Two file systems with the same plain files directly in a folder. -/
def AgreeIn (left right : FileSystem) (folder : Path) : Prop :=
  ∀ name, left.fileIn? folder name = right.fileIn? folder name

/-- What a layout makes of the manifests of directories. -/
structure ManifestPlaced (layout : Layout) : Prop where
  /-- The manifest of every directory is directly in it exactly if it is given by one name. -/
  direct : (∀ folder : Path, folder.text ≠ "" →
    ∃ name, (folder.join ⟨layout.manifestFile⟩).components = folder.components ++ [.name name]) ↔
      ∃ name, (Path.mk layout.manifestFile).IsSingle name
  /-- Then a root has a file in it that carries the marker. -/
  carried : ∀ name, (Path.mk layout.manifestFile).IsSingle name → ∀ files path root,
    resolve files layout path = .ok root → Carries files layout root name
  /-- Then the root depends on the files directly in the directories above only. -/
  nearby : ∀ name, (Path.mk layout.manifestFile).IsSingle name → ∀ (left right : FileSystem) path,
    left.isLinkFree = true → right.isLinkFree = true →
    (∀ folder, (searchStart path).Reaches folder → AgreeIn left right folder) →
    resolve left layout path = resolve right layout path

theorem manifestPlaced (layout : Layout) : ManifestPlaced layout where
  direct := Path.join_direct_iff _
  carried name single files path root found := by
    have search := resolve_eq_ok.mp found
    have candidate := mem_rootCandidates_of_findRoot? search
    exact carries_of_marked (text_ne_of_mem_rootCandidates candidate) single
      (isRoot_iff.mp (isRoot_of_findRoot? search))
  nearby name single left right path leftFree rightFree agree := by
    have same : ∀ folder ∈ rootCandidates path,
        isRoot left layout folder = isRoot right layout folder := by
      intro folder member
      have notEmpty := text_ne_of_mem_rootCandidates member
      have inFolder := agree folder (reaches_of_mem_rootCandidates member) name
      exact Bool.eq_iff_iff.mpr ⟨isRoot_of_agree leftFree rightFree notEmpty single inFolder,
        isRoot_of_agree rightFree leftFree notEmpty single inFolder.symm⟩
    have found : findRoot? left layout path = findRoot? right layout path := by
      rw [findRoot?_eq, findRoot?_eq, ← List.head?_filter, List.filter_congr same,
        List.head?_filter]
    rw [resolve, resolve, found]

/-! Layouts whose manifest is not in the directory: it is in the one above, or in one below. -/

namespace Elsewhere

def above : Layout := { manifestFile := "../m.json" }

def below : Layout := { manifestFile := "meta/m.json" }

def marked : Entry := .file (Text.Utf8.encodeChars "\x7b\"accordproject\": \x7b\x7d\x7d".toList)

def package (entries : List (String × Entry)) : FileSystem where
  workingDirectory := []
  entries := [("p", .directory entries)]

def climbing : FileSystem :=
  package [("m.json", marked), ("q", .directory [("r", .directory [])])]

def equipped : FileSystem := package [("meta", .directory [("m.json", marked)])]

def bare : FileSystem := package []

theorem no_file_in_root (name : String) : climbing.fileIn? ⟨"/p/q"⟩ name = none := by
  have isFolder : climbing.entry ⟨"/p/q"⟩ = .ok (.directory [("r", .directory [])]) :=
    FileSystem.entry_eq_ok.mpr ⟨["q", "p"], eq_ok_of_toOption (by decide +kernel), rfl⟩
  exact FileSystem.fileIn?_eq_none isFolder (by simp) name

theorem agree_above :
    ∀ folder ∈ (searchStart ⟨"/p/x"⟩).ancestors, AgreeIn equipped bare folder := by
  have ancestors : (searchStart ⟨"/p/x"⟩).ancestors = [⟨"/p"⟩, ⟨"/"⟩] := by decide +kernel
  have equippedFolder : equipped.entry ⟨"/p"⟩ =
      .ok (.directory [("meta", .directory [("m.json", marked)])]) :=
    FileSystem.entry_eq_ok.mpr ⟨["p"], eq_ok_of_toOption (by decide +kernel), rfl⟩
  have equippedRoot : equipped.entry ⟨"/"⟩ = .ok equipped.root :=
    FileSystem.entry_eq_ok.mpr ⟨[], eq_ok_of_toOption (by decide +kernel), rfl⟩
  have bareFolder : bare.entry ⟨"/p"⟩ = .ok (.directory []) :=
    FileSystem.entry_eq_ok.mpr ⟨["p"], eq_ok_of_toOption (by decide +kernel), rfl⟩
  have bareRoot : bare.entry ⟨"/"⟩ = .ok bare.root :=
    FileSystem.entry_eq_ok.mpr ⟨[], eq_ok_of_toOption (by decide +kernel), rfl⟩
  rw [ancestors]
  intro folder member name
  rcases List.mem_cons.mp member with rfl | isRoot
  · rw [FileSystem.fileIn?_eq_none equippedFolder (by simp) name,
      FileSystem.fileIn?_eq_none bareFolder (by simp) name]
  · cases List.mem_singleton.mp isRoot
    rw [FileSystem.fileIn?_eq_none equippedRoot (by simp [equipped, package]) name,
      FileSystem.fileIn?_eq_none bareRoot (by simp [bare, package]) name]

/-- Such layouts are accepted. A directory with no file in it is a root, and a root comes and goes
with a file that is in none of the directories above. -/
theorem root_without_manifest :
    Layout.decode Decode.dataFormat (.obj [("manifest_file", .str "../m.json")]) = .ok above ∧
      Config.parse ⟨"config.toml"⟩ "[layout]\nmanifest_file = \"meta/m.json\"\n" =
        .ok { layout := below } ∧
      resolve climbing above ⟨"/p/q/r/x"⟩ = .ok ⟨"/p/q"⟩ ∧
      (∀ name, climbing.fileIn? ⟨"/p/q"⟩ name = none) ∧
      equipped.isLinkFree = true ∧ bare.isLinkFree = true ∧
      (∀ folder ∈ (searchStart ⟨"/p/x"⟩).ancestors, AgreeIn equipped bare folder) ∧
      resolve equipped below ⟨"/p/x"⟩ = .ok ⟨"/p"⟩ ∧
      resolve bare below ⟨"/p/x"⟩ = .error ⟨⟨"/p/x"⟩, "meta/m.json", "accordproject"⟩ :=
  ⟨eq_ok_of_toOption (by decide +kernel), eq_ok_of_toOption (by decide +kernel),
    resolve_eq_ok.mpr (by decide +kernel), no_file_in_root, by decide, by decide, agree_above,
    resolve_eq_ok.mpr (by decide +kernel), resolve_eq_error.mpr ⟨rfl, by decide +kernel⟩⟩

end Elsewhere

end Package

end TemplateCheck
