import TemplateCheck.Proofs.Path.Climb

/-! # The nearest package root

The root of a path's package is the first directory on the way up from the path that has a
marked manifest. Whatever is wrong with the manifest of a directory, the search goes on above
it. A path right below a root has that root.
-/

namespace TemplateCheck

namespace Path

/-- A path that is no directory's has nothing but noise behind its first segment. -/
theorem dropNoise_of_top {path : Path} (absolute : path.isAbsolute = true)
    (top : path.parent? = none) : dropNoise path.segments.reverse = [""] := by
  rcases segments_of_isAbsolute absolute with ⟨rest, segments⟩
  apply dropNoise_of_enclosing_nil
  · simp [segments]
  · exact List.map_eq_nil_iff.mp (parents_of_parent?_eq_none top)

theorem silent_of_dropNoise {reversed : List String} (root : dropNoise reversed = [""]) :
    ∀ segment ∈ reversed, segment = "" ∨ segment = "." := by
  induction reversed with
  | nil => simp
  | cons last before induction =>
      cases noise : isNoise last before with
      | true =>
          rw [dropNoise_of_isNoise noise] at root
          exact List.forall_mem_cons.mpr ⟨(isNoise_iff.mp noise).2, induction root⟩
      | false =>
          rw [dropNoise_of_plain noise] at root
          simp [root]

theorem text_ne_of_isAbsolute {path : Path} (absolute : path.isAbsolute = true) :
    path.text ≠ "" := by
  intro empty
  simp [isAbsolute, empty] at absolute

theorem text_join (base : Path) {rest : Path} (relative : rest.isAbsolute = false) :
    ∃ middle, (base.join rest).text = base.text ++ middle ++ rest.text := by
  unfold join
  rw [if_neg (by simp [relative])]
  split
  · exact ⟨"", by simp⟩
  · exact ⟨"/", rfl⟩

end Path

namespace FileSystem

variable {files : FileSystem}

/-- Segments that say nothing lead nowhere from the root. -/
theorem walk_noise (jump : Place → List String → Except FileFault Place) {noise : List String}
    (silent : ∀ segment ∈ noise, segment = "" ∨ segment = ".") (rest : List String) :
    files.walk jump [] (noise ++ rest) = files.walk jump [] rest := by
  induction noise with
  | nil => rfl
  | cons segment others induction =>
      rcases List.forall_mem_cons.mp silent with ⟨first, more⟩
      have isRoot : files.at? [] = some (.directory files.entries) := rfl
      have isNoise : (decide (segment = "") || decide (segment = ".")) = true := by
        simpa using first
      rw [List.cons_append, walk, isRoot]
      simp only [isNoise, if_true]
      exact induction more

theorem follow_noise (links : Nat) {noise : List String}
    (silent : ∀ segment ∈ noise, segment = "" ∨ segment = ".") (rest : List String) :
    files.follow links [] (noise ++ rest) = files.follow links [] rest := by
  cases links with
  | zero => exact walk_noise _ silent rest
  | succ links => exact walk_noise _ silent rest

theorem resolve_eq_ok {path : Path} {place : Place} :
    files.resolve path = .ok place ↔
      (∀ character ∈ path.text.toList, character.toNat ≠ 0) ∧ path.text ≠ "" ∧
        path.text.utf8ByteSize ≤ greatestPathLength ∧
        files.follow greatestLinkCount (files.startOf path) path.segments = .ok place := by
  unfold resolve
  by_cases nul : path.text.toList.any (fun character => character.toNat == 0) = true
  · rcases List.any_eq_true.mp nul with ⟨character, member, zero⟩
    rw [if_pos nul]
    constructor
    · intro resolved
      cases resolved
    · rintro ⟨free, -⟩
      exact absurd (by simpa using zero) (free character member)
  · have free : ∀ character ∈ path.text.toList, character.toNat ≠ 0 := by simpa using nul
    rw [if_neg nul]
    by_cases empty : path.text = ""
    · simp [empty]
    · by_cases long : greatestPathLength < path.text.utf8ByteSize
      · simp [empty, long, Nat.not_le.mpr long]
      · simp only [String.isEmpty_iff, empty, long, if_false, Nat.not_lt.mp long, ne_eq,
          not_false_eq_true, true_and]
        exact ⟨fun resolved => ⟨free, resolved⟩, And.right⟩

theorem exists_resolve_of_readText {path : Path} {text : String}
    (read : files.readText path = .ok text) : ∃ place, files.resolve path = .ok place := by
  cases resolved : files.resolve path with
  | ok place => exact ⟨place, rfl⟩
  | error fault => simp [readText, readBytes, entry, resolved, bind, Except.bind] at read

theorem readText_congr {left right : Path} (same : files.resolve left = files.resolve right) :
    files.readText left = files.readText right := by
  simp only [readText, readBytes, entry, same]

/-- Below the root a look-up goes by what is put there. -/
theorem follow_top {top rest : Path} (absolute : top.isAbsolute = true)
    (isTop : top.parent? = none) (relative : rest.isAbsolute = false) (links : Nat) :
    files.follow links (files.startOf (top.join rest)) (top.join rest).segments =
      files.follow links [] ((Text.splitAt '/' rest.text.toList).map String.ofList) := by
  have notEmpty : top.text ≠ "" := Path.text_ne_of_isAbsolute absolute
  rcases Path.segments_join notEmpty relative with ⟨front, -, isTopFront, joined⟩
  have silent := Path.silent_of_dropNoise (Path.dropNoise_of_top absolute isTop)
  rw [startOf, Path.isAbsolute_join absolute, if_pos rfl, joined]
  apply follow_noise
  intro segment member
  apply silent segment
  rcases isTopFront with same | slash
  · simpa [same] using member
  · simp [slash, member]

/-- What can be read below the root can be read there whatever the spelling of the root, but
that a longer path may be too long. -/
theorem readText_top {top rest : Path} (absolute : top.isAbsolute = true)
    (isTop : top.parent? = none) {text : String}
    (read : files.readText (top.join rest) = .ok text) :
    files.readText ((Path.mk "/").join rest) = .ok text := by
  cases relative : rest.isAbsolute with
  | true =>
      rw [Path.join, if_pos relative] at read ⊢
      exact read
  | false =>
      rcases exists_resolve_of_readText read with ⟨place, resolved⟩
      rcases resolve_eq_ok.mp resolved with ⟨free, -, short, followed⟩
      rcases Path.text_join top relative with ⟨middle, long⟩
      have written : ((Path.mk "/").join rest).text = "/" ++ rest.text := by
        simp [Path.join, relative]
      have shorter : ("/" ++ rest.text).utf8ByteSize ≤ (top.join rest).text.utf8ByteSize := by
        have some : top.text.utf8ByteSize ≠ 0 := fun none =>
          Path.text_ne_of_isAbsolute absolute (String.utf8ByteSize_eq_zero_iff.mp none)
        have slash : "/".utf8ByteSize = 1 := by decide
        rw [long, String.utf8ByteSize_append, String.utf8ByteSize_append,
          String.utf8ByteSize_append, slash]
        omega
      have same : files.resolve ((Path.mk "/").join rest) = .ok place := by
        refine resolve_eq_ok.mpr ⟨?_, ?_, ?_, ?_⟩
        · intro character member
          rw [written, String.toList_append] at member
          rcases List.mem_append.mp member with slash | inRest
          · rw [List.mem_singleton.mp slash]
            decide
          · exact free character (by simp [long, inRest])
        · simp [written]
        · exact Nat.le_trans (written ▸ shorter) short
        · rw [follow_top (by decide) (by decide +kernel) relative]
          rwa [follow_top absolute isTop relative] at followed
      rw [readText_congr (same.trans resolved.symm), read]

end FileSystem

namespace Package

variable {files : FileSystem} {layout : Layout}

/-- A directory whose manifest can be read, is an object of JSON, and has the marker with a value
other than null and false. -/
def Marked (files : FileSystem) (layout : Layout) (folder : Path) : Prop :=
  ∃ text members value, files.readText (folder.join ⟨layout.manifestFile⟩) = .ok text ∧
    Json.parse text = some (.obj members) ∧ members.lookup layout.markerKey = some value ∧
    value ≠ .null ∧ value ≠ .bool false

theorem hasMarker_iff {manifest : Json} {marker : String} :
    hasMarker manifest marker = true ↔ ∃ members value, manifest = .obj members ∧
      members.lookup marker = some value ∧ value ≠ .null ∧ value ≠ .bool false := by
  unfold hasMarker Json.get?
  cases manifest with
  | obj members =>
      cases found : members.lookup marker with
      | none => simp [found]
      | some value =>
          cases value with
          | bool flag => cases flag <;> simp [found]
          | _ => simp [found]
  | null => simp
  | bool value => simp
  | int value => simp
  | double value => simp
  | str value => simp
  | arr items => simp

theorem isRoot_iff {folder : Path} :
    isRoot files layout folder = true ↔ Marked files layout folder := by
  unfold isRoot Marked Layout.manifestIn
  cases read : files.readText (folder.join ⟨layout.manifestFile⟩) with
  | error fault => simp
  | ok text =>
      cases parsed : Json.parse text with
      | none => simp [parsed]
      | some manifest => simp [parsed, hasMarker_iff]

/-- The directory where the search for the root of a path's package starts. -/
def searchStart (path : Path) : Path := (path.parent?).getD path

theorem rootCandidates_eq {path : Path} (absolute : path.isAbsolute = true) :
    rootCandidates path = (searchStart path).ancestors := by
  refine List.filter_eq_self.mpr fun folder member => ?_
  have startAbsolute : (searchStart path).isAbsolute = true := by
    unfold searchStart
    cases up : path.parent? with
    | none => exact absolute
    | some above => exact Path.isAbsolute_parent? absolute up
  have folderAbsolute := (Path.mem_ancestors_iff.mp member).isAbsolute startAbsolute
  simp [Path.text_ne_of_isAbsolute folderAbsolute]

theorem findRoot?_eq_some {path : Path} (absolute : path.isAbsolute = true) {root : Path} :
    findRoot? files layout path = some root ↔
      Path.Nearest (Marked files layout) (searchStart path) root := by
  have marked : (fun folder => isRoot files layout folder = true) = Marked files layout :=
    funext fun folder => propext isRoot_iff
  rw [findRoot?_eq, rootCandidates_eq absolute, Path.find?_ancestors_eq_some, marked]

theorem findRoot?_eq_none {path : Path} (absolute : path.isAbsolute = true) :
    findRoot? files layout path = none ↔
      ∀ folder, (searchStart path).Reaches folder → ¬ Marked files layout folder := by
  simp only [findRoot?_eq, rootCandidates_eq absolute, List.find?_eq_none, Path.mem_ancestors_iff,
    isRoot_iff]

theorem resolve_eq_ok {path root : Path} :
    resolve files layout path = .ok root ↔ findRoot? files layout path = some root := by
  unfold resolve
  cases findRoot? files layout path <;> simp

theorem resolve_eq_error {path : Path} {fault : RootNotFound} :
    resolve files layout path = .error fault ↔
      fault = ⟨path, layout.manifestFile, layout.markerKey⟩ ∧
        findRoot? files layout path = none := by
  unfold resolve
  cases findRoot? files layout path <;> simp [eq_comm]

/-- A root that is found is written without noise, or it is the root of the file system. -/
theorem marked_tidied {path root : Path} (absolute : path.isAbsolute = true)
    (found : findRoot? files layout path = some root) :
    ∃ tidied, tidied = Path.ofReversed (Path.dropNoise root.segments.reverse) ∧
      tidied.components = root.components ∧ Marked files layout tidied := by
  rcases ((findRoot?_eq_some absolute).mp found).reaches with ⟨marked, reaches⟩
  cases up : path.parent? with
  | some above =>
      rw [searchStart, up] at reaches
      have higher : root ∈ path.parents :=
        Path.parents_of_parent? up ▸ Path.mem_ancestors_iff.mpr reaches
      have tidy := Path.ofReversed_dropNoise_of_mem_parents higher
      exact ⟨root, tidy.symm, rfl, marked⟩
  | none =>
      have isPath : root = path := by
        rw [searchStart, up] at reaches
        cases reaches with
        | here => rfl
        | up step rest => cases up.symm.trans step
      subst isPath
      refine ⟨⟨"/"⟩, ?_, ?_, ?_⟩
      · rw [Path.dropNoise_of_top absolute up]
        rfl
      · rw [(Path.parent?_eq_none_iff absolute).mp up]
        decide +kernel
      · rcases marked with ⟨text, members, value, read, rest⟩
        exact ⟨text, members, value, FileSystem.readText_top absolute up read, rest⟩

/-- What a search for the root of a path's package comes to. -/
structure Resolving (files : FileSystem) (layout : Layout) (path : Path) : Prop where
  /-- The first marked directory on the way up is found. -/
  found : ∀ root, resolve files layout path = .ok root ↔
    Path.Nearest (Marked files layout) (searchStart path) root
  /-- The search fails, with the path, if there is none. -/
  failed : ∀ fault, resolve files layout path = .error fault ↔
    fault = ⟨path, layout.manifestFile, layout.markerKey⟩ ∧
      ∀ folder, (searchStart path).Reaches folder → ¬ Marked files layout folder
  /-- What it says then is what a pass shows. -/
  shown : ∀ fault, resolve files layout path = .error fault →
    fault.message = rootNotFoundMessage layout path
  /-- A marked directory on the way up is found, unless a nearer one is. -/
  unhidden : ∀ folder, (searchStart path).Reaches folder → Marked files layout folder →
    ∃ root, resolve files layout path = .ok root ∧ folder.components <+: root.components
  inside : ∀ root, resolve files layout path = .ok root → root.components <+: path.components
  /-- What is put into the root that is found has the same root. -/
  stable : ∀ root name, resolve files layout path = .ok root →
    name ≠ "" → name ≠ "." → '/' ∉ name.toList →
    ∃ same, resolve files layout (root.join ⟨name⟩) = .ok same ∧
      same.components = root.components
  /-- Every step of the way up drops one component, and it ends at the file system's root. -/
  way : ∀ folder, path.Reaches folder →
    (folder.parent? = none ↔ folder.components = [.root]) ∧
      ∀ above, folder.parent? = some above →
        ∃ last, folder.components = above.components ++ [last]

theorem resolving (files : FileSystem) (layout : Layout) {path : Path}
    (absolute : path.isAbsolute = true) : Resolving files layout path where
  found root := resolve_eq_ok.trans (findRoot?_eq_some absolute)
  failed fault := by rw [resolve_eq_error, findRoot?_eq_none absolute]
  shown fault failed := by
    rw [(resolve_eq_error.mp failed).1]
    rfl
  unhidden folder reaches marked := by
    cases search : findRoot? files layout path with
    | none => exact absurd marked ((findRoot?_eq_none absolute).mp search folder reaches)
    | some root =>
        have nearest := (findRoot?_eq_some absolute).mp search
        have above := (nearest.first reaches marked).isUnder
        exact ⟨root, resolve_eq_ok.mpr search, Path.isUnder_iff.mp above⟩
  inside root isRoot := by
    have candidate := mem_rootCandidates_of_findRoot? (resolve_eq_ok.mp isRoot)
    exact Path.isUnder_iff.mp (isUnder_of_mem_rootCandidates candidate).1
  stable root name isRoot named notDot free := by
    have search := resolve_eq_ok.mp isRoot
    have rootAbsolute := isAbsolute_findRoot? absolute search
    rcases marked_tidied absolute search with ⟨tidied, isTidied, same, marked⟩
    have up := Path.parent?_join (Path.text_ne_of_isAbsolute rootAbsolute) named notDot free
    rw [← isTidied] at up
    refine ⟨tidied, resolve_eq_ok.mpr ?_, same⟩
    rw [findRoot?_eq_some (Path.isAbsolute_join rootAbsolute _), searchStart, up]
    exact .here marked
  way folder reaches := by
    have folderAbsolute := reaches.isAbsolute absolute
    refine ⟨Path.parent?_eq_none_iff folderAbsolute, fun above up => ?_⟩
    rcases Path.components_above folderAbsolute up with ⟨_, -, last, -, parts⟩
    exact ⟨last, parts⟩

/-! A package in which two directories have manifests that do not count. -/

namespace Nested

def text (content : String) : Entry := .file (Text.Utf8.encodeChars content.toList)

def package : FileSystem where
  workingDirectory := []
  entries := [("p", .directory [
    ("lib", .directory [
      ("old", .directory [("a.ergo", .file []), ("package.json", .file [0xFF])]),
      ("package.json", text "\x7b\"accordproject\": false\x7d")]),
    ("package.json", text "\x7b\"accordproject\": \x7b\x7d\x7d")])]

theorem resolving_nested :
    (Path.mk "/p/lib/old/a.ergo").isAbsolute = true ∧
      Resolving package {} ⟨"/p/lib/old/a.ergo"⟩ ∧
      resolve package {} ⟨"/p/lib/old/a.ergo"⟩ = .ok ⟨"/p"⟩ :=
  ⟨by decide, resolving package {} (by decide), resolve_eq_ok.mpr (by decide +kernel)⟩

end Nested

end Package

end TemplateCheck
