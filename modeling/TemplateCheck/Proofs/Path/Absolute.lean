import TemplateCheck.Proofs.Package.Search
import TemplateCheck.Proofs.Pass.Review

/-! # Absolute paths

The path that a URI names is absolute, and so is every path that a pass makes
from it: the directories above, what is joined to them, and the files found
below them. An absolute path has a file URI, so no stage of a pass ever meets a
path that it cannot list.
-/

namespace TemplateCheck

namespace Path

theorem isAbsolute_iff {path : Path} :
    path.isAbsolute = true ↔ ∃ rest, path.text.toList = '/' :: rest := by
  cases text : path.text.toList with
  | nil => simp [isAbsolute, text]
  | cons first rest => simp [isAbsolute, text]

/-- The first segment of an absolute path is empty. -/
theorem segments_of_isAbsolute {path : Path} (absolute : path.isAbsolute = true) :
    ∃ rest, path.segments = "" :: rest := by
  rcases isAbsolute_iff.mp absolute with ⟨rest, text⟩
  have notEmpty : path.text.isEmpty = false := by
    rw [Bool.eq_false_iff]
    intro isEmpty
    rw [String.isEmpty_iff.mp isEmpty] at text
    simp at text
  refine ⟨(Text.splitAt '/' rest).map String.ofList, ?_⟩
  simp [segments, notEmpty, Text.pieces, text, Text.splitAt]

theorem isAbsolute_join {base : Path} (absolute : base.isAbsolute = true) (rest : Path) :
    (base.join rest).isAbsolute = true := by
  rcases isAbsolute_iff.mp absolute with ⟨tail, text⟩
  unfold join
  split
  · next isAbsolute => exact isAbsolute
  · split
    · exact isAbsolute_iff.mpr ⟨tail ++ rest.text.toList, by simp [text]⟩
    · exact isAbsolute_iff.mpr ⟨tail ++ '/' :: rest.text.toList, by simp [text]⟩

/-! The directories above a path keep its first segment, which stands last in
reversed segments. -/

theorem getLast?_dropNoise (reversed : List String) :
    (dropNoise reversed).getLast? = reversed.getLast? := by
  induction reversed with
  | nil => rfl
  | cons last before induction =>
      unfold dropNoise
      split
      · next noise =>
          have more : before ≠ [] := by
            intro none
            simp [isNoise, none] at noise
          rw [induction, List.getLast?_cons_of_ne_nil more]
      · rfl

theorem getLast?_of_mem_enclosing {reversed folder : List String}
    (first : reversed.getLast? = some "") (member : folder ∈ enclosing reversed) :
    folder.getLast? = some "" := by
  induction reversed with
  | nil => cases member
  | cons last before induction =>
      unfold enclosing at member
      split at member
      · next noise =>
          have more : before ≠ [] := by
            intro none
            simp [isNoise, none] at noise
          rw [List.getLast?_cons_of_ne_nil more] at first
          exact induction first member
      · split at member
        · cases member
        · next notRoot =>
            have more : before ≠ [] := by
              intro none
              simp [none] at first
              simp [none, first] at notRoot
            rw [List.getLast?_cons_of_ne_nil more] at first
            rcases List.mem_cons.mp member with here | above
            · rw [here, getLast?_dropNoise]
              exact first
            · exact induction first above

theorem isAbsolute_ofReversed {reversed : List String} (first : reversed.getLast? = some "") :
    (ofReversed reversed).isAbsolute = true := by
  rcases List.getLast?_eq_some_iff.mp first with ⟨rest, equal⟩
  rw [equal]
  unfold ofReversed
  split
  · next empty => simp at empty
  · rfl
  · next more =>
      cases reverse : rest.reverse with
      | nil =>
          rw [List.reverse_eq_nil_iff.mp reverse] at more
          exact absurd rfl more
      | cons second others =>
          apply isAbsolute_iff.mpr
          simp [reverse, String.intercalate_cons_cons]

theorem isAbsolute_of_mem_parents {path folder : Path} (absolute : path.isAbsolute = true)
    (member : folder ∈ path.parents) : folder.isAbsolute = true := by
  rcases segments_of_isAbsolute absolute with ⟨rest, segments⟩
  rcases List.mem_map.mp member with ⟨reversed, enclosing, equal⟩
  rw [← equal]
  apply isAbsolute_ofReversed
  exact getLast?_of_mem_enclosing (by simp [segments]) enclosing

theorem isAbsolute_parent? {path folder : Path} (absolute : path.isAbsolute = true)
    (above : path.parent? = some folder) : folder.isAbsolute = true :=
  isAbsolute_of_mem_parents absolute (List.mem_of_head? above)

end Path

namespace FileSystem

mutual

theorem isAbsolute_of_mem_filesOf {folder : Path} (absolute : folder.isAbsolute = true)
    (entry : Entry) {path : Path} (member : path ∈ filesOf folder entry) :
    path.isAbsolute = true := by
  cases entry with
  | file content =>
      rw [filesOf] at member
      exact List.mem_singleton.mp member ▸ absolute
  | directory entries =>
      rw [filesOf] at member
      exact isAbsolute_of_mem_filesIn absolute entries member
  | link target =>
      rw [filesOf] at member
      cases member

theorem isAbsolute_of_mem_filesIn {folder : Path} (absolute : folder.isAbsolute = true)
    (entries : List (String × Entry)) {path : Path} (member : path ∈ filesIn folder entries) :
    path.isAbsolute = true := by
  cases entries with
  | nil =>
      rw [filesIn] at member
      cases member
  | cons head rest =>
      rcases head with ⟨name, entry⟩
      rw [filesIn] at member
      split at member
      · exact isAbsolute_of_mem_filesIn absolute rest member
      · rcases List.mem_append.mp member with below | beside
        · exact isAbsolute_of_mem_filesOf (Path.isAbsolute_join absolute ⟨name⟩) entry below
        · exact isAbsolute_of_mem_filesIn absolute rest beside

end

theorem isAbsolute_of_mem_filesBelow {files : FileSystem} {folder path : Path}
    (absolute : folder.isAbsolute = true) (member : path ∈ files.filesBelow folder) :
    path.isAbsolute = true := by
  unfold filesBelow at member
  split at member
  · exact isAbsolute_of_mem_filesIn absolute _ member
  · cases member

end FileSystem

namespace Package

theorem Sources.isAbsolute_of_mem_find {sources : Sources} {files : FileSystem}
    {folders : List Path} {set : SourceSet}
    (absolute : ∀ folder ∈ folders, folder.isAbsolute = true) {path : Path}
    (member : path ∈ sources.find files folders set) : path.isAbsolute = true := by
  rcases Ordered.mem_insertAll member with found | none
  · rcases List.mem_flatMap.mp (List.mem_filter.mp found).1 with ⟨folder, inside, below⟩
    exact FileSystem.isAbsolute_of_mem_filesBelow (absolute folder inside) below
  · cases none

theorem isAbsolute_of_mem_searchFolders {edited layoutFolder folder : Path}
    (editedAbsolute : edited.isAbsolute = true) (layoutAbsolute : layoutFolder.isAbsolute = true)
    (member : folder ∈ searchFolders edited layoutFolder) : folder.isAbsolute = true := by
  unfold searchFolders at member
  split at member
  · exact List.mem_singleton.mp member ▸ layoutAbsolute
  · next parent above =>
      have parentAbsolute := Path.isAbsolute_parent? editedAbsolute above
      split at member
      · exact List.mem_singleton.mp member ▸ parentAbsolute
      · rcases List.mem_cons.mp member with isParent | isLayout
        · exact isParent ▸ parentAbsolute
        · exact List.mem_singleton.mp isLayout ▸ layoutAbsolute

theorem isAbsolute_of_mem_rootCandidates {path root : Path} (absolute : path.isAbsolute = true)
    (candidate : root ∈ rootCandidates path) : root.isAbsolute = true := by
  have nearest : ((path.parent?).getD path).isAbsolute = true := by
    cases above : path.parent? with
    | none => exact absolute
    | some folder => exact Path.isAbsolute_parent? absolute above
  rcases List.mem_cons.mp (List.mem_filter.mp candidate).1 with here | higher
  · exact here ▸ nearest
  · exact Path.isAbsolute_of_mem_parents nearest higher

theorem isAbsolute_findRoot? {files : FileSystem} {layout : Layout} {path root : Path}
    (absolute : path.isAbsolute = true) (found : findRoot? files layout path = some root) :
    root.isAbsolute = true :=
  isAbsolute_of_mem_rootCandidates absolute (mem_rootCandidates_of_findRoot? found)

end Package

namespace Uri

theorem isSome_ofPath? {path : Path} (absolute : path.isAbsolute = true) :
    (ofPath? path).isSome = true := by
  rcases Path.segments_of_isAbsolute absolute with ⟨rest, segments⟩
  simp [ofPath?, Path.components, segments, Path.firstComponentOf]

/-- A slash at the end changes nothing at the start. -/
theorem head?_closeDrive {bytes : List UInt8} (slash : bytes.head? = some 0x2F) :
    (closeDrive bytes).head? = some 0x2F := by
  unfold closeDrive
  split
  · split
    · simp [slash]
    · exact slash
  · exact slash

theorem isAbsolute_toPath? {uri : Uri} {path : Path} (isFile : uri.toPath? = some path) :
    path.isAbsolute = true := by
  unfold toPath? at isFile
  split at isFile
  · next rest _ =>
      split at isFile
      · cases pieces : Text.splitAt '/' rest with
        | nil => exact absurd pieces (Text.splitAt_ne_nil '/' rest)
        | cons first others =>
            rw [pieces] at isFile
            cases isFile
            have slash : ((first :: others).flatMap fun segment =>
                0x2F :: Percent.decode (Text.Utf8.encodeChars segment)).head? = some 0x2F := by
              simp
            rcases List.head?_eq_some_iff.mp (head?_closeDrive slash) with ⟨after, equal⟩
            apply Path.isAbsolute_iff.mpr
            refine ⟨Text.Utf8.decodeLossyFrom none after, ?_⟩
            dsimp only
            rw [equal, Text.Utf8.decodeLossy, String.toList_ofList]
            rfl
      · cases isFile
  · cases isFile

end Uri

namespace Pass

/-- A context as the start of a pass finds it: a document that is a file, and the
root of the package around it. -/
structure Context.Sited (files : FileSystem) (context : Context) : Prop where
  isFile : context.document.uri.toPath? = some context.path
  found : Package.findRoot? files context.layout context.path = some context.root

theorem sited_of_arrive {files : FileSystem} {checker : Checker} {document : Document}
    {context : Context} (arrived : arrive files checker document = .ok context) :
    context.Sited files ∧ context.checker = checker ∧ context.document = document := by
  unfold arrive at arrived
  split at arrived
  · cases arrived
  · next path isFile =>
      split at arrived
      · cases arrived
      · next root found =>
          cases arrived
          exact ⟨⟨isFile, found⟩, rfl, rfl⟩

variable {files : FileSystem} {context : Context}

theorem Context.Sited.isAbsolute_root (sited : context.Sited files) :
    context.root.isAbsolute = true :=
  Package.isAbsolute_findRoot? (Uri.isAbsolute_toPath? sited.isFile) sited.found

theorem Context.Sited.isAbsolute_of_mem_filesOf (sited : context.Sited files) {stage : Stage}
    {path : Path} (member : path ∈ filesOf files context stage) : path.isAbsolute = true := by
  have rootAbsolute := sited.isAbsolute_root
  have sourceAbsolute : ∀ (folder : Path) (set : Package.SourceSet),
      path ∈ context.checker.sources.find files
        (Package.searchFolders context.path (context.root.join folder)) set →
      path.isAbsolute = true := by
    intro folder set found
    refine Package.Sources.isAbsolute_of_mem_find ?_ found
    intro searched inside
    exact Package.isAbsolute_of_mem_searchFolders (Uri.isAbsolute_toPath? sited.isFile)
      (Path.isAbsolute_join rootAbsolute folder) inside
  cases stage with
  | model => exact sourceAbsolute _ _ member
  | logic => exact sourceAbsolute _ _ member
  | template => exact List.mem_singleton.mp member ▸ Path.isAbsolute_join rootAbsolute _
  | sample => exact List.mem_singleton.mp member ▸ Path.isAbsolute_join rootAbsolute _

/-- Every file that a stage looks at has a URI. -/
theorem Context.Sited.named (sited : context.Sited files) {stage : Stage} {path : Path}
    (member : path ∈ filesOf files context stage) :
    ∃ uri, context.subject.uriFor? path = some uri := by
  have absolute := sited.isAbsolute_of_mem_filesOf member
  unfold Subject.uriFor?
  split
  · exact ⟨_, rfl⟩
  · exact Option.isSome_iff_exists.mp (Uri.isSome_ofPath? absolute)

end Pass

end TemplateCheck
