import TemplateCheck.Proofs.FileSystem.Lookup
import TemplateCheck.Proofs.Package.Nearest
import TemplateCheck.Proofs.Roots.Bookkeeping

/-! # Missing files

A file that one spelling of a path leads to is missing under no other: what other spellings may
add says nothing, and can only make the look-up fail where the file is no directory. A path below
a folder that is missing is missing too. Below a plain file the look-up fails in another way, so
such a path neither leads to a file nor is known to be missing.
-/

namespace TemplateCheck

theorem Path.isAbsolute_of_same {left right : Path} (same : left.same right = true) :
    left.isAbsolute = right.isAbsolute := by
  rw [Bool.eq_iff_iff, isAbsolute_iff_components, isAbsolute_iff_components, same_iff.mp same]

namespace FileSystem

variable {files : FileSystem}

/-! ## Other spellings -/

theorem walk_thickens {jump : Place → List String → Except FileFault Place} {reached : Place}
    (jumps : ∀ place long short, Path.Thins long short → jump place short = .ok reached →
      jump place long = .ok reached ∨ jump place long = .error .notDirectory)
    {long short : List String} (thins : Path.Thins long short) {place : Place}
    (came : files.walk jump place short = .ok reached) :
    files.walk jump place long = .ok reached ∨
      files.walk jump place long = .error .notDirectory := by
  induction thins generalizing place with
  | nil => exact Or.inl came
  | keep segment rest induction =>
      rw [walk_cons] at came ⊢
      cases onward : files.onward place segment with
      | stops fault => simp [onward] at came
      | goes next => exact induction (by simpa only [onward] using came)
      | jumps next segments => exact jumps _ _ _ rest.append (by simpa only [onward] using came)
  | @drop segment _ _ silent rest induction =>
      rw [walk_cons]
      by_cases here : ∃ entries, files.at? place = some (.directory entries)
      · rcases here with ⟨entries, here⟩
        rw [onward_of_silent here silent]
        exact induction came
      · have stops : files.onward place segment = .stops .notDirectory := by
          unfold onward
          split
          · next entries isHere => exact absurd ⟨entries, isHere⟩ here
          · rfl
        rw [stops]
        exact Or.inr rfl

theorem follow_thickens {long short : List String} (thins : Path.Thins long short) {links : Nat}
    {place reached : Place} (came : files.follow links place short = .ok reached) :
    files.follow links place long = .ok reached ∨
      files.follow links place long = .error .notDirectory := by
  induction links generalizing place long short with
  | zero => exact walk_thickens (fun _ _ _ _ jumped => by cases jumped) thins came
  | succ links induction =>
      rw [follow] at came ⊢
      refine walk_thickens ?_ thins came
      intro next long short thins jumped
      exact induction thins jumped

theorem resolve_of_same {left right : Path} (same : left.same right = true) {place : Place}
    (resolved : files.resolve left = .ok place) :
    files.resolve right = .ok place ∨
      ∃ fault, files.resolve right = .error fault ∧ fault ≠ .notFound := by
  have components := Path.same_iff.mp same
  have notEmpty : right.text ≠ "" := by
    intro empty
    have some := Path.components_ne_nil (resolve_eq_ok.mp resolved).2.1
    rw [components, Path.components_eq, Path.segments, empty] at some
    exact some rfl
  have came := follow_components resolved
  rw [components, startOf_congr (Path.isAbsolute_of_same same)] at came
  unfold resolve
  split
  · exact Or.inr ⟨_, rfl, by decide⟩
  · rw [if_neg (by simpa using notEmpty)]
    split
    · exact Or.inr ⟨_, rfl, by decide⟩
    · rcases follow_thickens right.thins_segments came with arrives | fails
      · exact Or.inl arrives
      · exact Or.inr ⟨_, fails, by decide⟩

/-- Two spellings of a path never lead to two texts. -/
theorem readText_of_same {left right : Path} (same : left.same right = true) {text other : String}
    (leftText : files.readText left = .ok text) (rightText : files.readText right = .ok other) :
    text = other := by
  rcases exists_resolve_of_readText leftText with ⟨place, resolved⟩
  rcases exists_resolve_of_readText rightText with ⟨otherPlace, otherResolved⟩
  rcases resolve_of_same same resolved with arrives | ⟨fault, fails, -⟩
  · rw [readText_congr (resolved.trans arrives.symm), rightText] at leftText
    exact (Except.ok.inj leftText).symm
  · cases fails.symm.trans otherResolved

theorem entry_of_error {path : Path} {fault : FileFault}
    (fails : files.resolve path = .error fault) : files.entry path = .error fault := by
  simp [entry, fails, bind, Except.bind]

theorem isMissing_of_error {path : Path} {fault : FileFault}
    (fails : files.entry path = .error fault) (other : fault ≠ .notFound) :
    files.isMissing path = false := by
  unfold isMissing
  rw [fails]
  cases fault with
  | notFound => exact absurd rfl other
  | _ => rfl

theorem exists?_iff {path : Path} :
    files.exists? path = true ↔ ∃ found, files.entry path = .ok found := by
  unfold exists?
  cases files.entry path <;> simp

/-- A file that exists under one spelling of its path is missing under no other. -/
theorem isMissing_of_same {left right : Path} (same : left.same right = true)
    (there : files.exists? left = true) : files.isMissing right = false := by
  rcases exists?_iff.mp there with ⟨found, isFound⟩
  rcases entry_eq_ok.mp isFound with ⟨place, resolved, here⟩
  rcases resolve_of_same same resolved with arrives | ⟨fault, fails, other⟩
  · have alsoFound : files.entry right = .ok found := entry_eq_ok.mpr ⟨place, arrives, here⟩
    unfold isMissing
    rw [alsoFound]
  · exact isMissing_of_error (entry_of_error fails) other

/-! ## Below a folder -/

theorem exists_tail {place : Place} (there : (files.at? place).isSome = true) :
    (files.at? place.tail).isSome = true := by
  cases place with
  | nil => exact there
  | cons name rest =>
      have split := @at?_append files rest [name]
      rw [List.reverse_singleton, List.singleton_append] at split
      rw [split] at there
      cases here : files.at? rest with
      | none => simp [here] at there
      | some found => simp [here]

/-- A look-up stays in the tree. -/
theorem exists_of_onward {place next : Place} {segment : String}
    (there : (files.at? place).isSome = true) :
    (files.onward place segment = .goes next → (files.at? next).isSome = true) ∧
      ∀ segments, files.onward place segment = .jumps next segments →
        (files.at? next).isSome = true := by
  unfold onward
  split
  · next entries here =>
      split
      · exact ⟨by rintro ⟨⟩; exact there, nofun⟩
      · split
        · exact ⟨by rintro ⟨⟩; exact exists_tail there, nofun⟩
        · split
          · exact ⟨nofun, nofun⟩
          · split
            · exact ⟨nofun, nofun⟩
            · split
              · exact ⟨nofun, nofun⟩
              · refine ⟨nofun, ?_⟩
                rintro segments ⟨⟩
                split
                · rfl
                · exact there
            · next child isChild =>
                refine ⟨?_, nofun⟩
                rintro ⟨⟩
                rw [at?_child here isChild]
                rfl
  · exact ⟨nofun, nofun⟩

theorem exists_of_walk {jump : Place → List String → Except FileFault Place} {reached : Place}
    (jumps : ∀ place segments, (files.at? place).isSome = true →
      jump place segments = .ok reached → (files.at? reached).isSome = true)
    {place : Place} {segments : List String} (there : (files.at? place).isSome = true)
    (came : files.walk jump place segments = .ok reached) :
    (files.at? reached).isSome = true := by
  induction segments generalizing place with
  | nil =>
      cases came
      exact there
  | cons segment rest induction =>
      rw [walk_cons] at came
      cases onward : files.onward place segment with
      | stops fault => simp [onward] at came
      | goes next =>
          exact induction ((exists_of_onward there).1 onward) (by simpa only [onward] using came)
      | jumps next more =>
          exact jumps _ _ ((exists_of_onward there).2 more onward)
            (by simpa only [onward] using came)

theorem exists_of_follow {links : Nat} {place reached : Place} {segments : List String}
    (there : (files.at? place).isSome = true)
    (came : files.follow links place segments = .ok reached) :
    (files.at? reached).isSome = true := by
  induction links generalizing place segments with
  | zero => exact exists_of_walk (fun _ _ _ jumped => by cases jumped) there came
  | succ links induction => exact exists_of_walk (fun _ _ => induction) there came

/-- A missing folder is one that no look-up comes to. -/
theorem resolve_of_isMissing {folder : Path} (absolute : folder.isAbsolute = true)
    (missing : files.isMissing folder = true) : files.resolve folder = .error .notFound := by
  unfold isMissing at missing
  cases resolved : files.resolve folder with
  | error fault =>
      rw [entry_of_error resolved] at missing
      cases fault with
      | notFound => rfl
      | _ => cases missing
  | ok place =>
      have start : (files.at? (files.startOf folder)).isSome = true := by
        rw [startOf, if_pos absolute]
        rfl
      rcases Option.isSome_iff_exists.mp
        (exists_of_follow start (resolve_eq_ok.mp resolved).2.2.2) with ⟨found, here⟩
      rw [entry_eq_ok.mpr ⟨place, resolved, here⟩] at missing
      cases missing

theorem follow_empty (links : Nat) (place : Place) :
    files.follow links place [""] = .ok place ∧
        (∃ entries, files.at? place = some (.directory entries)) ∨
      files.follow links place [""] = .error .notDirectory := by
  by_cases here : ∃ entries, files.at? place = some (.directory entries)
  · rcases here with ⟨entries, here⟩
    refine Or.inl ⟨?_, entries, here⟩
    rw [follow_of_goes (onward_of_silent here (Or.inl rfl)), follow_nil]
  · refine Or.inr ?_
    have stops : files.onward place "" = .stops .notDirectory := by
      unfold onward
      split
      · next entries isHere => exact absurd ⟨entries, isHere⟩ here
      · rfl
    rw [follow_cons, stops]

/-- Why a path below another may lead nowhere, whatever is in the file system: its text. -/
def Unfit (fault : FileFault) : Prop :=
  fault = .nulInName ∨ fault = .nameTooLong

theorem resolve_cases (files : FileSystem) (path : Path) :
    (∃ fault, Unfit fault ∧ files.resolve path = .error fault) ∨ path.text = "" ∨
      files.resolve path = files.follow greatestLinkCount (files.startOf path) path.segments := by
  unfold resolve
  split
  · exact Or.inl ⟨_, Or.inl rfl, rfl⟩
  · split
    · next empty => exact Or.inr (Or.inl (by simpa using empty))
    · split
      · exact Or.inl ⟨_, Or.inr rfl, rfl⟩
      · exact Or.inr (Or.inr rfl)

/-- The look-up of a path below a folder goes on where the look-up of the folder ended. -/
theorem resolve_below {folder rest : Path} (some : folder.text ≠ "")
    (relative : rest.isAbsolute = false) :
    (∃ fault, Unfit fault ∧ files.resolve (folder.join rest) = .error fault) ∨
      ∃ front, (folder.segments = front ∨ folder.segments = front ++ [""]) ∧
        files.resolve (folder.join rest) =
          files.follow greatestLinkCount (files.startOf folder)
            (front ++ (Text.splitAt '/' rest.text.toList).map String.ofList) := by
  rcases Path.segments_join some relative with ⟨front, -, isFolder, joined⟩
  have notEmpty : (folder.join rest).text ≠ "" := by
    intro empty
    have none : (folder.join rest).segments = [] := by simp [Path.segments, empty]
    rw [joined] at none
    simp [Text.splitAt_ne_nil] at none
  rcases resolve_cases files (folder.join rest) with unfit | empty | followed
  · exact Or.inl unfit
  · exact absurd empty notEmpty
  · refine Or.inr ⟨front, isFolder, ?_⟩
    rw [followed, joined, startOf_congr (Path.isAbsolute_join_eq some relative)]

/-- A path below a missing folder is missing, unless its text is unfit. -/
theorem entry_below_missing {folder rest : Path} (absolute : folder.isAbsolute = true)
    (relative : rest.isAbsolute = false) (missing : files.isMissing folder = true) :
    ∃ fault, files.entry (folder.join rest) = .error fault ∧
      (fault = .notFound ∨ Unfit fault) := by
  have resolved := resolve_of_isMissing absolute missing
  have some : folder.text ≠ "" := Path.text_ne_of_isAbsolute absolute
  rcases resolve_below some relative with ⟨fault, unfit, fails⟩ | ⟨front, isFolder, below⟩
  · exact ⟨fault, entry_of_error fails, Or.inr unfit⟩
  · have followed : files.follow greatestLinkCount (files.startOf folder) folder.segments =
        .error .notFound := by
      rcases resolve_cases files folder with ⟨fault, unfit, fails⟩ | empty | followed
      · cases fails.symm.trans resolved
        rcases unfit with nul | long
        · cases nul
        · cases long
      · exact absurd empty some
      · exact followed.symm.trans resolved
    refine ⟨.notFound, entry_of_error (below.trans ?_), Or.inl rfl⟩
    rcases follow_append greatestLinkCount (files.startOf folder) front with
      ⟨fault, fails⟩ | ⟨middle, left, goesOn⟩
    · have same : fault = .notFound := by
        rcases isFolder with isFront | isFront
        · rw [isFront, ← List.append_nil front, fails] at followed
          exact Except.error.inj followed
        · rw [isFront, fails] at followed
          exact Except.error.inj followed
      rw [fails, same]
    · rcases isFolder with isFront | isFront
      · rw [isFront, ← List.append_nil front, goesOn, follow_nil] at followed
        cases followed
      · rw [isFront, goesOn] at followed
        rcases follow_empty left middle with ⟨arrives, -⟩ | fails
        · cases arrives.symm.trans followed
        · cases fails.symm.trans followed

/-- A path below a plain file leads nowhere, and is not known to be missing. -/
theorem entry_below_file {folder rest : Path} {content : List UInt8}
    (relative : rest.isAbsolute = false) (isFile : files.entry folder = .ok (.file content)) :
    ∃ fault, files.entry (folder.join rest) = .error fault ∧
      (fault = .notDirectory ∨ Unfit fault) := by
  rcases entry_eq_ok.mp isFile with ⟨place, resolved, here⟩
  rcases resolve_eq_ok.mp resolved with ⟨-, some, -, followed⟩
  rcases resolve_below some relative with ⟨fault, unfit, fails⟩ | ⟨front, isFolder, below⟩
  · exact ⟨fault, entry_of_error fails, Or.inr unfit⟩
  · refine ⟨.notDirectory, entry_of_error (below.trans ?_), Or.inl rfl⟩
    have reached : files.follow greatestLinkCount (files.startOf folder) front = .ok place := by
      rcases isFolder with isFront | isFront
      · exact isFront ▸ followed
      · rw [isFront] at followed
        rcases follow_split followed with ⟨middle, left, first, second⟩
        rcases follow_empty left middle with ⟨arrives, entries, isDirectory⟩ | fails
        · rw [arrives] at second
          cases second
          rw [isDirectory] at here
          cases here
        · rw [fails] at second
          cases second
    rcases follow_of_front reached with ⟨left, goesOn⟩
    rw [goesOn]
    cases pieces : (Text.splitAt '/' rest.text.toList).map String.ofList with
    | nil => simp [Text.splitAt_ne_nil] at pieces
    | cons piece others =>
        have stops : files.onward place piece = .stops .notDirectory := by
          simp only [onward, here]
        rw [follow_cons, stops]

end FileSystem

end TemplateCheck
