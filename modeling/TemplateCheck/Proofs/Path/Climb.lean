import TemplateCheck.Proofs.Path.Order

/-! # From directory to directory

The directories above a path are those that one meets by going from a path to the directory
that holds it, again and again. Each step drops the last component, and below the file system's
root there always is a step. What is put into a directory has that directory for its parent.
-/

namespace TemplateCheck

namespace Path

theorem isNoise_iff {segment : String} {before : List String} :
    isNoise segment before = true ↔ before ≠ [] ∧ (segment = "" ∨ segment = ".") := by
  simp [isNoise]

theorem dropNoise_of_isNoise {last : String} {before : List String}
    (noise : isNoise last before = true) : dropNoise (last :: before) = dropNoise before := by
  rw [dropNoise, if_pos noise]

theorem dropNoise_of_plain {last : String} {before : List String}
    (plain : isNoise last before = false) : dropNoise (last :: before) = last :: before := by
  rw [dropNoise, if_neg (by simp [plain])]

theorem enclosing_of_isNoise {last : String} {before : List String}
    (noise : isNoise last before = true) : enclosing (last :: before) = enclosing before := by
  rw [enclosing, if_pos noise]

theorem enclosing_of_plain {last : String} {before : List String}
    (plain : isNoise last before = false) (below : before ≠ [] ∨ last ≠ "") :
    enclosing (last :: before) = dropNoise before :: enclosing before := by
  rw [enclosing, if_neg (by simp [plain]), if_neg]
  intro top
  have parts : before = [] ∧ last = "" := by simpa using top
  exact below.elim (absurd parts.1) (absurd parts.2)

theorem dropNoise_dropNoise (reversed : List String) :
    dropNoise (dropNoise reversed) = dropNoise reversed := by
  induction reversed with
  | nil => rfl
  | cons last before induction =>
      cases noise : isNoise last before with
      | true => rw [dropNoise_of_isNoise noise, induction]
      | false => rw [dropNoise_of_plain noise, dropNoise_of_plain noise]

theorem enclosing_dropNoise (reversed : List String) :
    enclosing (dropNoise reversed) = enclosing reversed := by
  induction reversed with
  | nil => rfl
  | cons last before induction =>
      cases noise : isNoise last before with
      | true => rw [dropNoise_of_isNoise noise, enclosing_of_isNoise noise, induction]
      | false => rw [dropNoise_of_plain noise]

/-- The nearest directory above has the same directories above it as the path, but for itself. -/
theorem enclosing_tail {reversed folder : List String}
    (nearest : (enclosing reversed).head? = some folder) :
    enclosing reversed = folder :: enclosing folder := by
  induction reversed with
  | nil => cases nearest
  | cons last before induction =>
      cases noise : isNoise last before with
      | true =>
          rw [enclosing_of_isNoise noise] at nearest ⊢
          exact induction nearest
      | false =>
          by_cases top : before = [] ∧ last = ""
          · rw [top.1, top.2] at nearest
            cases nearest
          · rw [enclosing_of_plain noise (Decidable.not_and_iff_or_not.mp top)] at nearest ⊢
            cases nearest
            rw [enclosing_dropNoise]

theorem free_of_mem_enclosing {path : Path} {folder : List String}
    (member : folder ∈ enclosing path.segments.reverse) :
    ∀ segment ∈ folder, '/' ∉ segment.toList := by
  rcases suffix_of_mem_enclosing member with ⟨before, suffix, rfl⟩
  intro segment inside
  have inPath := suffix.subset ((dropNoise_suffix before).subset inside)
  exact not_mem_segments (List.mem_reverse.mp inPath)

/-- Only the root is written with one more segment than it has. -/
theorem segments_ofReversed {reversed : List String}
    (free : ∀ segment ∈ reversed, '/' ∉ segment.toList) :
    (ofReversed reversed).segments.reverse = reversed ∨
      reversed = [""] ∧ ofReversed reversed = ⟨"/"⟩ := by
  unfold ofReversed
  split
  · exact Or.inl rfl
  · exact Or.inr ⟨rfl, rfl⟩
  · next some more =>
      left
      rw [segments_intercalate, List.reverse_reverse]
      · simpa using some
      · intro single
        exact more (by rw [← List.reverse_reverse reversed, single]; rfl)
      · simpa using free

theorem enclosing_ofReversed {reversed : List String}
    (free : ∀ segment ∈ reversed, '/' ∉ segment.toList) :
    enclosing (ofReversed reversed).segments.reverse = enclosing reversed := by
  rcases segments_ofReversed free with same | ⟨rfl, -⟩
  · rw [same]
  · decide +kernel

theorem dropNoise_ofReversed {reversed : List String}
    (free : ∀ segment ∈ reversed, '/' ∉ segment.toList) :
    dropNoise (ofReversed reversed).segments.reverse = dropNoise reversed := by
  rcases segments_ofReversed free with same | ⟨rfl, -⟩
  · rw [same]
  · decide +kernel

/-! ## One step up -/

theorem parents_of_parent?_eq_none {path : Path} (top : path.parent? = none) :
    path.parents = [] :=
  List.head?_eq_none_iff.mp top

theorem parents_of_parent? {path above : Path} (up : path.parent? = some above) :
    path.parents = above :: above.parents := by
  rcases Option.map_eq_some_iff.mp ((List.head?_map ..).symm.trans up) with ⟨folder, nearest, rfl⟩
  have free := free_of_mem_enclosing (List.mem_of_head? nearest)
  rw [parents, parents, enclosing_tail nearest, enclosing_ofReversed free, List.map_cons]

/-- Above nothing there is only noise. -/
theorem dropNoise_of_enclosing_nil {reversed : List String}
    (first : reversed.getLast? = some "") (top : enclosing reversed = []) :
    dropNoise reversed = [""] := by
  induction reversed with
  | nil => cases first
  | cons last before induction =>
      cases noise : isNoise last before with
      | true =>
          rw [List.getLast?_cons_of_ne_nil (isNoise_iff.mp noise).1] at first
          rw [enclosing_of_isNoise noise] at top
          rw [dropNoise_of_isNoise noise, induction first top]
      | false =>
          by_cases only : before = [] ∧ last = ""
          · rw [only.1, only.2]
            rfl
          · rw [enclosing_of_plain noise (Decidable.not_and_iff_or_not.mp only)] at top
            cases top

/-- A directory that is named by another path is written without noise. -/
theorem ofReversed_dropNoise_of_mem_parents {path folder : Path} (member : folder ∈ path.parents) :
    ofReversed (dropNoise folder.segments.reverse) = folder := by
  rcases List.mem_map.mp member with ⟨reversed, enclosed, rfl⟩
  have free := free_of_mem_enclosing enclosed
  rcases suffix_of_mem_enclosing enclosed with ⟨before, -, rfl⟩
  rw [dropNoise_ofReversed free, dropNoise_dropNoise]

/-- Only the root is nowhere. -/
theorem parent?_eq_none_iff {path : Path} (absolute : path.isAbsolute = true) :
    path.parent? = none ↔ path.components = [.root] := by
  rcases segments_of_isAbsolute absolute with ⟨rest, segments⟩
  have first : path.segments.reverse.getLast? = some "" := by simp [segments]
  constructor
  · intro top
    have nothing : enclosing path.segments.reverse = [] :=
      List.map_eq_nil_iff.mp (parents_of_parent?_eq_none top)
    rw [components_eq, ← List.reverse_reverse path.segments, ← meaning_dropNoise,
      dropNoise_of_enclosing_nil first nothing]
    rfl
  · intro isRoot
    cases up : path.parent? with
    | none => rfl
    | some above =>
        rcases components_above absolute up with ⟨last, -, component, -, parts⟩
        rcases segments_of_isAbsolute (isAbsolute_parent? absolute up) with ⟨others, segmentsAbove⟩
        rw [isRoot, components_eq above, segmentsAbove] at parts
        simp [meaning] at parts

/-! ## The way up -/

/-- A directory that one comes to by going up any number of times. -/
inductive Reaches : Path → Path → Prop
  | here (folder : Path) : Reaches folder folder
  | up {folder above goal : Path} (step : folder.parent? = some above)
      (rest : Reaches above goal) : Reaches folder goal

/-- The first directory on the way up that is as wanted. -/
inductive Nearest (wanted : Path → Prop) : Path → Path → Prop
  | here {folder : Path} (found : wanted folder) : Nearest wanted folder folder
  | up {folder above goal : Path} (passed : ¬ wanted folder) (step : folder.parent? = some above)
      (rest : Nearest wanted above goal) : Nearest wanted folder goal

theorem Nearest.reaches {wanted : Path → Prop} {folder goal : Path}
    (nearest : Nearest wanted folder goal) : wanted goal ∧ Reaches folder goal := by
  induction nearest with
  | here found => exact ⟨found, .here _⟩
  | up passed step rest induction => exact ⟨induction.1, .up step induction.2⟩

/-- What is wanted elsewhere on the way up is above the nearest. -/
theorem Nearest.first {wanted : Path → Prop} {folder goal other : Path}
    (nearest : Nearest wanted folder goal) (reaches : Reaches folder other)
    (isWanted : wanted other) : Reaches goal other := by
  induction nearest with
  | here found => exact reaches
  | up passed step rest induction =>
      cases reaches with
      | here => exact absurd isWanted passed
      | up otherStep otherRest =>
          cases step.symm.trans otherStep
          exact induction otherRest

theorem Reaches.isAbsolute {folder goal : Path} (reaches : Reaches folder goal)
    (absolute : folder.isAbsolute = true) : goal.isAbsolute = true := by
  induction reaches with
  | here folder => exact absolute
  | up step rest induction => exact induction (isAbsolute_parent? absolute step)

theorem Reaches.isUnder {folder goal : Path} (reaches : Reaches folder goal) :
    folder.isUnder goal = true := by
  induction reaches with
  | here folder => exact isUnder_refl folder
  | up step rest induction =>
      exact isUnder_trans (isUnder_of_mem_parents (List.mem_of_head? step)) induction

/-- Every way up comes to an end. -/
theorem climb {motive : Path → Prop}
    (step : ∀ folder, (∀ above, folder.parent? = some above → motive above) → motive folder)
    (folder : Path) : motive folder := by
  induction height : folder.parents.length generalizing folder with
  | zero =>
      apply step
      intro above up
      rw [parents_of_parent? up] at height
      cases height
  | succ height' induction =>
      apply step
      intro above up
      rw [parents_of_parent? up] at height
      exact induction above (Nat.succ.inj height)

theorem mem_ancestors_iff {folder goal : Path} : goal ∈ folder.ancestors ↔ Reaches folder goal := by
  constructor
  · intro member
    induction folder using climb with
    | step folder induction =>
        rcases List.mem_cons.mp member with rfl | higher
        · exact .here _
        · cases up : folder.parent? with
          | none =>
              rw [parents_of_parent?_eq_none up] at higher
              cases higher
          | some above =>
              rw [parents_of_parent? up] at higher
              exact .up up (induction above up higher)
  · intro reaches
    induction reaches with
    | here folder => exact List.mem_cons_self
    | up step rest induction =>
        rw [ancestors, parents_of_parent? step]
        exact List.mem_cons_of_mem _ induction

/-- Of two directories on the way up, the nearer is below the other. -/
theorem pairwise_ancestors (folder : Path) :
    folder.ancestors.Pairwise fun lower higher => lower.isUnder higher = true := by
  induction folder using climb with
  | step folder induction =>
      refine List.pairwise_cons.mpr ⟨fun higher member => isUnder_of_mem_parents member, ?_⟩
      cases up : folder.parent? with
      | none =>
          rw [parents_of_parent?_eq_none up]
          exact List.Pairwise.nil
      | some above =>
          rw [parents_of_parent? up]
          exact induction above up

theorem find?_ancestors_eq_some {wanted : Path → Bool} {folder goal : Path} :
    folder.ancestors.find? wanted = some goal ↔
      Nearest (fun folder => wanted folder = true) folder goal := by
  constructor
  · intro found
    induction folder using climb with
    | step folder induction =>
        cases isWanted : wanted folder with
        | true =>
            rw [ancestors, List.find?_cons_of_pos isWanted] at found
            cases found
            exact .here isWanted
        | false =>
            have passed : ¬ wanted folder = true := by simp [isWanted]
            rw [ancestors, List.find?_cons_of_neg passed] at found
            cases up : folder.parent? with
            | none =>
                rw [parents_of_parent?_eq_none up] at found
                cases found
            | some above =>
                rw [parents_of_parent? up] at found
                exact .up passed up (induction above up found)
  · intro nearest
    induction nearest with
    | here isWanted => exact List.find?_cons_of_pos isWanted
    | up passed step rest induction =>
        rw [ancestors, List.find?_cons_of_neg passed, parents_of_parent? step]
        exact induction

/-! ## One step down -/

/-- What is put into a directory, under a name, is directly in it. -/
theorem parent?_join {folder : Path} (notEmpty : folder.text ≠ "") {name : String}
    (named : name ≠ "") (notDot : name ≠ ".") (free : '/' ∉ name.toList) :
    (folder.join ⟨name⟩).parent? = some (ofReversed (dropNoise folder.segments.reverse)) := by
  rcases segments_join notEmpty (isAbsolute_name free) with ⟨front, more, isFolder, joined⟩
  have single : (Text.splitAt '/' name.toList).map String.ofList = [name] := by
    rw [← @segments_of_ne ⟨name⟩ named, segments_name named free]
  have plain : isNoise name front.reverse = false := by simp [isNoise, named, notDot]
  have tidied : dropNoise folder.segments.reverse = dropNoise front.reverse := by
    rcases isFolder with same | slash
    · rw [same]
    · rw [slash, List.reverse_append]
      exact dropNoise_of_isNoise (isNoise_iff.mpr ⟨by simpa using more, Or.inl rfl⟩)
  rw [parent?, parents, joined, single, List.reverse_append, tidied]
  exact congrArg (fun folders => (folders.map ofReversed).head?)
    (enclosing_of_plain plain (Or.inr named))

end Path

end TemplateCheck
