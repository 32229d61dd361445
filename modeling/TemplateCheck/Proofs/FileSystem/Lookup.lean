import TemplateCheck.Proofs.FileSystem.Tree
import TemplateCheck.Proofs.Package.Nearest

/-! # Looking up by components

A look-up goes through a path from left to right: what comes of its first segments does not
depend on those behind. Segments that say nothing can only stop it, so a look-up that leads
somewhere leads there by the components of the path alone. Below a directory it goes by the
names in the tree, as long as there is no link among them.
-/

namespace TemplateCheck

namespace Path

/-- How a component is written. -/
def Component.segment : Component → String
  | .root => ""
  | .current => "."
  | .parent => ".."
  | .name text => text

/-- Segments with some left out that say nothing. -/
inductive Thins : List String → List String → Prop
  | nil : Thins [] []
  | keep (segment : String) {long short : List String} (rest : Thins long short) :
      Thins (segment :: long) (segment :: short)
  | drop {segment : String} {long short : List String} (silent : segment = "" ∨ segment = ".")
      (rest : Thins long short) : Thins (segment :: long) short

theorem Thins.refl (segments : List String) : Thins segments segments := by
  induction segments with
  | nil => exact .nil
  | cons segment rest induction => exact .keep segment induction

theorem Thins.append {front long short : List String} (thins : Thins long short) :
    Thins (front ++ long) (front ++ short) := by
  induction front with
  | nil => exact thins
  | cons segment rest induction => exact .keep segment induction

theorem segment_firstComponentOf (segment : String) :
    (firstComponentOf segment).segment = segment := by
  unfold firstComponentOf
  split
  · next empty => exact empty.symm
  · split
    · next dot => exact dot.symm
    · split
      · next up => exact up.symm
      · rfl

theorem segment_componentOf? {segment : String} {component : Component}
    (meant : componentOf? segment = some component) : component.segment = segment := by
  unfold componentOf? at meant
  split at meant
  · cases meant
  · split at meant
    · next up =>
        cases meant
        exact up.symm
    · cases meant
      rfl

theorem silent_of_componentOf? {segment : String} (silent : componentOf? segment = none) :
    segment = "" ∨ segment = "." := by
  unfold componentOf? at silent
  split at silent
  · next meant => simpa using meant
  · split at silent <;> cases silent

theorem thins_filterMap (segments : List String) :
    Thins segments ((segments.filterMap componentOf?).map Component.segment) := by
  induction segments with
  | nil => exact .nil
  | cons segment rest induction =>
      cases meant : componentOf? segment with
      | none =>
          rw [List.filterMap_cons_none meant]
          exact .drop (silent_of_componentOf? meant) induction
      | some component =>
          rw [List.filterMap_cons_some meant, List.map_cons, segment_componentOf? meant]
          exact .keep segment induction

theorem thins_segments (path : Path) :
    Thins path.segments (path.components.map Component.segment) := by
  unfold components
  split
  · next none => rw [none]; exact .nil
  · next first rest segments =>
      rw [segments, List.map_cons, segment_firstComponentOf]
      exact .keep first (thins_filterMap rest)

theorem isAbsolute_iff_components {path : Path} :
    path.isAbsolute = true ↔ path.components.head? = some .root := by
  constructor
  · intro absolute
    rcases segments_of_isAbsolute absolute with ⟨rest, segments⟩
    rw [components_eq, segments]
    rfl
  · intro head
    rcases List.head?_eq_some_iff.mp head with ⟨rest, components⟩
    exact isAbsolute_of_components components

theorem components_ne_nil {path : Path} (some : path.text ≠ "") : path.components ≠ [] := by
  rw [components_eq, segments_of_ne some]
  cases pieces : Text.splitAt '/' path.text.toList with
  | nil => exact absurd pieces (Text.splitAt_ne_nil _ _)
  | cons first rest => simp [meaning]

theorem isAbsolute_of_prefix {path folder : Path} (some : folder.text ≠ "")
    (inside : folder.components <+: path.components) : path.isAbsolute = folder.isAbsolute := by
  rcases inside with ⟨more, whole⟩
  rcases List.exists_cons_of_ne_nil (components_ne_nil some) with ⟨first, rest, components⟩
  rw [Bool.eq_iff_iff, isAbsolute_iff_components, isAbsolute_iff_components, ← whole, components]
  rfl

theorem isAbsolute_join_eq {folder rest : Path} (some : folder.text ≠ "")
    (relative : rest.isAbsolute = false) : (folder.join rest).isAbsolute = folder.isAbsolute :=
  isAbsolute_of_prefix some (isUnder_iff.mp (isUnder_join folder relative))

end Path

namespace FileSystem

variable {files : FileSystem}

/-! ## One segment -/

/-- What one segment comes to: a fault, another place, or a link with its own segments. -/
inductive Onward where
  | stops (fault : FileFault)
  | goes (place : Place)
  | jumps (place : Place) (segments : List String)

def onward (files : FileSystem) (place : Place) (segment : String) : Onward :=
  match files.at? place with
  | some (.directory entries) =>
      if segment = "" || segment = "." then .goes place
      else if segment = ".." then .goes place.tail
      else if greatestNameLength < segment.utf8ByteSize then .stops .nameTooLong
      else
        match entries.lookup segment with
        | none => .stops .notFound
        | some (.link target) =>
            if target.isEmpty then .stops .notFound
            else
              .jumps (if (Path.mk target).isAbsolute then [] else place) (Path.mk target).segments
        | some _ => .goes (segment :: place)
  | _ => .stops .notDirectory

theorem walk_cons (jump : Place → List String → Except FileFault Place) (place : Place)
    (segment : String) (rest : List String) :
    files.walk jump place (segment :: rest) =
      match files.onward place segment with
      | .stops fault => .error fault
      | .goes next => files.walk jump next rest
      | .jumps next segments => jump next (segments ++ rest) := by
  rw [walk, onward]
  cases files.at? place with
  | none => rfl
  | some entry =>
      cases entry with
      | file content => rfl
      | link target => rfl
      | directory entries =>
          dsimp only
          split
          · rfl
          · split
            · rfl
            · split
              · rfl
              · cases entries.lookup segment with
                | none => rfl
                | some child =>
                    cases child with
                    | file content => rfl
                    | directory inner => rfl
                    | link target =>
                        dsimp only
                        split <;> rfl

/-- A look-up goes on only from a directory. -/
theorem directory_of_onward {place : Place} {segment : String}
    (goesOn : ∀ fault, files.onward place segment ≠ .stops fault) :
    ∃ entries, files.at? place = some (.directory entries) := by
  unfold onward at goesOn
  split at goesOn
  · next entries here => exact ⟨entries, here⟩
  · exact absurd rfl (goesOn _)

theorem onward_of_silent {place : Place} {entries : List (String × Entry)}
    (here : files.at? place = some (.directory entries)) {segment : String}
    (silent : segment = "" ∨ segment = ".") : files.onward place segment = .goes place := by
  have meant : (decide (segment = "") || decide (segment = ".")) = true := by simpa using silent
  simp only [onward, here, meant, if_true]

/-! ## Segments that say nothing -/

theorem walk_thins {jump : Place → List String → Except FileFault Place} {reached : Place}
    (jumps : ∀ place long short, Path.Thins long short → jump place long = .ok reached →
      jump place short = .ok reached)
    {long short : List String} (thins : Path.Thins long short) {place : Place}
    (came : files.walk jump place long = .ok reached) :
    files.walk jump place short = .ok reached := by
  induction thins generalizing place with
  | nil => exact came
  | keep segment rest induction =>
      rw [walk_cons] at came ⊢
      cases onward : files.onward place segment with
      | stops fault => simp [onward] at came
      | goes next => simpa only [onward] using induction (by simpa only [onward] using came)
      | jumps next segments =>
          simpa only [onward] using jumps _ _ _ rest.append (by simpa only [onward] using came)
  | @drop segment _ _ silent rest induction =>
      rw [walk_cons] at came
      have goesOn : ∀ fault, files.onward place segment ≠ .stops fault := by
        intro fault stops
        simp [stops] at came
      rcases directory_of_onward goesOn with ⟨entries, here⟩
      rw [onward_of_silent here silent] at came
      exact induction came

theorem follow_thins {long short : List String} (thins : Path.Thins long short) {links : Nat}
    {place reached : Place} (came : files.follow links place long = .ok reached) :
    files.follow links place short = .ok reached := by
  induction links generalizing place long short with
  | zero => exact walk_thins (fun _ _ _ _ jumped => by cases jumped) thins came
  | succ links induction =>
      rw [follow] at came ⊢
      refine walk_thins ?_ thins came
      intro next long short thins jumped
      exact induction thins jumped

/-! ## From left to right -/

/-- What comes of the first segments does not depend on those behind. -/
theorem follow_append (links : Nat) (place : Place) (front : List String) :
    (∃ fault, ∀ back, files.follow links place (front ++ back) = .error fault) ∨
      ∃ middle left, ∀ back,
        files.follow links place (front ++ back) = files.follow left middle back := by
  induction links generalizing place front with
  | zero =>
      induction front generalizing place with
      | nil => exact Or.inr ⟨place, 0, fun back => rfl⟩
      | cons segment rest induction =>
          simp only [List.cons_append, follow, walk_cons]
          cases files.onward place segment with
          | stops fault => exact Or.inl ⟨fault, fun back => rfl⟩
          | goes next => exact induction next
          | jumps next segments => exact Or.inl ⟨.tooManyLinks, fun back => rfl⟩
  | succ links higher =>
      induction front generalizing place with
      | nil => exact Or.inr ⟨place, links + 1, fun back => rfl⟩
      | cons segment rest induction =>
          simp only [List.cons_append, follow, walk_cons]
          cases files.onward place segment with
          | stops fault => exact Or.inl ⟨fault, fun back => rfl⟩
          | goes next => exact induction next
          | jumps next segments =>
              simpa only [List.append_assoc] using higher next (segments ++ rest)

theorem follow_nil (links : Nat) (place : Place) : files.follow links place [] = .ok place := by
  cases links <;> rfl

/-- A look-up that leads somewhere comes past the place that its first segments lead to. -/
theorem follow_split {links : Nat} {place reached : Place} {front back : List String}
    (came : files.follow links place (front ++ back) = .ok reached) :
    ∃ middle left, files.follow links place front = .ok middle ∧
      files.follow left middle back = .ok reached := by
  rcases @follow_append files links place front with ⟨fault, fails⟩ | ⟨middle, left, goesOn⟩
  · rw [fails] at came
    cases came
  · refine ⟨middle, left, ?_, (goesOn back).symm.trans came⟩
    simpa only [List.append_nil, follow_nil] using goesOn []

theorem follow_of_front {links : Nat} {place middle : Place} {front : List String}
    (came : files.follow links place front = .ok middle) :
    ∃ left, ∀ back, files.follow links place (front ++ back) = files.follow left middle back := by
  rcases @follow_append files links place front with ⟨fault, fails⟩ | ⟨other, left, goesOn⟩
  · have failed := fails []
    rw [List.append_nil, came] at failed
    cases failed
  · have same := goesOn []
    rw [List.append_nil, came, follow_nil] at same
    cases same
    exact ⟨left, goesOn⟩

theorem follow_cons (links : Nat) (place : Place) (segment : String) (rest : List String) :
    files.follow links place (segment :: rest) =
      match files.onward place segment with
      | .stops fault => .error fault
      | .goes next => files.follow links next rest
      | .jumps next segments =>
          match links with
          | 0 => .error .tooManyLinks
          | left + 1 => files.follow left next (segments ++ rest) := by
  cases links with
  | zero => simp only [follow, walk_cons]
  | succ left => simp only [follow, walk_cons]

theorem follow_of_goes {place next : Place} {segment : String}
    (goes : files.onward place segment = .goes next) (links : Nat) (rest : List String) :
    files.follow links place (segment :: rest) = files.follow links next rest := by
  rw [follow_cons, goes]

theorem goesOn_of_follow {links : Nat} {place reached : Place} {segment : String}
    {rest : List String} (came : files.follow links place (segment :: rest) = .ok reached) :
    ∀ fault, files.onward place segment ≠ .stops fault := by
  intro fault stops
  simp [follow_cons, stops] at came

theorem directory_of_follow {links : Nat} {place reached : Place} {segment : String}
    {rest : List String} (came : files.follow links place (segment :: rest) = .ok reached) :
    ∃ entries, files.at? place = some (.directory entries) :=
  directory_of_onward (goesOn_of_follow came)

theorem follow_silent {place : Place} {entries : List (String × Entry)}
    (here : files.at? place = some (.directory entries)) (links : Nat) {noise : List String}
    (silent : ∀ segment ∈ noise, segment = "" ∨ segment = ".") (rest : List String) :
    files.follow links place (noise ++ rest) = files.follow links place rest := by
  induction noise with
  | nil => rfl
  | cons segment others induction =>
      rcases List.forall_mem_cons.mp silent with ⟨first, more⟩
      rw [List.cons_append, follow_of_goes (onward_of_silent here first)]
      exact induction more

/-! ## Names in the tree -/

theorem onward_eq_goes {place : Place} {entries : List (String × Entry)} {name : String}
    {child : Entry} (isName : IsName name) (here : files.at? place = some (.directory entries))
    (short : name.utf8ByteSize ≤ greatestNameLength) (found : entries.lookup name = some child)
    (noLink : child.isLink = false) : files.onward place name = .goes (name :: place) := by
  simp only [onward, here, isName.notEmpty, isName.notDot, isName.notUp, found,
    Nat.not_lt.mpr short, decide_false, Bool.or_self, Bool.false_eq_true, if_false]
  cases child with
  | file content => rfl
  | directory inner => rfl
  | link target => cases noLink

/-- A name that leads on is short enough, and the directory has it. -/
theorem found_of_onward {place : Place} {entries : List (String × Entry)} {name : String}
    (isName : IsName name) (here : files.at? place = some (.directory entries))
    (goesOn : ∀ fault, files.onward place name ≠ .stops fault) :
    name.utf8ByteSize ≤ greatestNameLength ∧ ∃ child, entries.lookup name = some child := by
  simp only [onward, here, isName.notEmpty, isName.notDot, isName.notUp, decide_false,
    Bool.or_self, Bool.false_eq_true, if_false] at goesOn
  split at goesOn
  · exact absurd rfl (goesOn _)
  · next short =>
      cases found : entries.lookup name with
      | none => simp [found] at goesOn
      | some child => exact ⟨Nat.not_lt.mp short, child, rfl⟩

theorem at?_child {place : Place} {entries : List (String × Entry)} {name : String} {child : Entry}
    (here : files.at? place = some (.directory entries))
    (found : entries.lookup name = some child) : files.at? (name :: place) = some child := by
  have step := @at?_append files place [name]
  rw [here] at step
  simpa only [List.reverse_singleton, List.singleton_append, Option.bind_some, Entry.at?,
    Entry.child?, found] using step

/-- Names lead a look-up to where they lead in the tree. -/
theorem follow_names {links : Nat} {place reached : Place} {names : List String}
    (areNames : ∀ name ∈ names, IsName name) {found : Entry}
    (there : ((files.at? place).bind fun entry => entry.at? names) = some found)
    (noLink : found.isLink = false)
    (came : files.follow links place names = .ok reached) :
    reached = names.reverse ++ place := by
  induction names generalizing place with
  | nil =>
      rw [follow_nil] at came
      exact (Except.ok.inj came).symm
  | cons name rest induction =>
      rcases Option.bind_eq_some_iff.mp there with ⟨entry, here, below⟩
      rcases Entry.eq_directory_of_at? below with ⟨entries, child, rfl, isChild, inside⟩
      rcases List.forall_mem_cons.mp areNames with ⟨isName, others⟩
      have childNoLink : child.isLink = false := by
        cases rest with
        | nil =>
            cases inside
            exact noLink
        | cons next more =>
            rcases Entry.eq_directory_of_at? inside with ⟨inner, _, rfl, _⟩
            rfl
      have short := (found_of_onward isName here (goesOn_of_follow came)).1
      rw [follow_of_goes (onward_eq_goes isName here short isChild childNoLink)] at came
      have next : ((files.at? (name :: place)).bind fun entry => entry.at? rest) = some found := by
        rw [at?_child here isChild]
        exact inside
      rw [induction others next came, List.reverse_cons, List.append_assoc]
      rfl

/-! ## Paths -/

theorem startOf_congr {left right : Path} (same : left.isAbsolute = right.isAbsolute) :
    files.startOf left = files.startOf right := by
  simp only [startOf, same]

/-- A path that leads somewhere leads there by its components. -/
theorem follow_components {path : Path} {place : Place}
    (resolved : files.resolve path = .ok place) :
    files.follow greatestLinkCount (files.startOf path)
      (path.components.map Path.Component.segment) = .ok place :=
  follow_thins path.thins_segments (resolve_eq_ok.mp resolved).2.2.2

/-- A path below another leads to what is there in the tree, if it leads anywhere. -/
theorem entry_below {outer inner : Path} {tree found : Entry} {names : List String} {place : Place}
    (isOuter : files.entry outer = .ok tree) (areNames : ∀ name ∈ names, IsName name)
    (there : tree.at? names = some found) (noLink : found.isLink = false)
    (parts : inner.components = outer.components ++ names.map .name)
    (resolved : files.resolve inner = .ok place) : files.entry inner = .ok found := by
  rcases entry_eq_ok.mp isOuter with ⟨outerPlace, outerResolved, here⟩
  have notEmpty : outer.text ≠ "" := (resolve_eq_ok.mp outerResolved).2.1
  have sameStart : files.startOf inner = files.startOf outer :=
    startOf_congr (Path.isAbsolute_of_prefix notEmpty ⟨_, parts.symm⟩)
  have written : inner.components.map Path.Component.segment =
      outer.components.map Path.Component.segment ++ names := by
    rw [parts, List.map_append, List.map_map]
    exact congrArg _ (List.map_id names)
  have came := follow_components resolved
  rw [sameStart, written] at came
  rcases follow_split came with ⟨middle, left, first, second⟩
  cases first.symm.trans (follow_components outerResolved)
  have below : ((files.at? outerPlace).bind fun entry => entry.at? names) = some found := by
    rw [here]
    exact there
  have reached := follow_names areNames below noLink second
  exact entry_eq_ok.mpr ⟨place, resolved, by rw [reached, at?_append]; exact below⟩

/-- What is put below a folder and leads somewhere leads there through the folder. -/
theorem resolve_join {folder rest : Path} {place : Place} (notEmpty : folder.text ≠ "")
    (relative : rest.isAbsolute = false) (meant : rest.segments.filterMap Path.componentOf? ≠ [])
    (resolved : files.resolve (folder.join rest) = .ok place) :
    ∃ middle left entries, files.resolve folder = .ok middle ∧
      files.at? middle = some (.directory entries) ∧
      files.follow left middle ((Text.splitAt '/' rest.text.toList).map String.ofList) =
        .ok place := by
  rcases resolve_eq_ok.mp resolved with ⟨free, -, short, followed⟩
  rcases Path.segments_join notEmpty relative with ⟨front, -, isFolder, joined⟩
  rw [joined, startOf_congr (Path.isAbsolute_join_eq notEmpty relative)] at followed
  rcases follow_split followed with ⟨middle, left, first, second⟩
  have isDirectory : ∃ entries, files.at? middle = some (.directory entries) := by
    cases pieces : (Text.splitAt '/' rest.text.toList).map String.ofList with
    | nil =>
        rw [← Path.filterMap_segments, pieces] at meant
        exact absurd rfl meant
    | cons segment others =>
        rw [pieces] at second
        exact directory_of_follow second
  rcases isDirectory with ⟨entries, here⟩
  refine ⟨middle, left, entries, ?_, here, second⟩
  rcases Path.text_join folder relative with ⟨between, text⟩
  refine resolve_eq_ok.mpr ⟨?_, notEmpty, ?_, ?_⟩
  · intro character member
    exact free character (by simp [text, member])
  · have longer : (folder.join rest).text.utf8ByteSize =
        folder.text.utf8ByteSize + between.utf8ByteSize + rest.text.utf8ByteSize := by
      rw [text, String.utf8ByteSize_append, String.utf8ByteSize_append]
    omega
  · rcases isFolder with same | slash
    · rwa [same]
    · rcases follow_of_front first with ⟨more, goesOn⟩
      rw [slash, goesOn, follow_of_goes (onward_of_silent here (Or.inl rfl)), follow_nil]

/-- What is put below a directory is looked up from its place. -/
theorem follow_through {folder rest : Path} {middle : Place}
    (resolved : files.resolve folder = .ok middle) (relative : rest.isAbsolute = false) :
    ∃ left, files.follow greatestLinkCount (files.startOf (folder.join rest))
        (folder.join rest).segments =
      files.follow left middle ((Text.splitAt '/' rest.text.toList).map String.ofList) := by
  rcases resolve_eq_ok.mp resolved with ⟨-, notEmpty, -, followed⟩
  rcases Path.segments_join notEmpty relative with ⟨front, -, isFolder, joined⟩
  rw [joined, startOf_congr (Path.isAbsolute_join_eq notEmpty relative)]
  have came : files.follow greatestLinkCount (files.startOf folder) front = .ok middle := by
    rcases isFolder with same | slash
    · rwa [← same]
    · rw [slash] at followed
      rcases follow_split followed with ⟨other, left, first, second⟩
      rcases directory_of_follow second with ⟨inner, isDirectory⟩
      rw [follow_of_goes (onward_of_silent isDirectory (Or.inl rfl)), follow_nil] at second
      cases second
      exact first
  rcases follow_of_front came with ⟨left, goesOn⟩
  exact ⟨left, goesOn _⟩

end FileSystem

end TemplateCheck
