import TemplateCheck.Roots.Cache

/-! # Bookkeeping of roots

What a cache knows of roots, cached or evicted, is a list of entries. It is kept
well when no root has two entries, every handle is filed under its own root, and
every handle that somebody holds has an entry. Requests and evictions keep it
so, and a request then finds the one handle of its root.
-/

namespace TemplateCheck

namespace Path

theorem same_iff {left right : Path} :
    left.same right = true ↔ left.components = right.components := by
  simp [same]

theorem same_refl (path : Path) : path.same path = true :=
  same_iff.mpr rfl

theorem same_comm (left right : Path) : left.same right = right.same left := by
  simp [same, Bool.beq_comm]

theorem same_symm {left right : Path} (same : left.same right = true) :
    right.same left = true :=
  (same_comm right left).trans same

theorem same_trans {left middle right : Path} (first : left.same middle = true)
    (second : middle.same right = true) : left.same right = true :=
  same_iff.mpr ((same_iff.mp first).trans (same_iff.mp second))

end Path

namespace Roots

/-- No root has two entries. -/
def Distinct (entries : List (Path × Nat)) : Prop :=
  entries.Pairwise fun left right => left.1.same right.1 = false

namespace Distinct

theorem perm {entries others : List (Path × Nat)} (distinct : Distinct entries)
    (perm : entries.Perm others) : Distinct others := by
  apply List.Pairwise.perm distinct perm
  intro left right apart
  exact (Path.same_comm right.1 left.1).trans apart

theorem eq_of_same {entries : List (Path × Nat)} (distinct : Distinct entries)
    {left right : Path × Nat} (leftMem : left ∈ entries) (rightMem : right ∈ entries)
    (same : left.1.same right.1 = true) : left = right := by
  induction entries with
  | nil => cases leftMem
  | cons head tail induction =>
      have parts := List.pairwise_cons.mp distinct
      rcases List.mem_cons.mp leftMem with leftHead | leftTail
      · rcases List.mem_cons.mp rightMem with rightHead | rightTail
        · exact leftHead.trans rightHead.symm
        · subst leftHead
          exact absurd same (by simp [parts.1 right rightTail])
      · rcases List.mem_cons.mp rightMem with rightHead | rightTail
        · subst rightHead
          exact absurd (Path.same_symm same) (by simp [parts.1 left leftTail])
        · exact induction parts.2 leftTail rightTail

end Distinct

/-! Looking up and taking out by components. -/

theorem mem_without {root : Path} {entries : List (Path × Nat)} {entry : Path × Nat} :
    entry ∈ without root entries ↔ entry ∈ entries ∧ entry.1.same root = false := by
  simp [without]

theorem without_sublist (root : Path) (entries : List (Path × Nat)) :
    (without root entries).Sublist entries :=
  List.filter_sublist

theorem lookup?_eq_some {root : Path} {entries : List (Path × Nat)} {number : Nat}
    (found : lookup? root entries = some number) :
    ∃ entry ∈ entries, entry.1.same root = true ∧ entry.2 = number := by
  rcases Option.map_eq_some_iff.mp found with ⟨entry, first, equal⟩
  have same := List.find?_some first
  exact ⟨entry, List.mem_of_find?_eq_some first, same, equal⟩

theorem lookup?_eq_none {root : Path} {entries : List (Path × Nat)} :
    lookup? root entries = none ↔ ∀ entry ∈ entries, entry.1.same root = false := by
  simp [lookup?]

theorem lookup?_of_mem {root : Path} {entries : List (Path × Nat)} {entry : Path × Nat}
    (distinct : Distinct entries) (member : entry ∈ entries)
    (same : entry.1.same root = true) : lookup? root entries = some entry.2 := by
  cases found : lookup? root entries with
  | none =>
      have apart := lookup?_eq_none.mp found entry member
      simp [apart] at same
  | some number =>
      rcases lookup?_eq_some found with ⟨other, otherMem, otherSame, rfl⟩
      have equal := distinct.eq_of_same otherMem member
        (Path.same_trans otherSame (Path.same_symm same))
      rw [equal]

/-- Entries that are kept well, for those who hold handles and the roots of the
handles. -/
structure Keeps (held : Nat → Bool) (rootOf : Nat → Option Path)
    (entries : List (Path × Nat)) : Prop where
  distinct : Distinct entries
  rooted : ∀ entry ∈ entries, ∃ root, rootOf entry.2 = some root ∧ root.same entry.1 = true
  remembered : ∀ number, held number = true → ∃ entry ∈ entries, entry.2 = number

namespace Keeps

variable {held fewer : Nat → Bool} {rootOf more : Nat → Option Path}
  {entries others : List (Path × Nat)}

theorem empty (rootOf : Nat → Option Path) : Keeps (fun _ => false) rootOf [] where
  distinct := List.Pairwise.nil
  rooted := by simp
  remembered := by simp

theorem perm (keeps : Keeps held rootOf entries) (perm : entries.Perm others) :
    Keeps held rootOf others where
  distinct := keeps.distinct.perm perm
  rooted := fun entry member => keeps.rooted entry (perm.mem_iff.mpr member)
  remembered := fun number holds => by
    rcases keeps.remembered number holds with ⟨entry, member, equal⟩
    exact ⟨entry, perm.mem_iff.mp member, equal⟩

/-- Handles may be let go. -/
theorem letGo (keeps : Keeps held rootOf entries)
    (fewerHeld : ∀ number, fewer number = true → held number = true) :
    Keeps fewer rootOf entries :=
  { keeps with remembered := fun number holds => keeps.remembered number (fewerHeld number holds) }

/-- New handles may be made. -/
theorem extend (keeps : Keeps held rootOf entries)
    (extends_ : ∀ number root, rootOf number = some root → more number = some root) :
    Keeps held more entries :=
  { keeps with
    rooted := fun entry member => by
      rcases keeps.rooted entry member with ⟨root, found, same⟩
      exact ⟨root, extends_ _ _ found, same⟩ }

/-- Entries of handles that nobody holds may be forgotten. -/
theorem forget (keeps : Keeps held rootOf entries) (fewerEntries : others.Sublist entries)
    (kept : ∀ entry ∈ entries, held entry.2 = true → entry ∈ others) :
    Keeps held rootOf others where
  distinct := keeps.distinct.sublist fewerEntries
  rooted := fun entry member => keeps.rooted entry (fewerEntries.subset member)
  remembered := fun number holds => by
    rcases keeps.remembered number holds with ⟨entry, member, rfl⟩
    exact ⟨entry, kept entry member holds, rfl⟩

/-- A root gets a new entry in place of its old one. Afterwards its handle may be
held by one more. -/
theorem replace (keeps : Keeps held rootOf entries) (others : List (Path × Nat)) (root : Path)
    (number : Nat)
    (rest : others.Sublist entries) (apart : ∀ entry ∈ others, entry.1.same root = false)
    (kept : ∀ entry ∈ entries, held entry.2 = true → entry ∈ others ∨ entry.2 = number)
    (rooted : ∃ own, rootOf number = some own ∧ own.same root = true) :
    Keeps (fun other => held other || other == number) rootOf ((root, number) :: others) where
  distinct := by
    refine List.pairwise_cons.mpr ⟨fun entry member => ?_, keeps.distinct.sublist rest⟩
    exact (Path.same_comm root entry.1).trans (apart entry member)
  rooted := fun entry member => by
    rcases List.mem_cons.mp member with rfl | member
    · exact rooted
    · exact keeps.rooted entry (rest.subset member)
  remembered := fun other holds => by
    by_cases equal : other = number
    · exact ⟨(root, number), List.mem_cons_self, equal.symm⟩
    · have heldBefore : held other = true := by simpa [equal] using holds
      rcases keeps.remembered other heldBefore with ⟨entry, member, rfl⟩
      rcases kept entry member heldBefore with inRest | same
      · exact ⟨entry, List.mem_cons_of_mem _ inRest, rfl⟩
      · exact absurd same equal

/-- A handle has one entry. -/
theorem eq_of_number (keeps : Keeps held rootOf entries) (left right : Path × Nat)
    (leftMem : left ∈ entries) (rightMem : right ∈ entries) (equal : left.2 = right.2) :
    left = right := by
  rcases keeps.rooted left leftMem with ⟨root, found, same⟩
  rcases keeps.rooted right rightMem with ⟨other, otherFound, otherSame⟩
  rw [equal, otherFound] at found
  cases found
  exact keeps.distinct.eq_of_same leftMem rightMem
    (Path.same_trans (Path.same_symm same) otherSame)

end Keeps

/-- Moving the entry of a root to the front changes only the order. -/
theorem promote_perm {root : Path} {entries : List (Path × Nat)} {entry : Path × Nat}
    (distinct : Distinct entries)
    (found : entries.find? (fun other => other.1.same root) = some entry) :
    entries.Perm (entry :: without root entries) := by
  induction entries with
  | nil => simp at found
  | cons head tail induction =>
      have parts := List.pairwise_cons.mp distinct
      cases same : head.1.same root with
      | true =>
          have equal : head = entry := by simpa [List.find?_cons, same] using found
          subst equal
          have apart : without root tail = tail := by
            apply List.filter_eq_self.mpr
            intro other member
            have different := parts.1 other member
            rw [Bool.not_eq_true']
            cases both : other.1.same root with
            | false => rfl
            | true =>
                have equal := Path.same_trans same (Path.same_symm both)
                simp [different] at equal
          have unchanged : without root (head :: tail) = without root tail := by
            simp [without, same]
          rw [unchanged, apart]
      | false =>
          have foundLater : tail.find? (fun other => other.1.same root) = some entry := by
            simpa [List.find?_cons, same] using found
          have kept : without root (head :: tail) = head :: without root tail := by
            simp [without, same]
          rw [kept]
          exact ((induction parts.2 foundLater).cons head).trans (List.Perm.swap entry head _)

namespace Cache

variable {held : Nat → Bool} {rootOf : Nat → Option Path} {cache : Cache}

/-- All that is known of roots. -/
def known (cache : Cache) : List (Path × Nat) := cache.cached ++ cache.evicted

theorem keeps_evict (keeps : Keeps held rootOf cache.known) (root : Path) :
    Keeps held rootOf (cache.evict held root).1.known := by
  unfold evict
  cases found : lookup? root cache.cached with
  | none => exact keeps
  | some number =>
      rcases lookup?_eq_some found with ⟨entry, member, same, rfl⟩
      have inKnown : entry ∈ cache.known := List.mem_append_left _ member
      have replaced := keeps.replace
        (without root cache.cached ++
          without root (cache.evicted.filter fun other => held other.2))
        root entry.2
        ((without_sublist root _).append ((without_sublist root _).trans List.filter_sublist))
        (by
          intro other otherMem
          rcases List.mem_append.mp otherMem with otherMem | otherMem
          · exact (mem_without.mp otherMem).2
          · exact (mem_without.mp otherMem).2)
        (by
          intro other otherMem holds
          cases both : other.1.same root with
          | true =>
              have equal := keeps.distinct.eq_of_same otherMem inKnown
                (Path.same_trans both (Path.same_symm same))
              exact Or.inr (congrArg Prod.snd equal)
          | false =>
              left
              rcases List.mem_append.mp otherMem with cached | evicted
              · exact List.mem_append_left _ (mem_without.mpr ⟨cached, both⟩)
              · have remembered : other ∈ cache.evicted.filter fun entry => held entry.2 :=
                  List.mem_filter.mpr ⟨evicted, holds⟩
                exact List.mem_append_right _ (mem_without.mpr ⟨remembered, both⟩))
        (by
          rcases keeps.rooted entry inKnown with ⟨own, foundOwn, sameOwn⟩
          exact ⟨own, foundOwn, Path.same_trans sameOwn same⟩)
      refine (replaced.perm List.perm_middle.symm).letGo ?_
      intro other holds
      simp [holds]

theorem keeps_evictUnder (keeps : Keeps held rootOf cache.known) (folder : Path) :
    Keeps held rootOf (cache.evictUnder held folder).1.known := by
  unfold evictUnder
  generalize (cache.cached.map Prod.fst).filter (fun root => root.isUnder folder) = doomed
  induction doomed generalizing cache with
  | nil => exact keeps
  | cons root rest induction => exact induction (keeps_evict keeps root)

/-- What is known once a root was put in front, before any other is evicted. -/
private theorem keeps_front (keeps : Keeps held rootOf cache.known) {root : Path}
    {fresh number : Nat}
    (freshRooted : number = fresh → ∃ own, rootOf fresh = some own ∧ own.same root = true)
    (missing : ∀ entry ∈ cache.cached, entry.1.same root = false)
    (chosen : ((lookup? root cache.evicted).filter held).getD fresh = number) :
    Keeps (fun other => held other || other == number) rootOf
      ((root, number) :: (cache.cached ++ without root cache.evicted)) := by
  have evictedDistinct : Distinct cache.evicted := (List.pairwise_append.mp keeps.distinct).2.1
  apply keeps.replace
  · exact (List.Sublist.refl _).append (without_sublist root _)
  · intro entry member
    rcases List.mem_append.mp member with cached | evicted
    · exact missing entry cached
    · exact (mem_without.mp evicted).2
  · intro entry member holds
    rcases List.mem_append.mp member with cached | evicted
    · exact Or.inl (List.mem_append_left _ cached)
    · cases both : entry.1.same root with
      | false => exact Or.inl (List.mem_append_right _ (mem_without.mpr ⟨evicted, both⟩))
      | true =>
          have found := lookup?_of_mem evictedDistinct evicted both
          right
          simpa [found, Option.filter_some, holds] using chosen
  · cases found : (lookup? root cache.evicted).filter held with
    | none =>
        have equal : fresh = number := by simpa [found] using chosen
        exact equal ▸ freshRooted equal.symm
    | some other =>
        have equal : other = number := by simpa [found] using chosen
        subst equal
        rcases Option.filter_eq_some_iff.mp found with ⟨looked, _⟩
        rcases lookup?_eq_some looked with ⟨entry, member, same, rfl⟩
        rcases keeps.rooted entry (List.mem_append_right _ member) with
          ⟨own, foundOwn, sameOwn⟩
        exact ⟨own, foundOwn, Path.same_trans sameOwn same⟩

/-- Evicting the last of the cached roots forgets only what nobody holds. -/
private theorem keeps_retireLast {root : Path} {number : Nat} {cached evicted : List (Path × Nat)}
    (keeps : Keeps (fun other => held other || other == number) rootOf
      ((root, number) :: (cached ++ evicted))) {oldest : Path × Nat}
    (last : ((root, number) :: cached).getLast? = some oldest) :
    Keeps (fun other => held other || other == number) rootOf
      (((root, number) :: cached).dropLast ++
        oldest :: without oldest.1 (evicted.filter fun entry => held entry.2)) := by
  have split : ((root, number) :: cached).dropLast ++ [oldest] = (root, number) :: cached := by
    rcases List.getLast?_eq_some_iff.mp last with ⟨front, equal⟩
    rw [equal, List.dropLast_concat]
  have oldestMem : oldest ∈ (root, number) :: cached := List.mem_of_getLast? last
  have whole : Distinct (((root, number) :: cached) ++ evicted) := keeps.distinct
  have crossing := List.pairwise_append.mp whole
  have layout : ((root, number) :: cached).dropLast ++
        oldest :: without oldest.1 (evicted.filter fun entry => held entry.2) =
      ((root, number) :: cached) ++
        without oldest.1 (evicted.filter fun entry => held entry.2) := by
    rw [List.append_cons, split]
  rw [layout]
  refine keeps.forget
    ((List.Sublist.refl _).append ((without_sublist _ _).trans List.filter_sublist)) ?_
  intro entry member holds
  rcases List.mem_append.mp (show entry ∈ ((root, number) :: cached) ++ evicted from member)
    with front | behind
  · exact List.mem_append_left _ front
  · have notFront : entry.2 ≠ number := by
      intro equal
      have same := keeps.eq_of_number (root, number) entry
        List.mem_cons_self member equal.symm
      have different := crossing.2.2 (root, number) List.mem_cons_self entry behind
      rw [← same] at different
      simp [Path.same_refl] at different
    have heldBefore : held entry.2 = true := by simpa [notFront] using holds
    have different := crossing.2.2 oldest oldestMem entry behind
    apply List.mem_append_right
    refine mem_without.mpr ⟨List.mem_filter.mpr ⟨behind, heldBefore⟩, ?_⟩
    exact (Path.same_comm _ _).trans different

/-- After a request the requested handle may be held by one more. -/
theorem keeps_request (keeps : Keeps held rootOf cache.known) {root : Path} {fresh : Nat}
    (freshRooted : (cache.request held fresh root).2 = fresh →
      ∃ own, rootOf fresh = some own ∧ own.same root = true) :
    Keeps (fun other => held other || other == (cache.request held fresh root).2) rootOf
      (cache.request held fresh root).1.known := by
  unfold request at freshRooted ⊢
  cases found : cache.cached.find? (fun entry => entry.1.same root) with
  | some entry =>
      have cachedDistinct := (List.pairwise_append.mp keeps.distinct).1
      have promoted := keeps.perm ((promote_perm cachedDistinct found).append_right cache.evicted)
      refine { promoted with remembered := ?_ }
      intro other holds
      by_cases equal : other = entry.2
      · exact ⟨entry, List.mem_cons_self, equal.symm⟩
      · exact promoted.remembered other (by simpa [equal] using holds)
  | none =>
      have missing : ∀ entry ∈ cache.cached, entry.1.same root = false := by
        simpa using found
      rw [found] at freshRooted
      have front := keeps_front keeps freshRooted missing rfl
      simp only [insert]
      split
      · exact front
      · split
        · next noLast => simp at noLast
        · next oldest last => exact keeps_retireLast front last

/-- A request gives the fresh handle, or one that is known for the root. -/
theorem request_known (held : Nat → Bool) (cache : Cache) (root : Path) (fresh : Nat) :
    (cache.request held fresh root).2 = fresh ∨
      ∃ entry ∈ cache.known, entry.1.same root = true ∧
        entry.2 = (cache.request held fresh root).2 := by
  unfold request
  cases found : cache.cached.find? (fun other => other.1.same root) with
  | some entry =>
      have same := List.find?_some found
      have cached := List.mem_of_find?_eq_some found
      exact Or.inr ⟨entry, List.mem_append_left _ cached, same, rfl⟩
  | none =>
      cases looked : (lookup? root cache.evicted).filter held with
      | none => exact Or.inl (by simp)
      | some number =>
          rcases Option.filter_eq_some_iff.mp looked with ⟨first, _⟩
          rcases lookup?_eq_some first with ⟨entry, evicted, same, equal⟩
          exact Or.inr ⟨entry, List.mem_append_right _ evicted, same, by simpa using equal⟩

theorem request_of_live (keeps : Keeps held rootOf cache.known) {root : Path} {fresh : Nat}
    {entry : Path × Nat} (member : entry ∈ cache.known) (same : entry.1.same root = true)
    (live : entry ∈ cache.cached ∨ held entry.2 = true) :
    (cache.request held fresh root).2 = entry.2 := by
  unfold request
  cases found : cache.cached.find? (fun other => other.1.same root) with
  | some other =>
      have otherSame := List.find?_some found
      have otherMem : other ∈ cache.known :=
        List.mem_append_left _ (List.mem_of_find?_eq_some found)
      have equal := keeps.distinct.eq_of_same otherMem member
        (Path.same_trans otherSame (Path.same_symm same))
      rw [equal]
  | none =>
      have notCached : entry ∉ cache.cached := by
        intro cached
        have apart := List.find?_eq_none.mp found entry cached
        exact apart same
      have evicted : entry ∈ cache.evicted :=
        (List.mem_append.mp member).resolve_left notCached
      have looked := lookup?_of_mem (List.pairwise_append.mp keeps.distinct).2.1 evicted same
      have holds := live.resolve_left notCached
      simp [looked, Option.filter_some, holds]

theorem request_of_none_live {root : Path} {fresh : Nat}
    (none : ∀ entry ∈ cache.known, entry.1.same root = true →
      entry ∉ cache.cached ∧ held entry.2 = false) :
    (cache.request held fresh root).2 = fresh := by
  unfold request
  cases found : cache.cached.find? (fun other => other.1.same root) with
  | some other =>
      have cached := List.mem_of_find?_eq_some found
      have same := List.find?_some found
      exact absurd cached (none other (List.mem_append_left _ cached) same).1
  | none =>
      cases looked : (lookup? root cache.evicted).filter held with
      | none => simp
      | some number =>
          rcases Option.filter_eq_some_iff.mp looked with ⟨first, holds⟩
          rcases lookup?_eq_some first with ⟨entry, evicted, same, rfl⟩
          have free := (none entry (List.mem_append_right _ evicted) same).2
          simp [free] at holds

end Cache

end Roots

end TemplateCheck
