import TemplateCheck.Proofs.Ordered

/-! # Increasing lists stay increasing

Elements and keys that are added to an increasing list go to their place, so the list
stays increasing, and an increasing list is determined by what it holds. If the comparison
takes different elements for equal, as that of paths does with two spellings, the one that
came first stands for all of them.
-/

namespace TemplateCheck.Ordered

section Items

variable {item : Type} {order : item → item → Ordering}

/-- Every element comes before all those behind it. -/
def Increasing (order : item → item → Ordering) (items : List item) : Prop :=
  items.Pairwise fun left right => order left right = .lt

variable [Std.TransCmp order]

theorem Increasing.insert {items : List item} (increasing : Increasing order items)
    (added : item) : Increasing order (insert order added items) := by
  induction items with
  | nil => exact List.pairwise_singleton _ _
  | cons head tail induction =>
      rcases List.pairwise_cons.mp increasing with ⟨first, rest⟩
      unfold Ordered.insert
      split
      · next before =>
          refine .cons ?_ increasing
          intro other member
          rcases List.mem_cons.mp member with here | later
          · exact here ▸ before
          · exact Std.TransCmp.lt_trans before (first other later)
      · exact increasing
      · next behind =>
          refine .cons ?_ (induction rest)
          intro other member
          rcases mem_insert member with new | old
          · exact new ▸ Std.OrientedCmp.gt_iff_lt.mp behind
          · exact first other old

theorem Increasing.insertAll {items : List item} (increasing : Increasing order items)
    (added : List item) : Increasing order (insertAll order added items) := by
  induction added generalizing items with
  | nil => exact increasing
  | cons first rest induction => exact induction (increasing.insert first)

/-- What is taken for equal to the new element is there afterwards, and nothing is lost. -/
theorem exists_mem_insert (added other : item) (items : List item) :
    (∃ own ∈ insert order added items, order own other = .eq) ↔
      order added other = .eq ∨ ∃ own ∈ items, order own other = .eq := by
  induction items with
  | nil => simp [insert]
  | cons head tail induction =>
      unfold insert
      split
      · simp
      · next equal =>
          -- The element that is there already stands for the new one.
          simp only [List.mem_cons, exists_eq_or_imp, Std.TransCmp.congr_left equal, or_self_left]
      · simp only [List.mem_cons, exists_eq_or_imp, induction, or_left_comm]

theorem exists_mem_insertAll (added : List item) (other : item) (items : List item) :
    (∃ own ∈ insertAll order added items, order own other = .eq) ↔
      (∃ own ∈ added, order own other = .eq) ∨ ∃ own ∈ items, order own other = .eq := by
  induction added generalizing items with
  | nil => simp [insertAll]
  | cons first rest induction =>
      have later := induction (insert order first items)
      rw [exists_mem_insert] at later
      simp only [insertAll, List.foldl_cons] at later ⊢
      rw [later]
      simp only [List.mem_cons, exists_eq_or_imp, or_assoc, or_left_comm]

theorem Increasing.nodup {items : List item} (increasing : Increasing order items) :
    items.Nodup := by
  refine increasing.imp ?_
  rintro left right before rfl
  have equal : order left left = .eq := Std.ReflCmp.compare_self
  rw [equal] at before
  cases before

/-- An increasing list is determined by its members. -/
theorem Increasing.eq_of_mem_iff {left right : List item} (leftIncreasing : Increasing order left)
    (rightIncreasing : Increasing order right)
    (same : ∀ item, item ∈ left ↔ item ∈ right) : left = right := by
  have permuted : left.Perm right :=
    (List.perm_ext_iff_of_nodup leftIncreasing.nodup rightIncreasing.nodup).mpr same
  refine permuted.eq_of_pairwise ?_ leftIncreasing rightIncreasing
  intro first second _ _ before after
  rw [Std.OrientedCmp.gt_iff_lt.mpr before] at after
  cases after

variable [Std.LawfulEqCmp order]

theorem mem_insert_iff {added other : item} {items : List item} :
    other ∈ insert order added items ↔ other = added ∨ other ∈ items := by
  have equal : (∃ own ∈ insert order added items, order own other = .eq) ↔ _ :=
    exists_mem_insert added other items
  simp only [Std.LawfulEqCmp.compare_eq_iff_eq, exists_eq_right] at equal
  rw [equal, eq_comm]

end Items

section Entries

variable {key value : Type} {order : key → key → Ordering}

/-- The keys of every entry come before all those behind it. -/
def IncreasingKeys (order : key → key → Ordering) (entries : List (key × value)) : Prop :=
  entries.Pairwise fun left right => order left.1 right.1 = .lt

/-- The keys after an entry was put: no new ones but the given one. -/
theorem order_of_mem_put {name : key} {content : value} {entries : List (key × value)}
    {entry : key × value} (member : entry ∈ put order name content entries) :
    entry.1 = name ∨ ∃ old ∈ entries, entry.1 = old.1 := by
  induction entries with
  | nil =>
      cases List.mem_singleton.mp member
      exact Or.inl rfl
  | cons head tail induction =>
      unfold put at member
      split at member
      · rcases List.mem_cons.mp member with first | later
        · exact Or.inl (by rw [first])
        · exact Or.inr ⟨entry, later, rfl⟩
      · rcases List.mem_cons.mp member with first | later
        · exact Or.inr ⟨head, List.mem_cons_self, by rw [first]⟩
        · exact Or.inr ⟨entry, List.mem_cons_of_mem _ later, rfl⟩
      · rcases List.mem_cons.mp member with first | later
        · exact Or.inr ⟨head, List.mem_cons_self, by rw [first]⟩
        · rcases induction later with new | ⟨old, inTail, same⟩
          · exact Or.inl new
          · exact Or.inr ⟨old, List.mem_cons_of_mem _ inTail, same⟩

theorem erase_sublist (name : key) (entries : List (key × value)) :
    (erase order name entries).Sublist entries := by
  induction entries with
  | nil => exact .slnil
  | cons head tail induction =>
      unfold erase
      split
      · exact List.sublist_cons_self head tail
      · exact induction.cons_cons head

theorem IncreasingKeys.erase {entries : List (key × value)}
    (increasing : IncreasingKeys order entries) (name : key) :
    IncreasingKeys order (erase order name entries) :=
  increasing.sublist (erase_sublist name entries)

variable [Std.TransCmp order]

theorem lawful : Lawful order where
  refl := fun name => Std.ReflCmp.compare_self
  alike := by
    intro left right equal
    funext other
    exact Std.TransCmp.congr_left equal

theorem IncreasingKeys.put {entries : List (key × value)}
    (increasing : IncreasingKeys order entries) (name : key) (content : value) :
    IncreasingKeys order (put order name content entries) := by
  induction entries with
  | nil => exact List.pairwise_singleton _ _
  | cons head tail induction =>
      rcases List.pairwise_cons.mp increasing with ⟨first, rest⟩
      unfold Ordered.put
      split
      · next before =>
          refine .cons ?_ increasing
          intro other member
          rcases List.mem_cons.mp member with here | later
          · exact here ▸ before
          · exact Std.TransCmp.lt_trans before (first other later)
      · exact .cons first rest
      · next behind =>
          refine .cons ?_ (induction rest)
          intro other member
          rcases order_of_mem_put member with new | ⟨old, inTail, same⟩
          · exact new ▸ Std.OrientedCmp.gt_iff_lt.mp behind
          · exact same ▸ first old inTail

theorem find?_congr {name other : key} (equal : order name other = .eq)
    (entries : List (key × value)) : find? order name entries = find? order other entries := by
  induction entries with
  | nil => rfl
  | cons head tail induction => simp only [find?, Std.TransCmp.congr_left equal, induction]

/-- What is found under a key is the entry whose key is taken for equal to it. -/
theorem IncreasingKeys.find?_eq_some_iff {entries : List (key × value)}
    (increasing : IncreasingKeys order entries) {name : key} {content : value} :
    find? order name entries = some content ↔
      ∃ own, (own, content) ∈ entries ∧ order name own = .eq := by
  induction entries with
  | nil => simp [find?]
  | cons head tail induction =>
      rcases head with ⟨headName, headContent⟩
      rcases List.pairwise_cons.mp increasing with ⟨first, rest⟩
      cases position : order name headName with
      | eq =>
          have onlyHead : ∀ own, (own, content) ∈ tail → order name own ≠ .eq := by
            intro own member equal
            have before := first (own, content) member
            rw [← Std.TransCmp.congr_left position, equal] at before
            cases before
          simp only [find?, position, Option.some.injEq, List.mem_cons, Prod.mk.injEq]
          constructor
          · intro same
            exact ⟨headName, Or.inl ⟨rfl, same.symm⟩, position⟩
          · rintro ⟨own, ⟨rfl, same⟩ | later, equal⟩
            · exact same.symm
            · exact absurd equal (onlyHead own later)
      | lt => simp [find?, position, induction rest, or_and_right, exists_or]
      | gt => simp [find?, position, induction rest, or_and_right, exists_or]

/-- An erased key is gone, and all others are where they were. -/
theorem IncreasingKeys.find?_erase {entries : List (key × value)}
    (increasing : IncreasingKeys order entries) (name other : key) :
    find? order other (Ordered.erase order name entries) =
      if order other name = .eq then none else find? order other entries := by
  induction entries with
  | nil => simp [Ordered.erase, find?]
  | cons head tail induction =>
      rcases head with ⟨headName, headContent⟩
      rcases List.pairwise_cons.mp increasing with ⟨first, rest⟩
      by_cases atHead : order name headName = .eq
      · by_cases equal : order other name = .eq
        · -- All that is behind the erased entry has a greater key.
          have gone : find? order other tail = none := by
            rw [Option.eq_none_iff_forall_ne_some]
            intro content found
            rcases (IncreasingKeys.find?_eq_some_iff rest).mp found with ⟨own, member, same⟩
            have before := first (own, content) member
            rw [← Std.TransCmp.congr_left atHead, ← Std.TransCmp.congr_left equal, same] at before
            cases before
          simp [Ordered.erase, atHead, equal, gone]
        · have notHead : order other headName ≠ .eq := by
            rw [← Std.TransCmp.congr_right atHead]
            exact equal
          simp only [Ordered.erase, atHead, equal, find?, if_false]
      · by_cases otherHead : order other headName = .eq
        · have apart : order other name ≠ .eq := by
            intro equal
            rw [Std.TransCmp.congr_left equal] at otherHead
            exact atHead otherHead
          simp [Ordered.erase, find?, otherHead, apart]
        · simp [Ordered.erase, find?, induction rest]

end Entries

end TemplateCheck.Ordered

namespace TemplateCheck.Uri

instance : Std.TransCmp compare :=
  inferInstanceAs (Std.TransCmp (compareOn text))

end TemplateCheck.Uri
