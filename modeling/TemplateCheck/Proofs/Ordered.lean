import TemplateCheck.Uri.Basic

/-! # Look-up in increasing maps

Setting the value of a key changes what is found under the keys that compare
equal to it, and nothing else. This needs no order of the list, only that equal
keys compare alike. Keys that come in increasing order are put one behind the
other. URIs are equal as keys when they have the same text.
-/

namespace TemplateCheck

namespace Ordered

variable {key value : Type} {order : key → key → Ordering}

/-- Keys that compare equal take each other's place in every comparison. -/
structure Lawful (order : key → key → Ordering) : Prop where
  refl : ∀ name, order name name = .eq
  alike : ∀ left right, order left right = .eq → order left = order right

namespace Lawful

theorem symm (lawful : Lawful order) {left right : key} (equal : order left right = .eq) :
    order right left = .eq := by
  rw [← lawful.alike left right equal]
  exact lawful.refl left

theorem trans (lawful : Lawful order) {left middle right : key}
    (first : order left middle = .eq) (second : order middle right = .eq) :
    order left right = .eq := by
  rw [lawful.alike left middle first]
  exact second

end Lawful

theorem find?_put (lawful : Lawful order) (name other : key) (content : value)
    (entries : List (key × value)) :
    find? order other (put order name content entries) =
      if order other name = .eq then some content else find? order other entries := by
  induction entries with
  | nil =>
      cases equal : order other name with
      | eq => simp [put, find?, equal]
      | lt => simp [put, find?, equal]
      | gt => simp [put, find?, equal]
  | cons head tail induction =>
      rcases head with ⟨headName, headContent⟩
      cases position : order name headName with
      | lt =>
          cases equal : order other name with
          | eq => simp [put, position, find?, equal]
          | lt => simp [put, position, find?, equal]
          | gt => simp [put, position, find?, equal]
      | eq =>
          by_cases equal : order other name = .eq
          · have atHead := lawful.trans equal position
            simp [put, position, find?, atHead, equal]
          · have notHead : order other headName ≠ .eq := by
              intro atHead
              exact equal (lawful.trans atHead (lawful.symm position))
            simp [put, position, find?, equal]
      | gt =>
          by_cases equal : order other name = .eq
          · have behind : order other headName = .gt := by
              rw [lawful.alike other name equal]
              exact position
            simp only [put, position, find?, behind, induction, equal, if_true]
          · by_cases atHead : order other headName = .eq
            · simp [put, position, find?, atHead, equal]
            · simp only [put, position, find?, induction, equal, if_false]

theorem mem_put {name : key} {content : value} {entries : List (key × value)}
    {entry : key × value} (member : entry ∈ put order name content entries) :
    entry.2 = content ∨ entry ∈ entries := by
  induction entries with
  | nil =>
      cases List.mem_singleton.mp member
      exact Or.inl rfl
  | cons head tail induction =>
      rcases head with ⟨headName, headContent⟩
      simp only [put] at member
      split at member
      · rcases List.mem_cons.mp member with first | later
        · exact Or.inl (by rw [first])
        · exact Or.inr later
      · rcases List.mem_cons.mp member with first | later
        · exact Or.inl (by rw [first])
        · exact Or.inr (List.mem_cons_of_mem _ later)
      · rcases List.mem_cons.mp member with first | later
        · exact Or.inr (by rw [first]; exact List.mem_cons_self)
        · rcases induction later with new | old
          · exact Or.inl new
          · exact Or.inr (List.mem_cons_of_mem _ old)

/-- A key behind all others is put at the end. -/
theorem put_of_gt {name : key} {content : value} {entries : List (key × value)}
    (behind : ∀ entry ∈ entries, order name entry.1 = .gt) :
    put order name content entries = entries ++ [(name, content)] := by
  induction entries with
  | nil => rfl
  | cons head tail induction =>
      have first := behind head List.mem_cons_self
      have rest := induction fun entry member => behind entry (List.mem_cons_of_mem _ member)
      simp only [put, first, rest, List.cons_append]

/-- Entries in increasing order of their keys are put one behind the other. -/
theorem foldl_put_of_pairwise [Std.OrientedCmp order] {entries added : List (key × value)}
    (increasing : (entries ++ added).Pairwise fun left right => order left.1 right.1 = .lt) :
    added.foldl (fun sorted entry => put order entry.1 entry.2 sorted) entries =
      entries ++ added := by
  induction added generalizing entries with
  | nil => simp
  | cons next rest induction =>
      have behind : ∀ entry ∈ entries, order next.1 entry.1 = .gt := by
        intro entry member
        have before := (List.pairwise_append.mp increasing).2.2 entry member next List.mem_cons_self
        exact Std.OrientedCmp.gt_iff_lt.mpr before
      rw [List.foldl_cons, put_of_gt behind, induction, List.append_assoc, List.singleton_append]
      rw [List.append_assoc, List.singleton_append]
      exact increasing

theorem isSome_find? (name : key) (entries : List (key × value)) :
    (find? order name entries).isSome = entries.any fun entry => order name entry.1 == .eq := by
  induction entries with
  | nil => rfl
  | cons head tail induction =>
      rcases head with ⟨headName, headContent⟩
      cases equal : order name headName with
      | eq => simp [find?, equal]
      | lt => simp [find?, equal, induction]
      | gt => simp [find?, equal, induction]

theorem mem_insert {item : Type} {order : item → item → Ordering} {added other : item}
    {items : List item} (member : other ∈ insert order added items) :
    other = added ∨ other ∈ items := by
  induction items with
  | nil => exact Or.inl (List.mem_singleton.mp member)
  | cons head tail induction =>
      unfold insert at member
      split at member
      · exact List.mem_cons.mp member
      · exact Or.inr member
      · rcases List.mem_cons.mp member with here | later
        · exact Or.inr (here ▸ List.mem_cons_self)
        · rcases induction later with new | old
          · exact Or.inl new
          · exact Or.inr (List.mem_cons_of_mem _ old)

theorem mem_insertAll {item : Type} {order : item → item → Ordering} {added items : List item}
    {other : item} (member : other ∈ insertAll order added items) :
    other ∈ added ∨ other ∈ items := by
  induction added generalizing items with
  | nil => exact Or.inr member
  | cons first rest induction =>
      rcases induction member with later | earlier
      · exact Or.inl (List.mem_cons_of_mem _ later)
      · rcases mem_insert earlier with new | old
        · exact Or.inl (new ▸ List.mem_cons_self)
        · exact Or.inr old

end Ordered

namespace Uri

theorem same_iff {left right : Uri} : left.same right = true ↔ left.text = right.text := by
  simp [same]

theorem same_refl (uri : Uri) : uri.same uri = true :=
  same_iff.mpr rfl

theorem same_comm (left right : Uri) : left.same right = right.same left := by
  simp [same, Bool.beq_comm]

theorem same_symm {left right : Uri} (same : left.same right = true) : right.same left = true :=
  (same_comm right left).trans same

theorem same_trans {left middle right : Uri} (first : left.same middle = true)
    (second : middle.same right = true) : left.same right = true :=
  same_iff.mpr ((same_iff.mp first).trans (same_iff.mp second))

theorem compare_eq_iff {left right : Uri} : compare left right = .eq ↔ left.same right = true := by
  rw [same_iff]
  exact Std.LawfulEqOrd.compare_eq_iff_eq

theorem lawful_compare : Ordered.Lawful compare where
  refl := fun uri => compare_eq_iff.mpr (same_refl uri)
  alike := by
    intro left right equal
    have sameText := same_iff.mp (compare_eq_iff.mp equal)
    funext other
    simp [compare, sameText]

theorem find?_put {value : Type} (name other : Uri) (content : value)
    (entries : List (Uri × value)) :
    Ordered.find? compare other (Ordered.put compare name content entries) =
      if other.same name = true then some content else Ordered.find? compare other entries := by
  simp only [Ordered.find?_put lawful_compare, compare_eq_iff]

end Uri

end TemplateCheck
