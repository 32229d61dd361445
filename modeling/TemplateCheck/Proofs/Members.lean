import TemplateCheck.Toml.Syntax

/-! # Members with names

A list of members that gives every name once is determined, for look-ups, by what it holds,
whatever the order. Members that are added under a new name or set under an old one keep it so.
-/

namespace TemplateCheck.Members

variable {content : Type} {members others : List (String × content)} {name : String}

def Once (members : List (String × content)) : Prop :=
  (members.map Prod.fst).Nodup

instance : Decidable (Once members) :=
  inferInstanceAs (Decidable (members.map Prod.fst).Nodup)

theorem mem_of_lookup {value : content} (found : members.lookup name = some value) :
    (name, value) ∈ members := by
  rcases List.lookup_eq_some_iff.mp found with ⟨front, back, rfl, -⟩
  exact List.mem_append_right _ List.mem_cons_self

theorem lookup_eq_none_iff : members.lookup name = none ↔ name ∉ members.map Prod.fst := by
  rw [List.lookup_eq_none_iff, List.mem_map]
  constructor
  · rintro differs ⟨member, isMember, rfl⟩
    simpa using differs member isMember
  · intro absent member isMember
    simpa using fun same => absent ⟨member, isMember, same.symm⟩

theorem Once.lookup_of_mem (once : Once members) {value : content}
    (member : (name, value) ∈ members) : members.lookup name = some value := by
  rcases List.append_of_mem member with ⟨front, back, rfl⟩
  refine List.lookup_eq_some_iff.mpr ⟨front, back, rfl, ?_⟩
  intro other inFront
  rw [Once, List.map_append, List.map_cons, List.nodup_append] at once
  have differs := once.2.2 other.1 (List.mem_map_of_mem inFront) name List.mem_cons_self
  simpa using Ne.symm differs

theorem Once.lookup_eq_some_iff (once : Once members) {value : content} :
    members.lookup name = some value ↔ (name, value) ∈ members :=
  ⟨mem_of_lookup, once.lookup_of_mem⟩

theorem Once.perm (once : Once members) (permuted : members.Perm others) : Once others :=
  (permuted.map Prod.fst).nodup once

theorem Once.lookup_perm (once : Once members) (permuted : members.Perm others) (name : String) :
    members.lookup name = others.lookup name := by
  ext value
  rw [once.lookup_eq_some_iff, (once.perm permuted).lookup_eq_some_iff, permuted.mem_iff]

theorem Once.concat (once : Once members) (absent : members.lookup name = none)
    (value : content) : Once (members ++ [(name, value)]) := by
  rw [Once, List.map_append, List.nodup_append]
  refine ⟨once, by simp, ?_⟩
  rintro other member last isLast rfl
  rw [List.mem_singleton.mp isLast] at member
  exact lookup_eq_none_iff.mp absent member

theorem map_setMember (value : content) (present : name ∈ members.map Prod.fst) :
    (Toml.setMember name value members).map Prod.fst = members.map Prod.fst := by
  induction members with
  | nil => cases present
  | cons head rest induction =>
      unfold Toml.setMember
      split
      · next same => simp [same]
      · next differs =>
          rcases List.mem_cons.mp present with here | later
          · exact absurd here.symm differs
          · simp [induction later]

theorem Once.setMember (once : Once members) {old : content}
    (found : members.lookup name = some old) (value : content) :
    Once (Toml.setMember name value members) := by
  rw [Once, map_setMember value (List.mem_map_of_mem (mem_of_lookup found))]
  exact once

theorem Once.filter (once : Once members) (test : String × content → Bool) :
    Once (members.filter test) :=
  once.sublist (List.filter_sublist.map Prod.fst)

end TemplateCheck.Members
