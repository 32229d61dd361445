/-! # What lasts in a history

Of the entries of a history that bring something about, the last one counts, as long as none
behind it takes it back.
-/

namespace TemplateCheck

variable {entry : Type} {makes keeps : entry → Prop} {entries : List entry}

/-- An entry made something, and all later ones keep it. -/
def Lasts (makes keeps : entry → Prop) (entries : List entry) : Prop :=
  ∃ before maker later, entries = before ++ maker :: later ∧ makes maker ∧
    ∀ other ∈ later, keeps other

theorem not_lasts_nil : ¬ Lasts makes keeps [] := by
  rintro ⟨before, maker, later, split, _⟩
  simp at split

theorem lasts_append {last : entry} :
    Lasts makes keeps (entries ++ [last]) ↔
      makes last ∨ Lasts makes keeps entries ∧ keeps last := by
  constructor
  · rintro ⟨before, maker, later, split, made, kept⟩
    rcases List.eq_nil_or_concat later with rfl | ⟨rest, newest, rfl⟩
    · cases (List.append_inj' split rfl).2
      exact Or.inl made
    · rw [List.concat_eq_append] at split kept
      rw [← List.cons_append, ← List.append_assoc] at split
      rcases List.append_inj' split rfl with ⟨rfl, equal⟩
      cases equal
      refine Or.inr ⟨⟨before, maker, rest, rfl, made, ?_⟩, ?_⟩
      · intro other member
        exact kept other (List.mem_append_left _ member)
      · exact kept last (List.mem_append_right _ List.mem_cons_self)
  · rintro (made | ⟨⟨before, maker, later, rfl, made, kept⟩, keeping⟩)
    · exact ⟨entries, last, [], rfl, made, by simp⟩
    · refine ⟨before, maker, later ++ [last], by simp, made, ?_⟩
      intro other member
      rcases List.mem_append.mp member with earlier | newest
      · exact kept other earlier
      · exact List.mem_singleton.mp newest ▸ keeping

end TemplateCheck
