import Mathlib.Data.List.DropRight
import TemplateCheck.Text.Blank

/-! # Trimming and cutting

Trimming takes blanks off both ends, so it never reaches past a character that is not
blank. A text can be cut at such a character before it is trimmed or after, and the
trimmed pieces are the same.
-/

namespace TemplateCheck.Text

/-! ## Cutting -/

theorem cutAtFirst_eq_some_iff {separator : Char} {text before after : List Char} :
    cutAtFirst separator text = some (before, after) ↔
      text = before ++ separator :: after ∧ separator ∉ before := by
  induction text generalizing before with
  | nil => simp [cutAtFirst]
  | cons character rest induction =>
      by_cases isSeparator : character = separator
      · subst isSeparator
        rw [cutAtFirst, if_pos rfl]
        constructor
        · intro cut
          cases cut
          exact ⟨rfl, List.not_mem_nil⟩
        · rintro ⟨split, notBefore⟩
          cases before with
          | nil =>
              cases split
              rfl
          | cons first others =>
              cases split
              exact absurd List.mem_cons_self notBefore
      · rw [cutAtFirst, if_neg isSeparator]
        constructor
        · intro cut
          rcases Option.map_eq_some_iff.mp cut with ⟨⟨front, back⟩, found, equal⟩
          cases equal
          rcases induction.mp found with ⟨split, notFront⟩
          rw [split]
          exact ⟨rfl, List.not_mem_cons_of_ne_of_not_mem (Ne.symm isSeparator) notFront⟩
        · rintro ⟨split, notBefore⟩
          cases before with
          | nil =>
              cases split
              exact absurd rfl isSeparator
          | cons first others =>
              cases split
              rw [induction.mpr ⟨rfl, fun member => notBefore (List.mem_cons_of_mem _ member)⟩]
              rfl

theorem cutAtFirst_eq_none_iff {separator : Char} {text : List Char} :
    cutAtFirst separator text = none ↔ separator ∉ text := by
  induction text with
  | nil => simp [cutAtFirst]
  | cons character rest induction =>
      by_cases isSeparator : character = separator
      · simp [cutAtFirst, isSeparator]
      · have different : separator ≠ character := Ne.symm isSeparator
        simp [cutAtFirst, isSeparator, induction, different]

/-! ## Trimming -/

theorem trimChars_eq (text : List Char) :
    trimChars text = (text.dropWhile isBlank).rdropWhile isBlank := rfl

theorem rdropWhile_append (front back : List Char) :
    (front ++ back).rdropWhile isBlank =
      if back.rdropWhile isBlank = [] then front.rdropWhile isBlank
      else front ++ back.rdropWhile isBlank := by
  simp only [List.rdropWhile, List.reverse_append, List.dropWhile_append, List.isEmpty_iff,
    List.reverse_eq_nil_iff]
  split
  · rfl
  · rw [List.reverse_append, List.reverse_reverse]

theorem rdropWhile_cons_of_visible {character : Char} (visible : isBlank character = false)
    (rest : List Char) :
    (character :: rest).rdropWhile isBlank = character :: rest.rdropWhile isBlank := by
  rw [← List.singleton_append, rdropWhile_append, List.rdropWhile_singleton, visible,
    List.singleton_append]
  split
  · next none => rw [none, if_neg Bool.false_ne_true]
  · rfl

theorem trimChars_of_blank {character : Char} (blank : isBlank character = true)
    (rest : List Char) : trimChars (character :: rest) = trimChars rest := by
  rw [trimChars_eq, List.dropWhile_cons_of_pos blank, trimChars_eq]

theorem trimChars_of_visible {character : Char} (visible : isBlank character = false)
    (rest : List Char) :
    trimChars (character :: rest) = character :: rest.rdropWhile isBlank := by
  have stays : ¬ isBlank character = true := by simp [visible]
  rw [trimChars_eq, List.dropWhile_cons_of_neg stays, rdropWhile_cons_of_visible visible]

theorem trimChars_dropWhile (text : List Char) :
    trimChars (text.dropWhile isBlank) = trimChars text := by
  rw [trimChars_eq, List.dropWhile_idempotent, trimChars_eq]

theorem trimChars_rdropWhile (text : List Char) :
    trimChars (text.rdropWhile isBlank) = trimChars text := by
  induction text with
  | nil => rfl
  | cons character rest induction =>
      cases blank : isBlank character with
      | true =>
          rw [trimChars_of_blank blank, ← induction, ← List.singleton_append, rdropWhile_append,
            List.rdropWhile_singleton, if_pos blank]
          split
          · next none => rw [none]
          · rw [List.singleton_append, trimChars_of_blank blank]
      | false =>
          rw [rdropWhile_cons_of_visible blank, trimChars_of_visible blank,
            trimChars_of_visible blank, List.rdropWhile_idempotent]

/-- Trimming does not reach past a character that is not blank. -/
theorem trimChars_around {separator : Char} (visible : isBlank separator = false)
    (before after : List Char) :
    trimChars (before ++ separator :: after) =
      before.dropWhile isBlank ++ separator :: after.rdropWhile isBlank := by
  have stays : ¬ isBlank separator = true := by simp [visible]
  rw [trimChars_eq, List.dropWhile_append, List.dropWhile_cons_of_neg stays]
  split
  · next none =>
      rw [rdropWhile_cons_of_visible visible, List.isEmpty_iff.mp none, List.nil_append]
  · rw [rdropWhile_append, rdropWhile_cons_of_visible visible, if_neg (List.cons_ne_nil _ _)]

theorem mem_of_mem_trimChars {text : List Char} {character : Char}
    (member : character ∈ trimChars text) : character ∈ text :=
  (List.dropWhile_sublist isBlank).mem ((List.rdropWhile_prefix isBlank _).sublist.mem member)

end TemplateCheck.Text
