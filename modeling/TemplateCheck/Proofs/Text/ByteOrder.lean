import TemplateCheck.Proofs.Ordered
import TemplateCheck.Proofs.Text.Utf8

/-! # The order of bytes

Texts are ordered as their bytes are. A character with a greater number has a greater first
byte, or the same first byte and greater bits in those that follow. In particular URIs are
ordered by the bytes that they are written with.
-/

namespace TemplateCheck

namespace Text.Utf8

theorem cons_lt_cons_iff {first second : Nat} (firstSmall : first < 0x100)
    (secondSmall : second < 0x100) {before after : List UInt8} :
    UInt8.ofNat first :: before < UInt8.ofNat second :: after ↔
      first < second ∨ first = second ∧ before < after := by
  rw [List.cons_lt_cons_iff, UInt8.lt_iff_toNat_lt, ← UInt8.toNat_inj, toNat_ofNat firstSmall,
    toNat_ofNat secondSmall]

/-- The bytes of a character, by the range that its number is in. -/
theorem encodeChar_cases (character : Char) :
    ∃ code, character.toNat = code ∧
      (code < 0x80 ∧ encodeChar character = [UInt8.ofNat code] ∨
        0x80 ≤ code ∧ code < 0x800 ∧ encodeChar character =
          [UInt8.ofNat (0xC0 + code / 0x40), UInt8.ofNat (0x80 + code % 0x40)] ∨
        0x800 ≤ code ∧ code < 0x10000 ∧ encodeChar character =
          [UInt8.ofNat (0xE0 + code / 0x1000), UInt8.ofNat (0x80 + code / 0x40 % 0x40),
            UInt8.ofNat (0x80 + code % 0x40)] ∨
        0x10000 ≤ code ∧ code < 0x110000 ∧ encodeChar character =
          [UInt8.ofNat (0xF0 + code / 0x40000), UInt8.ofNat (0x80 + code / 0x1000 % 0x40),
            UInt8.ofNat (0x80 + code / 0x40 % 0x40), UInt8.ofNat (0x80 + code % 0x40)]) := by
  have bound : character.toNat < 0x110000 := by
    rcases noSurrogate character with low | ⟨_, high⟩ <;> omega
  refine ⟨character.toNat, rfl, ?_⟩
  unfold encodeChar
  dsimp only
  split
  · next small => exact Or.inl ⟨small, rfl⟩
  · split
    · next large small => exact Or.inr (Or.inl ⟨by omega, small, rfl⟩)
    · split
      · next large small => exact Or.inr (Or.inr (Or.inl ⟨by omega, small, rfl⟩))
      · next large => exact Or.inr (Or.inr (Or.inr ⟨by omega, bound, rfl⟩))

/-- The bytes of the greater of two characters are greater, whatever follows. -/
theorem encodeChar_append_lt {left right : Char} (less : left < right)
    (before after : List UInt8) : encodeChar left ++ before < encodeChar right ++ after := by
  rcases encodeChar_cases left with ⟨first, isFirst, leftCases⟩
  rcases encodeChar_cases right with ⟨second, isSecond, rightCases⟩
  have codes : first < second := isFirst ▸ isSecond ▸ less
  rcases leftCases with ⟨small, left⟩ | ⟨low, high, left⟩ | ⟨low, high, left⟩ | ⟨low, high, left⟩ <;>
    rcases rightCases with
      ⟨small', right⟩ | ⟨low', high', right⟩ | ⟨low', high', right⟩ | ⟨low', high', right⟩ <;>
    simp (disch := omega) only [left, right, List.cons_append, List.nil_append, cons_lt_cons_iff] <;>
    omega

theorem encodeChars_lt_of_lt {left right : List Char} (less : left < right) :
    encodeChars left < encodeChars right := by
  induction left generalizing right with
  | nil =>
      cases right with
      | nil => exact absurd less (List.lt_irrefl [])
      | cons second rest =>
          rcases encodeChar_cases second with ⟨code, _, single | two | three | four⟩
          · simp [encodeChars, single.2]
          · simp [encodeChars, two.2.2]
          · simp [encodeChars, three.2.2]
          · simp [encodeChars, four.2.2]
  | cons first others induction =>
      cases right with
      | nil => exact absurd less (List.not_lt_nil _)
      | cons second rest =>
          rw [encodeChars_cons, encodeChars_cons]
          rcases List.cons_lt_cons_iff.mp less with smaller | ⟨rfl, later⟩
          · exact encodeChar_append_lt smaller _ _
          · exact List.append_left_lt (induction later)

/-- Texts are ordered as their bytes are. -/
theorem encode_lt_iff {left right : String} : encode left < encode right ↔ left < right := by
  rw [String.lt_iff]
  constructor
  · intro bytes
    rcases Std.lt_trichotomy left.toList right.toList with less | equal | greater
    · exact less
    · rw [encode, encode, equal] at bytes
      exact absurd bytes (List.lt_irrefl _)
    · exact absurd bytes (List.lt_asymm (encodeChars_lt_of_lt greater))
  · exact encodeChars_lt_of_lt

end Text.Utf8

/-- URIs are ordered by the bytes of their texts. -/
theorem Uri.compare_eq_lt_iff {left right : Uri} :
    compare left right = .lt ↔ Text.Utf8.encode left.text < Text.Utf8.encode right.text := by
  rw [Text.Utf8.encode_lt_iff]
  exact compareOfLessAndEq_eq_lt

end TemplateCheck
