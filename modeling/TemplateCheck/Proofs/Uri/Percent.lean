import TemplateCheck.Proofs.Text.Utf8
import TemplateCheck.Uri.Basic

/-! # Percent-encoding

An escape decodes to the byte that it was made from, and a character that is written as it is
decodes to itself, so encoded text decodes to the bytes of the text as long as `%` is among the
escaped characters. An escaped character stands nowhere in encoded text, unless escapes are
written with it: the segments of a path can be told apart again.
-/

namespace TemplateCheck.Percent

theorem hexValue?_hexDigit :
    ∀ value < 16, Json.hexValue? (hexDigit value) = some value ∧ (hexDigit value).toNat < 0x80 := by
  decide

/-- A character that is not a control and has one byte is that byte. -/
theorem ofNat_toNat_ofNat {character : Char} (small : character.toNat < 0x80) :
    Char.ofNat (UInt8.ofNat character.toNat).toNat = character := by
  rw [Text.Utf8.toNat_ofNat (by omega), Char.ofNat_toNat]

theorem encodeChar_of_small {character : Char} (small : character.toNat < 0x80) :
    Text.Utf8.encodeChar character = [UInt8.ofNat character.toNat] := by
  simp [Text.Utf8.encodeChar, small]

/-! ## Escapes -/

theorem decodeAfter_escapeByte (byte : UInt8) (rest : List UInt8) :
    decodeAfter 0 (Text.Utf8.encodeChars (escapeByte byte) ++ rest) =
      byte :: decodeAfter 0 rest := by
  have high : byte.toNat / 16 < 16 := by
    have small := byte.toNat_lt
    omega
  rcases hexValue?_hexDigit _ high with ⟨readHigh, smallHigh⟩
  rcases hexValue?_hexDigit _ (Nat.mod_lt byte.toNat (by decide : 0 < 16)) with
    ⟨readLow, smallLow⟩
  have written : Text.Utf8.encodeChars (escapeByte byte) =
      [0x25, UInt8.ofNat (hexDigit (byte.toNat / 16)).toNat,
        UInt8.ofNat (hexDigit (byte.toNat % 16)).toNat] := by
    simp only [escapeByte, Text.Utf8.encodeChars, List.flatMap_cons, List.flatMap_nil,
      encodeChar_of_small smallHigh, encodeChar_of_small smallLow]
    rfl
  have whole : byte.toNat / 16 * 16 + byte.toNat % 16 = byte.toNat := by omega
  have read : escapedByte? (UInt8.ofNat (hexDigit (byte.toNat / 16)).toNat ::
      UInt8.ofNat (hexDigit (byte.toNat % 16)).toNat :: rest) = some byte := by
    simp only [escapedByte?, ofNat_toNat_ofNat smallHigh, ofNat_toNat_ofNat smallLow, readHigh,
      readLow, whole, Option.bind_eq_bind, Option.bind_some, Option.pure_def, UInt8.ofNat_toNat]
  rw [written]
  simp only [List.cons_append, List.nil_append, decodeAfter, if_true, read]

theorem decodeAfter_escapes (bytes rest : List UInt8) :
    decodeAfter 0 (Text.Utf8.encodeChars (bytes.flatMap escapeByte) ++ rest) =
      bytes ++ decodeAfter 0 rest := by
  induction bytes with
  | nil => rfl
  | cons byte bytes induction =>
      rw [List.flatMap_cons, Text.Utf8.encodeChars_append, List.append_assoc,
        decodeAfter_escapeByte, induction, List.cons_append]

/-! ## Encoded text -/

variable {escaped : List Char}

theorem decodeAfter_encodeChar (percent : '%' ∈ escaped) (character : Char) (rest : List UInt8) :
    decodeAfter 0 (Text.Utf8.encodeChars (encodeChar escaped character) ++ rest) =
      Text.Utf8.encodeChar character ++ decodeAfter 0 rest := by
  unfold encodeChar
  split
  · exact decodeAfter_escapes _ rest
  · next plain =>
      simp only [Bool.or_eq_true, decide_eq_true_eq, List.contains_iff_mem, not_or] at plain
      rcases plain with ⟨⟨-, printable⟩, notEscaped⟩
      have small : character.toNat < 0x80 := by omega
      have notPercent : UInt8.ofNat character.toNat ≠ 0x25 := by
        intro isPercent
        rw [← ofNat_toNat_ofNat small, isPercent] at notEscaped
        exact notEscaped percent
      simp [Text.Utf8.encodeChars, encodeChar_of_small small, decodeAfter, notPercent]

/-- Encoded text decodes to the bytes of the text. -/
theorem decode_encode (percent : '%' ∈ escaped) (characters : List Char) :
    decode (Text.Utf8.encodeChars (encode escaped characters)) =
      Text.Utf8.encodeChars characters := by
  unfold decode
  induction characters with
  | nil => rfl
  | cons character rest induction =>
      rw [encode, List.flatMap_cons, Text.Utf8.encodeChars_append, decodeAfter_encodeChar percent,
        Text.Utf8.encodeChars_cons]
      exact congrArg _ induction

/-- An escaped character that no escape is written with is not in encoded text. -/
theorem not_mem_encode {character : Char} (isEscaped : character ∈ escaped)
    (noPercent : character ≠ '%') (noDigit : ∀ value < 16, character ≠ hexDigit value)
    (characters : List Char) : character ∉ encode escaped characters := by
  intro member
  rcases List.mem_flatMap.mp member with ⟨other, -, inChar⟩
  unfold encodeChar at inChar
  split at inChar
  · rcases List.mem_flatMap.mp inChar with ⟨byte, -, inEscape⟩
    have small := byte.toNat_lt
    simp only [escapeByte, List.mem_cons, List.not_mem_nil, or_false] at inEscape
    rcases inEscape with isPercent | isHigh | isLow
    · exact noPercent isPercent
    · exact noDigit _ (by omega) isHigh
    · exact noDigit _ (by omega) isLow
  · next plain =>
      rw [List.mem_singleton.mp inChar] at isEscaped
      simp [isEscaped] at plain

end TemplateCheck.Percent
