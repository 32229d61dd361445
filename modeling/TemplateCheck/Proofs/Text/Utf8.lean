import TemplateCheck.Text.Utf8

/-! # Encoded text decodes

A character is a first byte that says how many follow, and bytes that carry six bits
each. What was encoded decodes to itself, what decodes was encoded, and a line feed is
the only character whose bytes hold that of a line feed.
-/

namespace TemplateCheck.Text.Utf8

theorem toNat_ofNat {code : Nat} (small : code < 0x100) : (UInt8.ofNat code).toNat = code := by
  rw [UInt8.toNat_ofNat', Nat.mod_eq_of_lt small]

/-! ## Decoding one character -/

theorem decodeFrom_single {offset code : Nat} {rest : List UInt8} {characters : List Char}
    (small : code < 0x80)
    (tail : decodeFrom (offset + 1) none rest = .ok characters) :
    decodeFrom offset none (UInt8.ofNat code :: rest) = .ok (Char.ofNat code :: characters) := by
  have first : lead (UInt8.ofNat code).toNat = .single (Char.ofNat code) := by
    rw [toNat_ofNat (by omega)]
    simp [lead, small]
  simp only [decodeFrom, first, tail]
  rfl

theorem decodeFrom_opens {offset code : Nat} {rest : List UInt8} {sequence : Sequence}
    (small : code < 0x100) (opens : lead code = .opens sequence) :
    decodeFrom offset none (UInt8.ofNat code :: rest) =
      decodeFrom (offset + 1) (some sequence) rest := by
  simp only [decodeFrom, toNat_ofNat small, opens]

/-- A byte in the range of the next one, before the last. -/
theorem decodeFrom_more {offset bits lowest highest count expected six : Nat} {rest : List UInt8}
    (isSix : six < 0x40) (low : lowest ≤ 0x80 + six) (high : 0x80 + six ≤ highest) :
    decodeFrom offset (some ⟨count, expected + 2, bits, lowest, highest⟩)
        (UInt8.ofNat (0x80 + six) :: rest) =
      decodeFrom (offset + 1)
        (some ⟨count + 1, expected + 1, bits * 0x40 + six, 0x80, 0xBF⟩) rest := by
  have inside : ¬ (0x80 + six < lowest ∨ highest < 0x80 + six) := by omega
  have pushed : Sequence.push ⟨count, expected + 2, bits, lowest, highest⟩ (0x80 + six) =
      .more ⟨count + 1, expected + 1, bits * 0x40 + six, 0x80, 0xBF⟩ := by
    simp [Sequence.push, inside]
  simp only [decodeFrom, toNat_ofNat (show 0x80 + six < 0x100 by omega), pushed]

/-- The last byte of a character. -/
theorem decodeFrom_complete {offset bits lowest highest count six : Nat} {rest : List UInt8}
    {characters : List Char} (isSix : six < 0x40) (low : lowest ≤ 0x80 + six)
    (high : 0x80 + six ≤ highest)
    (tail : decodeFrom (offset + 1) none rest = .ok characters) :
    decodeFrom offset (some ⟨count, 1, bits, lowest, highest⟩)
        (UInt8.ofNat (0x80 + six) :: rest) =
      .ok (Char.ofNat (bits * 0x40 + six) :: characters) := by
  have inside : ¬ (0x80 + six < lowest ∨ highest < 0x80 + six) := by omega
  have pushed : Sequence.push ⟨count, 1, bits, lowest, highest⟩ (0x80 + six) =
      .complete (Char.ofNat (bits * 0x40 + six)) := by
    simp [Sequence.push, inside]
  simp only [decodeFrom, toNat_ofNat (show 0x80 + six < 0x100 by omega), pushed, tail]
  rfl

theorem lead_two {code : Nat} (least : 0x80 ≤ code) (greatest : code < 0x800) :
    lead (0xC0 + code / 0x40) = .opens ⟨1, 1, code / 0x40, 0x80, 0xBF⟩ := by
  have low : ¬ 0xC0 + code / 0x40 < 0xC2 := by omega
  have high : 0xC0 + code / 0x40 < 0xE0 := by omega
  have notSingle : ¬ 0xC0 + code / 0x40 < 0x80 := by omega
  simp [lead, low, high, notSingle]

/-- The second byte of a character is in the range that its first byte sets, so the
range turns away only what no character has. -/
theorem lead_three {code : Nat} (least : 0x800 ≤ code) (greatest : code < 0x10000)
    (noSurrogate : code < 0xD800 ∨ 0xDFFF < code) :
    ∃ lowest highest, lead (0xE0 + code / 0x1000) = .opens ⟨1, 2, code / 0x1000, lowest, highest⟩ ∧
      lowest ≤ 0x80 + code / 0x40 % 0x40 ∧ 0x80 + code / 0x40 % 0x40 ≤ highest := by
  have low : ¬ 0xE0 + code / 0x1000 < 0xE0 := by omega
  have high : 0xE0 + code / 0x1000 < 0xF0 := by omega
  have notSingle : ¬ 0xE0 + code / 0x1000 < 0x80 := by omega
  have notInvalid : ¬ 0xE0 + code / 0x1000 < 0xC2 := by omega
  by_cases isLeast : code / 0x1000 = 0
  · exact ⟨0xA0, 0xBF, by simp [lead, isLeast], by omega, by omega⟩
  · by_cases isSurrogate : code / 0x1000 = 0xD
    · exact ⟨0x80, 0x9F, by simp [lead, isSurrogate], by omega, by omega⟩
    · have notSurrogate : 0xE0 + code / 0x1000 ≠ 0xED := by omega
      exact ⟨0x80, 0xBF, by simp [lead, low, high, notSingle, notInvalid, isLeast, notSurrogate],
        by omega, by omega⟩

theorem lead_four {code : Nat} (least : 0x10000 ≤ code) (greatest : code < 0x110000) :
    ∃ lowest highest, lead (0xF0 + code / 0x40000) =
        .opens ⟨1, 3, code / 0x40000, lowest, highest⟩ ∧
      lowest ≤ 0x80 + code / 0x1000 % 0x40 ∧ 0x80 + code / 0x1000 % 0x40 ≤ highest := by
  have bound : code / 0x40000 = 0 ∨ code / 0x40000 = 1 ∨ code / 0x40000 = 2 ∨
      code / 0x40000 = 3 ∨ code / 0x40000 = 4 := by omega
  rcases bound with zero | one | two | three | four
  · exact ⟨0x90, 0xBF, by simp [lead, zero], by omega, by omega⟩
  · exact ⟨0x80, 0xBF, by simp [lead, one], by omega, by omega⟩
  · exact ⟨0x80, 0xBF, by simp [lead, two], by omega, by omega⟩
  · exact ⟨0x80, 0xBF, by simp [lead, three], by omega, by omega⟩
  · exact ⟨0x80, 0x8F, by simp [lead, four], by omega, by omega⟩

theorem noSurrogate (character : Char) :
    character.toNat < 0xD800 ∨ 0xDFFF < character.toNat ∧ character.toNat < 0x110000 :=
  character.valid

theorem decodeFrom_encodeChar (character : Char) {rest : List UInt8} {characters : List Char}
    (tail : ∀ offset, decodeFrom offset none rest = .ok characters) (offset : Nat) :
    decodeFrom offset none (encodeChar character ++ rest) = .ok (character :: characters) := by
  have valid := noSurrogate character
  have isCode := Char.ofNat_toNat character
  unfold encodeChar
  generalize character.toNat = code at valid isCode
  dsimp only
  -- One case for each number of bytes that a character can have.
  split
  · next single =>
      rw [List.singleton_append, decodeFrom_single single (tail _), isCode]
  · next notSingle =>
    split
    · next two =>
        have opens := lead_two (by omega) two
        rw [List.cons_append, List.singleton_append, decodeFrom_opens (by omega) opens,
          decodeFrom_complete (by omega) (by omega) (by omega) (tail _)]
        rw [show code / 0x40 * 0x40 + code % 0x40 = code by omega, isCode]
    · next notTwo =>
      split
      · next three =>
          rcases lead_three (by omega) three (by omega) with ⟨lowest, highest, opens, low, high⟩
          rw [List.cons_append, List.cons_append, List.singleton_append,
            decodeFrom_opens (by omega) opens, decodeFrom_more (by omega) low high,
            decodeFrom_complete (by omega) (by omega) (by omega) (tail _)]
          rw [show (code / 0x1000 * 0x40 + code / 0x40 % 0x40) * 0x40 + code % 0x40 = code by omega,
            isCode]
      · next notThree =>
          rcases lead_four (show 0x10000 ≤ code by omega) (by omega) with ⟨lowest, highest, opens, low, high⟩
          rw [List.cons_append, List.cons_append, List.cons_append, List.singleton_append,
            decodeFrom_opens (by omega) opens, decodeFrom_more (by omega) low high,
            decodeFrom_more (by omega) (by omega) (by omega),
            decodeFrom_complete (by omega) (by omega) (by omega) (tail _)]
          rw [show ((code / 0x40000 * 0x40 + code / 0x1000 % 0x40) * 0x40 + code / 0x40 % 0x40) *
            0x40 + code % 0x40 = code by omega, isCode]

/-! ## Text -/

theorem encodeChars_cons (character : Char) (rest : List Char) :
    encodeChars (character :: rest) = encodeChar character ++ encodeChars rest :=
  List.flatMap_cons

theorem encodeChars_append (left right : List Char) :
    encodeChars (left ++ right) = encodeChars left ++ encodeChars right :=
  List.flatMap_append

/-- Encoded text decodes to itself. -/
theorem decodeChars_encodeChars (characters : List Char) :
    decodeChars (encodeChars characters) = .ok characters := by
  have everywhere : ∀ offset, decodeFrom offset none (encodeChars characters) = .ok characters := by
    induction characters with
    | nil => exact fun offset => rfl
    | cons character rest induction =>
        intro offset
        rw [encodeChars_cons]
        exact decodeFrom_encodeChar character induction offset
  exact everywhere 0

/-- A byte that is not all of its character has its highest bit. -/
theorem high_of_mem_encodeChar {character : Char} {byte : UInt8}
    (notSingle : ¬ character.toNat < 0x80) (member : byte ∈ encodeChar character) :
    0x80 ≤ byte.toNat := by
  have valid := noSurrogate character
  unfold encodeChar at member
  generalize character.toNat = code at valid notSingle member
  dsimp only at member
  rw [if_neg notSingle] at member
  split at member
  · simp only [List.mem_cons, List.not_mem_nil, or_false] at member
    rcases member with rfl | rfl
    all_goals rw [toNat_ofNat (by omega)]; omega
  · split at member
    · simp only [List.mem_cons, List.not_mem_nil, or_false] at member
      rcases member with rfl | rfl | rfl
      all_goals rw [toNat_ofNat (by omega)]; omega
    · simp only [List.mem_cons, List.not_mem_nil, or_false] at member
      rcases member with rfl | rfl | rfl | rfl
      all_goals rw [toNat_ofNat (by omega)]; omega

/-- A byte without its highest bit is all of its character. -/
theorem eq_of_mem_encodeChar {byte : UInt8} (small : byte.toNat < 0x80) {character : Char}
    (member : byte ∈ encodeChar character) : character = Char.ofNat byte.toNat := by
  by_cases single : character.toNat < 0x80
  · simp only [encodeChar, single, if_true] at member
    have code := congrArg UInt8.toNat (List.mem_singleton.mp member)
    rw [toNat_ofNat (by omega)] at code
    rw [code, Char.ofNat_toNat]
  · have high := high_of_mem_encodeChar single member
    omega

theorem lineFeed_mem_encodeChar {character : Char} (member : 0x0A ∈ encodeChar character) :
    character = '\n' :=
  eq_of_mem_encodeChar (by decide) member

theorem lineFeed_mem_encodeChars {characters : List Char}
    (member : 0x0A ∈ encodeChars characters) : '\n' ∈ characters := by
  rcases List.mem_flatMap.mp member with ⟨character, isCharacter, here⟩
  rw [← lineFeed_mem_encodeChar here]
  exact isCharacter

/-! ## What decodes was encoded -/

/-- A character in front of decoded text. -/
theorem consed_eq_ok {outcome : Except Fault (List Char)} {character : Char}
    {characters : List Char}
    (decoded : (do return character :: (← outcome)) = .ok characters) :
    ∃ others, outcome = .ok others ∧ characters = character :: others := by
  cases outcome with
  | error fault => cases decoded
  | ok others => exact ⟨others, rfl, (Except.ok.inj decoded).symm⟩

/-- A byte that goes on with a sequence carries six bits, in the range of the sequence. -/
theorem more_of_decodeFrom {offset bits lowest highest count expected : Nat}
    {bytes : List UInt8} {characters : List Char}
    (decoded : decodeFrom offset (some ⟨count, expected + 2, bits, lowest, highest⟩) bytes =
      .ok characters) :
    ∃ byte rest, bytes = byte :: rest ∧ lowest ≤ byte.toNat ∧ byte.toNat ≤ highest ∧
      decodeFrom (offset + 1)
        (some ⟨count + 1, expected + 1, bits * 0x40 + (byte.toNat - 0x80), 0x80, 0xBF⟩) rest =
          .ok characters := by
  cases bytes with
  | nil => cases decoded
  | cons byte rest =>
      by_cases outside : byte.toNat < lowest ∨ highest < byte.toNat
      · simp [decodeFrom, Sequence.push, outside] at decoded
      · have several : ¬ expected + 2 ≤ 1 := by omega
        simp only [decodeFrom, Sequence.push, Bool.or_eq_true, decide_eq_true_eq, outside,
          if_false, several] at decoded
        exact ⟨byte, rest, rfl, by omega, by omega, decoded⟩

theorem last_of_decodeFrom {offset bits lowest highest count : Nat}
    {bytes : List UInt8} {characters : List Char}
    (decoded : decodeFrom offset (some ⟨count, 1, bits, lowest, highest⟩) bytes =
      .ok characters) :
    ∃ byte rest others, bytes = byte :: rest ∧ lowest ≤ byte.toNat ∧ byte.toNat ≤ highest ∧
      decodeFrom (offset + 1) none rest = .ok others ∧
      characters = Char.ofNat (bits * 0x40 + (byte.toNat - 0x80)) :: others := by
  cases bytes with
  | nil => cases decoded
  | cons byte rest =>
      by_cases outside : byte.toNat < lowest ∨ highest < byte.toNat
      · simp [decodeFrom, Sequence.push, outside] at decoded
      · simp only [decodeFrom, Sequence.push, Bool.or_eq_true, decide_eq_true_eq, outside,
          if_false, Nat.le_refl, if_true] at decoded
        rcases consed_eq_ok decoded with ⟨others, later, equal⟩
        exact ⟨byte, rest, others, rfl, by omega, by omega, later, equal⟩

/-- Where decoding succeeds, nothing is replaced. -/
theorem decodeLossyFrom_of_decodeFrom {offset : Nat} {sequence : Option Sequence}
    {bytes : List UInt8} {characters : List Char}
    (decoded : decodeFrom offset sequence bytes = .ok characters) :
    decodeLossyFrom sequence bytes = characters := by
  induction bytes generalizing offset sequence characters with
  | nil =>
      cases sequence with
      | none => exact Except.ok.inj decoded
      | some sequence => cases decoded
  | cons byte rest induction =>
      cases sequence with
      | none =>
          rw [decodeFrom] at decoded
          rw [decodeLossyFrom]
          cases first : lead byte.toNat with
          | single character =>
              simp only [first] at decoded
              rcases consed_eq_ok decoded with ⟨others, later, rfl⟩
              simp only [induction later]
          | opens started =>
              simp only [first] at decoded
              exact induction decoded
          | invalid =>
              simp only [first] at decoded
              cases decoded
      | some sequence =>
          rw [decodeFrom] at decoded
          rw [decodeLossyFrom]
          cases pushed : sequence.push byte.toNat with
          | complete character =>
              simp only [pushed] at decoded
              rcases consed_eq_ok decoded with ⟨others, later, rfl⟩
              simp only [induction later]
          | more extended =>
              simp only [pushed] at decoded
              exact induction decoded
          | broken =>
              simp only [pushed] at decoded
              cases decoded

theorem decodeLossy_encodeChars (characters : List Char) :
    decodeLossy (encodeChars characters) = String.ofList characters :=
  congrArg String.ofList (decodeLossyFrom_of_decodeFrom (decodeChars_encodeChars characters))

/-- What a first byte can say, with the range that it leaves to the second. -/
inductive Leads (byte : Nat) : Lead → Prop
  | single (small : byte < 0x80) : Leads byte (.single (Char.ofNat byte))
  | two (least : 0xC2 ≤ byte) (greatest : byte < 0xE0) :
      Leads byte (.opens ⟨1, 1, byte - 0xC0, 0x80, 0xBF⟩)
  | three {lowest highest : Nat} (least : 0xE0 ≤ byte) (greatest : byte < 0xF0)
      (low : 0x80 ≤ lowest) (high : highest ≤ 0xBF)
      (overlong : byte = 0xE0 → 0xA0 ≤ lowest) (surrogates : byte = 0xED → highest ≤ 0x9F) :
      Leads byte (.opens ⟨1, 2, byte - 0xE0, lowest, highest⟩)
  | four {lowest highest : Nat} (least : 0xF0 ≤ byte) (greatest : byte ≤ 0xF4)
      (low : 0x80 ≤ lowest) (high : highest ≤ 0xBF)
      (overlong : byte = 0xF0 → 0x90 ≤ lowest) (outside : byte = 0xF4 → highest ≤ 0x8F) :
      Leads byte (.opens ⟨1, 3, byte - 0xF0, lowest, highest⟩)
  | invalid : Leads byte .invalid

theorem leads_lead (byte : Nat) : Leads byte (lead byte) := by
  rw [lead]
  by_cases single : byte < 0x80
  · rw [if_pos single]
    exact .single single
  rw [if_neg single]
  by_cases invalid : byte < 0xC2
  · rw [if_pos invalid]
    exact .invalid
  rw [if_neg invalid]
  by_cases two : byte < 0xE0
  · rw [if_pos two]
    exact .two (by omega) two
  rw [if_neg two]
  by_cases isE0 : byte = 0xE0
  · rw [if_pos isE0]
    subst isE0
    exact .three (by decide) (by decide) (by decide) (by decide) (by decide) (by decide)
  rw [if_neg isE0]
  by_cases isED : byte = 0xED
  · rw [if_pos isED]
    subst isED
    exact .three (by decide) (by decide) (by decide) (by decide) (by decide) (by decide)
  rw [if_neg isED]
  by_cases three : byte < 0xF0
  · rw [if_pos three]
    exact .three (by omega) three (by decide) (by decide) (by omega) (by omega)
  rw [if_neg three]
  by_cases isF0 : byte = 0xF0
  · rw [if_pos isF0]
    subst isF0
    exact .four (by decide) (by decide) (by decide) (by decide) (by decide) (by decide)
  rw [if_neg isF0]
  by_cases four : byte < 0xF4
  · rw [if_pos four]
    exact .four (by omega) (by omega) (by decide) (by decide) (by omega) (by omega)
  rw [if_neg four]
  by_cases isF4 : byte = 0xF4
  · rw [if_pos isF4]
    subst isF4
    exact .four (by decide) (by decide) (by decide) (by decide) (by decide) (by decide)
  rw [if_neg isF4]
  exact .invalid

/-- The code of a character, if it is one. -/
theorem toNat_charOfNat {code : Nat} (valid : code < 0xD800 ∨ 0xDFFF < code ∧ code < 0x110000) :
    (Char.ofNat code).toNat = code := by
  have isValid : code.isValidChar := valid
  rw [Char.ofNat, dif_pos isValid]
  rfl

theorem encodeChar_single {byte : UInt8} (small : byte.toNat < 0x80) :
    encodeChar (Char.ofNat byte.toNat) = [byte] := by
  have valid : byte.toNat < 0xD800 ∨ 0xDFFF < byte.toNat ∧ byte.toNat < 0x110000 := by omega
  simp only [encodeChar, toNat_charOfNat valid, small, if_true, UInt8.ofNat_toNat]

/-- The bytes of a sequence are those of the character that it decodes to. -/
theorem encodeChar_two {first second : UInt8} (least : 0xC2 ≤ first.toNat)
    (greatest : first.toNat < 0xE0) (low : 0x80 ≤ second.toNat) (high : second.toNat ≤ 0xBF) :
    encodeChar (Char.ofNat ((first.toNat - 0xC0) * 0x40 + (second.toNat - 0x80))) =
      [first, second] := by
  generalize isCode : (first.toNat - 0xC0) * 0x40 + (second.toNat - 0x80) = code
  have notSingle : ¬ code < 0x80 := by omega
  have two : code < 0x800 := by omega
  have valid : code < 0xD800 ∨ 0xDFFF < code ∧ code < 0x110000 := by omega
  have firstBits : 0xC0 + code / 0x40 = first.toNat := by omega
  have secondBits : 0x80 + code % 0x40 = second.toNat := by omega
  simp only [encodeChar, toNat_charOfNat valid, notSingle, two, if_false, if_true, firstBits,
    secondBits, UInt8.ofNat_toNat]

theorem encodeChar_three {first second third : UInt8}
    (least : 0xE0 ≤ first.toNat) (greatest : first.toNat < 0xF0)
    (overlong : first.toNat = 0xE0 → 0xA0 ≤ second.toNat)
    (surrogates : first.toNat = 0xED → second.toNat ≤ 0x9F)
    (low : 0x80 ≤ second.toNat) (high : second.toNat ≤ 0xBF)
    (lowThird : 0x80 ≤ third.toNat) (highThird : third.toNat ≤ 0xBF) :
    encodeChar (Char.ofNat (((first.toNat - 0xE0) * 0x40 + (second.toNat - 0x80)) * 0x40 +
      (third.toNat - 0x80))) = [first, second, third] := by
  generalize isCode : ((first.toNat - 0xE0) * 0x40 + (second.toNat - 0x80)) * 0x40 +
    (third.toNat - 0x80) = code
  have notTwo : ¬ code < 0x800 := by omega
  have notSingle : ¬ code < 0x80 := by omega
  have three : code < 0x10000 := by omega
  have valid : code < 0xD800 ∨ 0xDFFF < code ∧ code < 0x110000 := by omega
  have firstBits : 0xE0 + code / 0x1000 = first.toNat := by omega
  have secondBits : 0x80 + code / 0x40 % 0x40 = second.toNat := by omega
  have thirdBits : 0x80 + code % 0x40 = third.toNat := by omega
  simp only [encodeChar, toNat_charOfNat valid, notSingle, notTwo, three, if_false, if_true,
    firstBits, secondBits, thirdBits, UInt8.ofNat_toNat]

theorem encodeChar_four {first second third fourth : UInt8}
    (least : 0xF0 ≤ first.toNat) (greatest : first.toNat ≤ 0xF4)
    (overlong : first.toNat = 0xF0 → 0x90 ≤ second.toNat)
    (outside : first.toNat = 0xF4 → second.toNat ≤ 0x8F)
    (low : 0x80 ≤ second.toNat) (high : second.toNat ≤ 0xBF)
    (lowThird : 0x80 ≤ third.toNat) (highThird : third.toNat ≤ 0xBF)
    (lowFourth : 0x80 ≤ fourth.toNat) (highFourth : fourth.toNat ≤ 0xBF) :
    encodeChar (Char.ofNat ((((first.toNat - 0xF0) * 0x40 + (second.toNat - 0x80)) * 0x40 +
      (third.toNat - 0x80)) * 0x40 + (fourth.toNat - 0x80))) = [first, second, third, fourth] := by
  generalize isCode : (((first.toNat - 0xF0) * 0x40 + (second.toNat - 0x80)) * 0x40 +
    (third.toNat - 0x80)) * 0x40 + (fourth.toNat - 0x80) = code
  have notThree : ¬ code < 0x10000 := by omega
  have notTwo : ¬ code < 0x800 := by omega
  have notSingle : ¬ code < 0x80 := by omega
  have valid : code < 0xD800 ∨ 0xDFFF < code ∧ code < 0x110000 := by omega
  have firstBits : 0xF0 + code / 0x40000 = first.toNat := by omega
  have secondBits : 0x80 + code / 0x1000 % 0x40 = second.toNat := by omega
  have thirdBits : 0x80 + code / 0x40 % 0x40 = third.toNat := by omega
  have fourthBits : 0x80 + code % 0x40 = fourth.toNat := by omega
  simp only [encodeChar, toNat_charOfNat valid, notSingle, notTwo, notThree, if_false,
    firstBits, secondBits, thirdBits, fourthBits, UInt8.ofNat_toNat]

/-- Where decoding succeeds, the first character is encoded in front. -/
theorem encodeChar_of_decodeFrom {offset : Nat} {byte : UInt8} {bytes : List UInt8}
    {characters : List Char} (decoded : decodeFrom offset none (byte :: bytes) = .ok characters) :
    ∃ character others later rest, characters = character :: others ∧
      byte :: bytes = encodeChar character ++ rest ∧ decodeFrom later none rest = .ok others := by
  have leads := leads_lead byte.toNat
  rw [decodeFrom] at decoded
  generalize lead byte.toNat = first at leads decoded
  cases leads with
  | invalid => cases decoded
  | single small =>
      rcases consed_eq_ok decoded with ⟨others, later, equal⟩
      refine ⟨_, others, _, bytes, equal, ?_, later⟩
      rw [encodeChar_single small, List.singleton_append]
  | two least greatest =>
      rcases last_of_decodeFrom decoded with ⟨second, rest, others, rfl, low, high, later, equal⟩
      refine ⟨_, others, _, rest, equal, ?_, later⟩
      rw [encodeChar_two least greatest low high]
      rfl
  | three least greatest low high overlong surrogates =>
      rcases more_of_decodeFrom decoded with ⟨second, middle, rfl, above, below, decoded⟩
      rcases last_of_decodeFrom decoded with
        ⟨third, rest, others, rfl, lowThird, highThird, later, equal⟩
      refine ⟨_, others, _, rest, equal, ?_, later⟩
      rw [encodeChar_three least greatest (by omega) (by omega) (by omega) (by omega) lowThird
        highThird]
      rfl
  | four least greatest low high overlong outside =>
      rcases more_of_decodeFrom decoded with ⟨second, middle, rfl, above, below, decoded⟩
      rcases more_of_decodeFrom decoded with ⟨third, last, rfl, lowThird, highThird, decoded⟩
      rcases last_of_decodeFrom decoded with
        ⟨fourth, rest, others, rfl, lowFourth, highFourth, later, equal⟩
      refine ⟨_, others, _, rest, equal, ?_, later⟩
      rw [encodeChar_four least greatest (by omega) (by omega) (by omega) (by omega) lowThird
        highThird lowFourth highFourth]
      rfl

/-- Bytes decode to a text exactly when they are its encoding. -/
theorem decodeChars_eq_ok_iff {bytes : List UInt8} {characters : List Char} :
    decodeChars bytes = .ok characters ↔ bytes = encodeChars characters := by
  have encoded : ∀ offset, decodeFrom offset none bytes = .ok characters →
      bytes = encodeChars characters := by
    induction characters generalizing bytes with
    | nil =>
        intro offset decoded
        cases bytes with
        | nil => rfl
        | cons byte rest =>
            rcases encodeChar_of_decodeFrom decoded with ⟨_, _, _, _, equal, _⟩
            cases equal
    | cons character others induction =>
        intro offset decoded
        cases bytes with
        | nil => cases decoded
        | cons byte bytes =>
            rcases encodeChar_of_decodeFrom decoded with ⟨_, _, later, rest, equal, front, decoded⟩
            cases equal
            rw [front, induction later decoded, encodeChars_cons]
  constructor
  · exact encoded 0
  · intro equal
    rw [equal, decodeChars_encodeChars]

end TemplateCheck.Text.Utf8
