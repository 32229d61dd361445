import Mathlib.Data.List.Basic
import TemplateCheck.Proofs.Path.Inside
import TemplateCheck.Proofs.Text.Utf8

/-! # Patterns of extensions

The pattern of an extension takes the names that end with a dot and the extension, provided
that the extension has no backslash. A backslash is not written so that it stands for itself:
it takes the meaning from what follows, and the pattern refuses the extension that it was
made from.
-/

namespace TemplateCheck

namespace Text.Utf8

theorem encodeChars_inj {left right : List Char} (same : encodeChars left = encodeChars right) :
    left = right := by
  have decoded := decodeChars_encodeChars left
  rw [same, decodeChars_encodeChars right] at decoded
  exact (Except.ok.inj decoded).symm

theorem encodeChar_ne_nil (character : Char) : encodeChar character ≠ [] := by
  unfold encodeChar
  dsimp only
  repeat' split
  all_goals exact List.cons_ne_nil _ _

/-- A character whose byte has no highest bit begins nowhere inside another one. -/
theorem suffix_of_encodeChars {first : Char} (small : first.toNat < 0x80) {rest name : List Char}
    (ends : encodeChars (first :: rest) <:+ encodeChars name) : first :: rest <:+ name := by
  have single : encodeChar first = [UInt8.ofNat first.toNat] := by simp [encodeChar, small]
  rcases ends with ⟨front, whole⟩
  induction name generalizing front with
  | nil => simp [single, encodeChars] at whole
  | cons character others induction =>
      rw [encodeChars_cons character] at whole
      rcases List.append_eq_append_iff.mp whole with ⟨middle, inside, back⟩ | ⟨more, -, later⟩
      · cases front with
        | nil =>
            have same : encodeChars (first :: rest) = encodeChars (character :: others) := by
              rw [encodeChars_cons character]
              simpa using whole
            exact encodeChars_inj same ▸ List.suffix_rfl
        | cons byte before =>
            cases middle with
            | nil => exact (induction [] back).trans (List.suffix_cons _ _)
            | cons start middle =>
                -- The first byte would stand behind another one of its own character.
                rw [encodeChars_cons, single] at back
                have isFirst : start = UInt8.ofNat first.toNat := by
                  have heads := congrArg List.head? back
                  simpa using heads.symm
                have code : (UInt8.ofNat first.toNat).toNat = first.toNat :=
                  toNat_ofNat (by omega)
                have member : start ∈ encodeChar character := by simp [inside]
                have isCharacter := eq_of_mem_encodeChar (by rwa [isFirst, code]) member
                rw [isFirst, code, Char.ofNat_toNat] at isCharacter
                rw [isCharacter, single] at inside
                simp at inside
      · exact (induction more later.symm).trans (List.suffix_cons _ _)

end Text.Utf8

namespace Package.Glob

open Text.Utf8 (encodeChar encodeChars)

/-! ## What a pattern leaves -/

theorem mem_endings {bytes rest : List UInt8} : rest ∈ endings bytes ↔ rest <:+ bytes := by
  induction bytes with
  | nil => simp [endings]
  | cons first more induction => simp [endings, induction, List.suffix_cons_iff]

theorem leftAfterAll_append (tokens more : List Token) (name : List UInt8) :
    leftAfterAll (tokens ++ more) name =
      (leftAfterAll tokens name).flatMap (leftAfterAll more) := by
  induction tokens generalizing name with
  | nil => simp [leftAfterAll]
  | cons token rest induction =>
      have later : leftAfterAll (rest ++ more) =
          fun left => (leftAfterAll rest left).flatMap (leftAfterAll more) := funext induction
      rw [List.cons_append, leftAfterAll, leftAfterAll, List.flatMap_assoc, later]

/-- Tokens that take certain bytes and nothing else. -/
def Spells (tokens : List Token) (bytes : List UInt8) : Prop :=
  ∀ name rest, rest ∈ leftAfterAll tokens name ↔ name = bytes ++ rest

theorem Spells.nil : Spells [] [] := by
  intro name rest
  rw [leftAfterAll, List.mem_singleton, List.nil_append, eq_comm]

theorem Spells.append {tokens more : List Token} {bytes others : List UInt8}
    (first : Spells tokens bytes) (second : Spells more others) :
    Spells (tokens ++ more) (bytes ++ others) := by
  intro name rest
  simp only [leftAfterAll_append, List.mem_flatMap, first name, second _ rest]
  simp

/-- A token that takes one byte. -/
theorem spells_of_leftAfter {token : Token} {value : UInt8}
    (takes : ∀ first rest, leftAfter token (first :: rest) = if first = value then [rest] else [])
    (stops : leftAfter token [] = []) : Spells [token] [value] := by
  intro name rest
  cases name with
  | nil => simp [leftAfterAll, stops]
  | cons first others =>
      by_cases equal : first = value
      · simp [leftAfterAll, takes, equal, eq_comm]
      · simp [leftAfterAll, takes, equal]

theorem spells_byte (value : UInt8) : Spells [.byte value] [value] :=
  spells_of_leftAfter (fun first rest => by rw [leftAfter]) (by rw [leftAfter])

theorem spells_single (value : UInt8) : Spells [.oneOf false [(value, value)]] [value] := by
  refine spells_of_leftAfter (fun first rest => ?_) (by rw [leftAfter])
  have between : value ≤ first ∧ first ≤ value ↔ first = value :=
    ⟨fun ⟨low, high⟩ => UInt8.le_antisymm high low,
      fun equal => equal ▸ ⟨UInt8.le_refl first, UInt8.le_refl first⟩⟩
  by_cases equal : first = value <;> simp [leftAfter, between, equal]

theorem isMatch_anyBytes_append {tokens : List Token} {bytes : List UInt8}
    (spells : Spells tokens bytes) (more : List Token) (name : String) :
    isMatch (.anyBytes :: (tokens ++ more)) name = true ↔ ∃ before left,
      Text.Utf8.encode name = before ++ (bytes ++ left) ∧ [] ∈ leftAfterAll more left := by
  have emptyLeft : ∀ left : List (List UInt8), left.any List.isEmpty = true ↔ [] ∈ left := by
    simp [List.any_eq_true]
  simp only [isMatch, leftAfterAll, leftAfter, leftAfterAll_append, emptyLeft, List.mem_flatMap,
    mem_endings, spells _ _]
  constructor
  · rintro ⟨ending, ⟨before, whole⟩, left, rfl, taken⟩
    exact ⟨before, left, whole.symm, taken⟩
  · rintro ⟨before, left, whole, taken⟩
    exact ⟨bytes ++ left, ⟨before, whole.symm⟩, left, rfl, taken⟩

theorem isMatch_anyBytes {tokens : List Token} {bytes : List UInt8} (spells : Spells tokens bytes)
    (name : String) :
    isMatch (.anyBytes :: tokens) name = true ↔ bytes <:+ Text.Utf8.encode name := by
  have general := isMatch_anyBytes_append spells [] name
  rw [List.append_nil] at general
  rw [general]
  constructor
  · rintro ⟨before, left, whole, taken⟩
    cases List.mem_singleton.mp taken
    exact ⟨before, by rw [whole, List.append_nil]⟩
  · rintro ⟨before, whole⟩
    exact ⟨before, [], by rw [List.append_nil, whole], List.mem_singleton_self _⟩

/-! ## Reading what is written for a text -/

/-- The characters that are written in brackets. -/
def specials : List Char :=
  ['?', '*', '[', ']', Json.openBrace, Json.closeBrace]

/-- What is written for a character. -/
def written (character : Char) : List Char :=
  if specials.contains character then ['[', character, ']'] else [character]

theorem toList_escape (text : String) : (escape text).toList = text.toList.flatMap written :=
  String.toList_ofList

/-- The tokens that stand for a character. -/
def tokensFor (character : Char) : List Token :=
  if specials.contains character then
    [.oneOf false ((encodeChar character).map fun byte => (byte, byte))]
  else (encodeChar character).map .byte

theorem spells_bytes (bytes : List UInt8) : Spells (bytes.map .byte) bytes := by
  induction bytes with
  | nil => exact Spells.nil
  | cons value rest induction => exact (spells_byte value).append induction

theorem spells_tokensFor (character : Char) :
    Spells (tokensFor character) (encodeChar character) := by
  unfold tokensFor
  split
  · next special =>
      have small : ∀ character ∈ specials, character.toNat < 0x80 := by
        simp [specials, Json.openBrace, Json.closeBrace]
      have single : encodeChar character = [UInt8.ofNat character.toNat] := by
        simp [encodeChar, small character (List.contains_iff_mem.mp special)]
      rw [single]
      exact spells_single _
  · exact spells_bytes _

theorem spells_text (text : List Char) : Spells (text.flatMap tokensFor) (encodeChars text) := by
  induction text with
  | nil => exact Spells.nil
  | cons character rest induction =>
      rw [List.flatMap_cons, Text.Utf8.encodeChars_cons]
      exact (spells_tokensFor character).append induction

/-- Outside groups and classes a character other than a backslash is read as what stands for it. -/
theorem read_written {character : Char} (plain : character ≠ '\\') (tokens : List Token) :
    (written character).foldlM Progress.add { tokens } =
      .ok { tokens := (tokensFor character).reverse ++ tokens } := by
  unfold written tokensFor
  split
  · next special =>
      have isOne := List.contains_iff_mem.mp special
      simp only [specials, List.mem_cons, List.not_mem_nil, or_false] at isOne
      rcases isOne with rfl | rfl | rfl | rfl | rfl | rfl <;> rfl
  · next ordinary =>
      simp only [specials, List.contains_cons, List.contains_nil, Bool.or_false, Bool.or_eq_true,
        beq_iff_eq, not_or] at ordinary
      rcases ordinary with ⟨notAny, notStar, notOpen, notClose, notGroup, notEnd⟩
      simp [Progress.add, Progress.addPlain, literal, *]

/-- A text without backslashes is read as what stands for its characters. -/
theorem read_text {text : List Char} (plain : '\\' ∉ text) (tokens : List Token) :
    (text.flatMap written).foldlM Progress.add { tokens } =
      .ok { tokens := (text.flatMap tokensFor).reverse ++ tokens } := by
  induction text generalizing tokens with
  | nil => rfl
  | cons character rest induction =>
      rw [List.mem_cons, not_or] at plain
      rw [List.flatMap_cons, List.foldlM_append, read_written (Ne.symm plain.1),
        List.flatMap_cons, List.reverse_append, List.append_assoc]
      exact induction plain.2 _

/-! ## Backslashes -/

/-- The tokens that are in no group, last first. -/
def outermost (tokens : List Token) (groups : List Group) : List Token :=
  groups.foldl (fun _ group => group.before) tokens

theorem outermost_append (more tokens : List Token) (groups : List Group) :
    outermost tokens groups <:+ outermost (more ++ tokens) groups := by
  cases groups with
  | nil => exact List.suffix_append more tokens
  | cons group outer => exact List.suffix_rfl

def Progress.settled (progress : Progress) : List Token :=
  outermost progress.tokens progress.groups

/-- What is in no group stays as it is. -/
theorem Progress.settled_addPlain {progress next : Progress} {character : Char}
    (added : progress.addPlain character = .ok next) : progress.settled <:+ next.settled := by
  -- A token goes on top; only a brace or a comma changes the groups.
  unfold addPlain at added
  split at added
  · cases added
    exact List.suffix_rfl
  split at added
  · cases added
    exact outermost_append [_] _ _
  split at added
  · cases added
    exact outermost_append [_] _ _
  split at added
  · cases added
    exact List.suffix_rfl
  split at added
  · cases added
    exact List.suffix_rfl
  split at added
  · split at added
    · cases added
    · next group outer groups =>
        cases added
        rw [settled, groups]
        exact outermost_append [_] group.before outer
  split at added
  · split at added
    · cases added
      exact outermost_append _ _ _
    · next group outer groups =>
        cases added
        rw [settled, groups]
        exact List.suffix_rfl
  · cases added
    exact outermost_append _ _ _

theorem Progress.settled_add {progress next : Progress} {character : Char}
    (added : progress.add character = .ok next) : progress.settled <:+ next.settled := by
  unfold add at added
  split at added
  · cases added
    exact outermost_append _ _ _
  · split at added
    · split at added
      · cases added
        exact outermost_append [_] _ _
      · rcases bind_eq_ok.mp added with ⟨extended, -, same⟩
        cases same
        exact List.suffix_rfl
    · exact settled_addPlain added

theorem Progress.settled_read {progress next : Progress} {characters : List Char}
    (read : characters.foldlM add progress = .ok next) : progress.settled <:+ next.settled := by
  induction characters generalizing progress with
  | nil =>
      cases read
      exact List.suffix_rfl
  | cons character rest induction =>
      rw [List.foldlM_cons] at read
      rcases bind_eq_ok.mp read with ⟨middle, added, later⟩
      exact (settled_add added).trans (induction later)

theorem Progress.eq_settled {progress : Progress} {tokens : List Token}
    (finished : progress.finish = .ok tokens) : tokens = progress.settled.reverse := by
  unfold finish at finished
  split at finished
  · cases finished
  split at finished
  · cases finished
  split at finished
  · cases finished
  · next noGroups =>
      cases finished
      simp only [Bool.not_eq_true', Bool.not_eq_false, List.isEmpty_iff] at noGroups
      simp [settled, outermost, noGroups]

theorem exists_encodeChar {character : Char} (plain : character ≠ '\\') :
    ∃ value bytes, encodeChar character = value :: bytes ∧ value ≠ 92 := by
  rcases List.exists_cons_of_ne_nil (Text.Utf8.encodeChar_ne_nil character) with
    ⟨value, bytes, isCons⟩
  refine ⟨value, bytes, isCons, ?_⟩
  rintro rfl
  exact plain (Text.Utf8.eq_of_mem_encodeChar (by decide) (isCons ▸ List.mem_cons_self))

theorem exists_written {character : Char} (plain : character ≠ '\\') :
    ∃ start others, written character = start :: others ∧ start ≠ '\\' := by
  unfold written
  split
  · exact ⟨'[', _, rfl, by decide⟩
  · exact ⟨character, [], rfl, plain⟩

/-- Tokens that begin with another character than a backslash refuse a backslash. -/
theorem refuses_of_settled {progress final : Progress} {characters : List Char}
    {front tokens result : List Token} {value : UInt8} {bytes : List UInt8}
    (read : characters.foldlM Progress.add progress = .ok final)
    (finished : final.finish = .ok result) (settled : progress.settled = front.reverse ++ tokens)
    (spells : Spells front (value :: bytes)) (differs : value ≠ 92) (rest : List UInt8) :
    ∃ more, result = tokens.reverse ++ more ∧ [] ∉ leftAfterAll more (92 :: rest) := by
  rcases settled ▸ Progress.settled_read read with ⟨later, isLater⟩
  refine ⟨front ++ later.reverse, ?_, ?_⟩
  · rw [Progress.eq_settled finished, ← isLater]
    simp
  · rw [leftAfterAll_append, List.mem_flatMap]
    rintro ⟨left, taken, -⟩
    have same := (spells _ left).mp taken
    exact differs (List.cons.inj same).1.symm

/-- What follows a backslash, in the pattern of a text, does not take this backslash. -/
theorem refuses_backslashes {text : List Char} {tokens result : List Token} {escaped : Bool}
    {final : Progress}
    (read : (text.flatMap written).foldlM Progress.add { tokens, escaped } = .ok final)
    (finished : final.finish = .ok result) (count : Nat) :
    ∃ more, result = tokens.reverse ++ more ∧
      [] ∉ leftAfterAll more (List.replicate (count + 1) 92 ++ encodeChars text) := by
  -- Backslashes of the text that are not taken yet are counted while the pattern is read.
  induction text generalizing tokens escaped count with
  | nil =>
      cases read
      cases Progress.eq_settled finished
      exact ⟨[], by simp [Progress.settled, outermost], by simp [leftAfterAll, List.replicate_succ]⟩
  | cons character rest induction =>
      rw [List.flatMap_cons, List.foldlM_append] at read
      by_cases backslash : character = '\\'
      · subst backslash
        have own : encodeChar '\\' = [92] := rfl
        rw [Text.Utf8.encodeChars_cons, own]
        cases escaped with
        | true =>
            rcases @induction (.byte 92 :: tokens) false read count with ⟨more, rfl, refuses⟩
            refine ⟨.byte 92 :: more, by simp, ?_⟩
            rw [← List.append_assoc, ← List.replicate_succ']
            simpa [leftAfterAll, leftAfter, List.replicate_succ] using refuses
        | false =>
            rcases @induction tokens true read (count + 1) with ⟨more, rfl, refuses⟩
            refine ⟨more, rfl, ?_⟩
            rwa [← List.append_assoc, ← List.replicate_succ']
      · rw [List.replicate_succ, List.cons_append]
        rcases bind_eq_ok.mp read with ⟨middle, first, later⟩
        cases escaped with
        | false =>
            rcases exists_encodeChar backslash with ⟨value, bytes, isCons, differs⟩
            cases first.symm.trans (read_written backslash tokens)
            exact refuses_of_settled later finished rfl (isCons ▸ spells_tokensFor character)
              differs _
        | true =>
            rcases exists_written backslash with ⟨start, others, isWritten, plain⟩
            rcases exists_encodeChar plain with ⟨value, bytes, isCons, differs⟩
            rw [isWritten, List.foldlM_cons] at first
            have whole : (others ++ rest.flatMap written).foldlM Progress.add
                { tokens := literal start ++ tokens } = .ok final := by
              rw [List.foldlM_append]
              exact bind_eq_ok.mpr ⟨middle, first, later⟩
            have spells : Spells ((encodeChar start).map .byte) (value :: bytes) :=
              isCons ▸ spells_bytes (encodeChar start)
            refine refuses_of_settled whole finished ?_ spells differs _
            simp [Progress.settled, outermost, literal]

end Package.Glob

namespace Package.Sources

open Glob

variable {extension : String}

/-! ## The pattern of an extension -/

theorem toList_patternText (extension : String) :
    (patternText extension).toList = '*' :: '.' :: extension.toList.flatMap written := by
  simp [patternText, toList_escape]

theorem pattern_eq_ok {tokens : List Token} :
    pattern extension = .ok tokens ↔ ∃ final,
      (extension.toList.flatMap written).foldlM Progress.add { tokens := [.byte 46, .anyBytes] } =
        .ok final ∧ final.finish = .ok tokens := by
  have read : Glob.parse (patternText extension) =
      ((extension.toList.flatMap written).foldlM Progress.add
        { tokens := [.byte 46, .anyBytes] } >>= Progress.finish) := by
    rw [Glob.parse, toList_patternText]
    rfl
  rw [← bind_eq_ok, ← read, pattern]
  cases Glob.parse (patternText extension) <;> simp

theorem pattern_of_plain (plain : '\\' ∉ extension.toList) :
    pattern extension = .ok (.anyBytes :: .byte 46 :: extension.toList.flatMap tokensFor) := by
  refine pattern_eq_ok.mpr ⟨_, read_text plain _, ?_⟩
  simp [Progress.finish]

/-- Without a backslash, the pattern takes the names that end with a dot and the extension. -/
theorem isMatch_iff_of_plain (plain : '\\' ∉ extension.toList) {tokens : List Token}
    (made : pattern extension = .ok tokens) (name : String) :
    isMatch tokens name = true ↔ '.' :: extension.toList <:+ name.toList := by
  cases made.symm.trans (pattern_of_plain plain)
  have spells : Spells (.byte 46 :: extension.toList.flatMap tokensFor)
      (Text.Utf8.encodeChars ('.' :: extension.toList)) :=
    (spells_byte 46).append (spells_text extension.toList)
  rw [isMatch_anyBytes spells]
  constructor
  · exact Text.Utf8.suffix_of_encodeChars (by decide)
  · rintro ⟨stem, whole⟩
    exact ⟨Text.Utf8.encodeChars stem, by
      rw [Text.Utf8.encode, ← whole, Text.Utf8.encodeChars_append]⟩

theorem dot_not_mem {text : List Char} (free : '.' ∉ text) : 46 ∉ Text.Utf8.encodeChars text := by
  intro member
  rcases List.mem_flatMap.mp member with ⟨character, isCharacter, here⟩
  rw [Text.Utf8.eq_of_mem_encodeChar (by decide) here] at isCharacter
  exact free isCharacter

/-- With a backslash, the pattern refuses the extension itself. -/
theorem isMatch_of_backslash (backslash : '\\' ∈ extension.toList)
    (free : '.' ∉ extension.toList) {tokens : List Token}
    (made : pattern extension = .ok tokens) {stem : List Char} (stemFree : '.' ∉ stem) :
    isMatch tokens (String.ofList (stem ++ '.' :: extension.toList)) = false := by
  rcases pattern_eq_ok.mp made with ⟨final, read, finished⟩
  rcases List.eq_append_cons_of_mem backslash with ⟨front, back, split, plain⟩
  rw [split, List.flatMap_append, List.foldlM_append, read_text plain] at read
  rcases @refuses_backslashes back _ _ true _ read finished 0 with ⟨more, rfl, refuses⟩
  have spells : Spells (.byte 46 :: front.flatMap tokensFor)
      (46 :: Text.Utf8.encodeChars front) :=
    (spells_byte 46).append (spells_text front)
  rw [Bool.eq_false_iff]
  intro matched
  rw [List.reverse_append, List.reverse_reverse] at matched
  rcases (isMatch_anyBytes_append spells more _).mp matched with ⟨before, left, whole, taken⟩
  -- The only dot of the name is the one before the extension.
  have dot : Text.Utf8.encodeChar '.' = [46] := rfl
  rw [Text.Utf8.encode, String.toList_ofList, Text.Utf8.encodeChars_append,
    Text.Utf8.encodeChars_cons, dot] at whole
  have same := (List.append_cons_inj_of_notMem (dot_not_mem stemFree) (dot_not_mem free)).mp whole
  rw [split, Text.Utf8.encodeChars_append] at same
  have isLeft := List.append_cancel_left same.2.2
  rw [← isLeft] at taken
  exact refuses taken

end Package.Sources

end TemplateCheck
