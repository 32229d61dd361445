import TemplateCheck.Proofs.Frame.Chunks
import TemplateCheck.Proofs.Json.RoundTrip
import TemplateCheck.Proofs.Text.Utf8

/-! # Written frames are read back

A frame is one header line with the length of the body in bytes, a blank line, and the
body. A reader finds the length it needs in the header, and as the body has just as
many bytes it stops where the next frame begins, whatever the body holds.
-/

namespace TemplateCheck

namespace Text

/-- Blanks around a text that neither begins nor ends with one are trimmed. -/
theorem trimChars_surrounded {front body back : List Char} (blankFront : front.all isBlank = true)
    (blankBack : back.all isBlank = true) (nonempty : body ≠ [])
    (begins : ∀ mark ∈ body.head?, isBlank mark = false)
    (ends : ∀ mark ∈ body.getLast?, isBlank mark = false) :
    trimChars (front ++ (body ++ back)) = body := by
  have stops : ∀ {text rest : List Char}, text ≠ [] →
      (∀ mark ∈ text.head?, isBlank mark = false) →
      (text ++ rest).dropWhile isBlank = text ++ rest := by
    intro text rest isText isFirst
    cases text with
    | nil => exact absurd rfl isText
    | cons first others =>
        rw [List.cons_append, List.dropWhile_cons_of_neg]
        simp [isFirst first rfl]
  have ended : body.reverse.dropWhile isBlank = body.reverse := by
    have reversed := @stops body.reverse [] (by simpa using nonempty) (by simpa using ends)
    rw [List.append_nil] at reversed
    exact reversed
  rw [List.all_eq_true] at blankFront blankBack
  rw [trimChars, List.dropWhile_append_of_pos blankFront, stops nonempty begins,
    List.reverse_append, List.dropWhile_append_of_pos (by simpa using blankBack), ended,
    List.reverse_reverse]

end Text

namespace Frame

open Text (trimChars isBlank)

/-! ## The header line -/

theorem isBlank_of_isDigit {digit : Char} (isDigit : Json.isDigit digit = true) :
    isBlank digit = false := by
  simp only [Json.isDigit, Bool.and_eq_true, decide_eq_true_eq] at isDigit
  have least : 48 ≤ digit.toNat := isDigit.1
  have greatest : digit.toNat ≤ 57 := isDigit.2
  simp [isBlank]
  omega

theorem digitsValue_of_le {digits : List Char} (each : ∀ digit ∈ digits, Json.isDigit digit = true)
    {start : Nat} (fits : Nat.ofDigitChars 10 digits start ≤ 0xffffffffffffffff) :
    digitsValue start digits = .ok (Nat.ofDigitChars 10 digits start) := by
  induction digits generalizing start with
  | nil => rfl
  | cons digit rest induction =>
      rw [Json.ofDigitChars_cons] at fits ⊢
      have small := Nat.le_trans (Json.le_ofDigitChars rest _) fits
      have later := induction (fun other member => each other (List.mem_cons_of_mem _ member)) fits
      simp only [digitsValue, each digit List.mem_cons_self, Bool.not_true, Bool.false_eq_true,
        if_false, Nat.not_lt.mpr small, later]

theorem length_toDigits {number : Nat} (fits : number ≤ 0xffffffffffffffff) :
    length (Nat.toDigits 10 number) = .ok number := by
  have value := @Nat.ofDigitChars_ten_toDigits number
  have each : ∀ digit ∈ Nat.toDigits 10 number, Json.isDigit digit = true :=
    fun _ => Json.isDigit_of_mem_toDigits
  have read := digitsValue_of_le each (by rw [value]; exact fits)
  rw [value] at read
  cases digits : Nat.toDigits 10 number with
  | nil => exact absurd digits Nat.toDigits_ne_nil
  | cons first others =>
      have noSign : first ≠ '+' := by
        rintro rfl
        cases each '+' (digits ▸ List.mem_cons_self)
      rw [digits] at read
      rw [length.eq_def]
      split
      · next isNil => cases isNil
      · next isSign =>
          cases isSign
          exact absurd rfl noSign
      · next isSign =>
          cases isSign
          exact absurd rfl noSign
      · exact read

/-- The first line of a frame. -/
def lengthLine (count : Nat) : List Char :=
  "Content-Length: ".toList ++ (Nat.toDigits 10 count ++ ['\r'])

theorem header_eq (count : Nat) :
    header count = lengthLine count ++ ['\n'] ++ (['\r'] ++ ['\n']) := by
  unfold header lengthLine
  generalize "Content-Length: ".toList = name
  simp

theorem trimChars_lengthLine (count : Nat) :
    trimChars (lengthLine count ++ ['\n']) =
      "Content-Length: ".toList ++ Nat.toDigits 10 count := by
  have first : ("Content-Length: ".toList ++ Nat.toDigits 10 count).head? = some 'C' := rfl
  unfold lengthLine
  generalize "Content-Length: ".toList = name at first
  have begins : ∀ mark ∈ (name ++ Nat.toDigits 10 count).head?, isBlank mark = false := by
    rw [first]
    rintro mark ⟨⟩
    rfl
  have ends : ∀ mark ∈ (name ++ Nat.toDigits 10 count).getLast?, isBlank mark = false := by
    have last : (Nat.toDigits 10 count).getLast?.isSome = true := by
      simp [Nat.toDigits_ne_nil]
    rw [List.getLast?_append, Option.or_of_isSome last]
    intro digit isLast
    exact isBlank_of_isDigit (Json.isDigit_of_mem_toDigits (List.mem_of_getLast? isLast))
  have nonempty : name ++ Nat.toDigits 10 count ≠ [] := by
    simp [Nat.toDigits_ne_nil]
  have surrounded := @Text.trimChars_surrounded [] _ ['\r', '\n'] rfl rfl nonempty begins ends
  simpa using surrounded

theorem trimChars_lengthValue (count : Nat) :
    trimChars (' ' :: Nat.toDigits 10 count) = Nat.toDigits 10 count := by
  have each : ∀ digit ∈ Nat.toDigits 10 count, isBlank digit = false :=
    fun _ member => isBlank_of_isDigit (Json.isDigit_of_mem_toDigits member)
  have surrounded := @Text.trimChars_surrounded [' '] (Nat.toDigits 10 count) [] rfl rfl
    Nat.toDigits_ne_nil
    (fun digit isFirst => each digit (List.mem_of_head? isFirst))
    (fun digit isLast => each digit (List.mem_of_getLast? isLast))
  rw [List.append_nil] at surrounded
  exact surrounded

theorem headerLine_lengthLine {count : Nat} (fits : count ≤ 0xffffffffffffffff) :
    headerLine (lengthLine count ++ ['\n']) = .ok (.length count) := by
  have nonempty : ("Content-Length: ".toList ++ Nat.toDigits 10 count).isEmpty = false := rfl
  have cut : Text.cutAtFirst ':' ("Content-Length: ".toList ++ Nat.toDigits 10 count) =
      some ("Content-Length".toList, ' ' :: Nat.toDigits 10 count) := rfl
  have isKey : (trimChars "Content-Length".toList).map Text.lowerAscii = lengthKey := rfl
  rw [headerLine, trimChars_lengthLine, nonempty, cut]
  simp only [Bool.false_eq_true, if_false, isKey, if_true, trimChars_lengthValue,
    length_toDigits fits]

theorem headerLine_blank : headerLine (['\r'] ++ ['\n']) = .ok .blank := rfl

/-! ## Reading a frame -/

theorem cutLine_lineFeed {line : List UInt8} (single : 0x0A ∉ line) (rest : List UInt8) :
    cutLine (line ++ 0x0A :: rest) = some (line ++ [0x0A], rest) := by
  induction line with
  | nil => rfl
  | cons byte line induction =>
      rw [List.mem_cons, not_or] at single
      rw [List.cons_append, cutLine, if_neg (Ne.symm single.1), induction single.2]
      rfl

/-- A line of text is read as a whole. -/
theorem readLine_encodeChars {line : List Char} (single : '\n' ∉ line) (rest : List UInt8) :
    readLine ⟨Text.Utf8.encodeChars (line ++ ['\n']) ++ rest, []⟩ =
      (Text.Utf8.encodeChars (line ++ ['\n']), ⟨rest, []⟩) := by
  have found := cutLine_lineFeed (fun member => single (Text.Utf8.lineFeed_mem_encodeChars member))
    rest
  have lineFeed : Text.Utf8.encodeChars ['\n'] = [0x0A] := rfl
  rw [Text.Utf8.encodeChars_append, lineFeed, List.append_assoc, List.singleton_append, readLine,
    readLineFrom, found]

theorem isEmpty_encodeChars_line (line : List Char) :
    (Text.Utf8.encodeChars (line ++ ['\n'])).isEmpty = false := by
  have lineFeed : Text.Utf8.encodeChars ['\n'] = [0x0A] := rfl
  simp [Text.Utf8.encodeChars_append, lineFeed]

theorem readHeaders_length {line : List Char} {value : Nat} (single : '\n' ∉ line)
    (isLength : headerLine (line ++ ['\n']) = .ok (.length value)) (bound : Nat) (started : Bool)
    (found : Option Nat) (rest : List UInt8) :
    readHeaders (bound + 1) started found ⟨Text.Utf8.encodeChars (line ++ ['\n']) ++ rest, []⟩ =
      readHeaders bound true (some value) ⟨rest, []⟩ := by
  rw [readHeaders, readLine_encodeChars single]
  simp only [isEmpty_encodeChars_line, Bool.false_eq_true, if_false,
    Text.Utf8.decodeChars_encodeChars, isLength]

theorem readHeaders_blank {line : List Char} (single : '\n' ∉ line)
    (isBlank : headerLine (line ++ ['\n']) = .ok .blank) (bound : Nat) (started : Bool)
    (value : Nat) (rest : List UInt8) :
    readHeaders (bound + 1) started (some value)
        ⟨Text.Utf8.encodeChars (line ++ ['\n']) ++ rest, []⟩ =
      (.ok (.body value), ⟨rest, []⟩) := by
  rw [readHeaders, readLine_encodeChars single]
  simp only [isEmpty_encodeChars_line, Bool.false_eq_true, if_false,
    Text.Utf8.decodeChars_encodeChars, isBlank]

theorem lineFeed_not_mem_lengthLine (count : Nat) : '\n' ∉ lengthLine count := by
  intro member
  rcases List.mem_append.mp member with inName | later
  · exact absurd inName (by decide)
  · rcases List.mem_append.mp later with inDigits | inReturn
    · cases Json.isDigit_of_mem_toDigits inDigits
    · exact absurd inReturn (by decide)

theorem readHeaders_header {count : Nat} (fits : count ≤ 0xffffffffffffffff) (bound : Nat)
    (rest : List UInt8) :
    readHeaders (bound + 2) false none ⟨Text.Utf8.encodeChars (header count) ++ rest, []⟩ =
      (.ok (.body count), ⟨rest, []⟩) := by
  rw [header_eq, Text.Utf8.encodeChars_append, List.append_assoc,
    readHeaders_length (lineFeed_not_mem_lengthLine count) (headerLine_lengthLine fits),
    readHeaders_blank (by decide) headerLine_blank]

/-- A value that makes a frame: it is not nested too deep, and its text is not too
long. -/
structure Fits (json : Json) : Prop where
  whole : json.Whole
  shallow : json.depth ≤ 127
  short : (Text.Utf8.encodeChars json.chars).length ≤ 33554432

theorem parseBody_chars {json : Json} (fits : Fits json) :
    parseBody (Text.Utf8.encodeChars json.chars) = some json := by
  simp only [parseBody, Text.Utf8.decodeChars_encodeChars]
  exact Json.parseChars_chars fits.whole fits.shallow

theorem readBody_chars {json : Json} (fits : Fits json) (rest : List UInt8) :
    readBody (Text.Utf8.encodeChars json.chars).length
        ⟨Text.Utf8.encodeChars json.chars ++ rest, []⟩ = (.frame json, ⟨rest, []⟩) := by
  have parsed := parseBody_chars fits
  have short := fits.short
  generalize Text.Utf8.encodeChars json.chars = body at parsed short
  have allowed : ¬ greatestLength < body.length := Nat.not_lt.mpr short
  simp [readBody, allowed, readBytes, readBytesFrom, parsed]

/-- A frame is read, and what follows is left. -/
theorem read_write {json : Json} (fits : Fits json) (rest : List UInt8) :
    read ⟨write json ++ rest, []⟩ = (.frame json, ⟨rest, []⟩) := by
  have readBody := readBody_chars fits rest
  have short := fits.short
  unfold write
  generalize Text.Utf8.encodeChars json.chars = body at readBody short
  have nonempty : 0 < (Text.Utf8.encodeChars (header body.length)).length := by
    have isLine := isEmpty_encodeChars_line (lengthLine body.length)
    rw [header_eq, Text.Utf8.encodeChars_append, List.length_append]
    exact Nat.add_pos_left (List.length_pos_iff.mpr (List.isEmpty_eq_false_iff.mp isLine)) _
  -- The bound on the lines is one above the bytes, so it allows for two.
  have enough : 2 ≤
      (Source.bytes ⟨Text.Utf8.encodeChars (header body.length) ++ body ++ rest, []⟩).length + 1 := by
    simp only [Source.bytes, List.length_append]
    omega
  rcases Nat.exists_eq_add_of_le' enough with ⟨bound, isBound⟩
  rw [read, isBound, List.append_assoc, readHeaders_header (by omega)]
  exact readBody

/-- Frames one after the other, all received. -/
theorem readMany_writes {values : List Json} (fit : ∀ json ∈ values, Fits json) :
    readMany (values.length + 1) ⟨values.flatMap write, []⟩ =
      (values.map .frame ++ [.ended], ⟨[], []⟩) := by
  induction values with
  | nil => rfl
  | cons json rest induction =>
      have later := induction fun other member => fit other (List.mem_cons_of_mem _ member)
      rw [List.flatMap_cons, List.length_cons, readMany, read_write (fit json List.mem_cons_self)]
      dsimp only
      rw [later]
      rfl

/-- Frames are read back in order, and then the input has ended, however the bytes
are divided. -/
theorem readMany_write {values : List Json} {chunks : List (List UInt8)}
    (fit : ∀ json ∈ values, Fits json) (full : ∀ chunk ∈ chunks, chunk ≠ [])
    (written : chunks.flatten = values.flatMap write) :
    readMany (values.length + 1) (Source.ofChunks chunks) =
      (values.map .frame ++ [.ended], Source.ofChunks []) := by
  have flowing : (Source.ofChunks chunks).Flowing := full
  have received : (Source.ofChunks chunks).gathered = ⟨values.flatMap write, []⟩ := by
    simp [Source.gathered, Source.bytes, Source.ofChunks, written]
  rcases (readMany_even (values.length + 1)).split flowing with
    ⟨results, after, areResults, areGathered, flows⟩
  rw [received, readMany_writes fit] at areGathered
  rcases Prod.mk.inj areGathered with ⟨sameResults, sameBytes⟩
  have nothing : after.bytes = [] := (congrArg Source.buffered sameBytes).symm
  rw [areResults, ← sameResults, flows.eq_of_bytes_eq_nil nothing]
  rfl

/-! A value that holds the text of a frame, read one byte at a time. -/

namespace Lookalike

def lookalike : Json :=
  .obj [("\n\"\\", .str "Content-Length: 2\r\n\r\n[]"),
    ("é", .arr [.int Json.leastInt, .int Json.greatestInt, .null,
      .str (String.ofList [Char.ofNat 0, Char.ofNat 0x1F, Char.ofNat 0x7F, Char.ofNat 0x1F600])])]

def values : List Json := [lookalike, .bool true]

def chunks : List (List UInt8) := (values.flatMap write).map fun byte => [byte]

theorem fit : ∀ json ∈ values, Fits json := by
  have whole : lookalike.Whole := by
    refine .obj ?_ (by decide)
    intro member isMember
    simp only [List.mem_cons, List.not_mem_nil, or_false] at isMember
    rcases isMember with rfl | rfl
    · exact .str _
    · refine .arr ?_
      intro item isItem
      simp only [List.mem_cons, List.not_mem_nil, or_false] at isItem
      rcases isItem with rfl | rfl | rfl | rfl
      · exact .int (by decide) (by decide)
      · exact .int (by decide) (by decide)
      · exact .null
      · exact .str _
  intro json isValue
  simp only [values, List.mem_cons, List.not_mem_nil, or_false] at isValue
  rcases isValue with rfl | rfl
  · exact ⟨whole, by decide +kernel, by decide +kernel⟩
  · exact ⟨.bool true, by decide, by decide⟩

theorem readMany_lookalike :
    readMany 3 (Source.ofChunks chunks) =
      ([.frame lookalike, .frame (.bool true), .ended], Source.ofChunks []) := by
  have full : ∀ chunk ∈ chunks, chunk ≠ [] := by
    intro chunk member
    rcases List.mem_map.mp member with ⟨byte, _, rfl⟩
    exact List.cons_ne_nil byte []
  have written : chunks.flatten = values.flatMap write := by decide +kernel
  have isCount : values.length + 1 = 3 := rfl
  rw [← isCount]
  exact readMany_write fit full written

end Lookalike

end Frame

end TemplateCheck
