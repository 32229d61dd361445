import TemplateCheck.Proofs.Frame.RoundTrip
import TemplateCheck.Proofs.Text.Blank

/-! # The grammar of frames

A frame is a block of header lines, a blank line, and a body. A header line whose key is
`content-length` gives the length of the body in bytes, and the last one counts; all
other lines are passed over. A reader takes a frame off a stream exactly where the
stream begins with one, and it stops behind the body whether or not that is JSON.
-/

namespace TemplateCheck.Frame

open Text (trimChars isBlank cutAtFirst lowerAscii)

/-! ## What the lines are -/

/-- Decimal digits and their value, which has 64 bits. Zeros may stand in front. -/
structure Digits (digits : List Char) (value : Nat) : Prop where
  nonempty : digits ≠ []
  each : ∀ digit ∈ digits, Json.isDigit digit = true
  isValue : Nat.ofDigitChars 10 digits 0 = value
  fits : value ≤ 0xffffffffffffffff

/-- Digits, perhaps after a plus sign. -/
def Numeral (text : List Char) (value : Nat) : Prop :=
  Digits text value ∨ ∃ digits, text = '+' :: digits ∧ Digits digits value

/-- The text before the first colon is `content-length`, up to case and blanks around
it, and the value is what follows. -/
def LengthField (text value : List Char) : Prop :=
  ∃ key, text = key ++ ':' :: value ∧ ':' ∉ key ∧ (trimChars key).map lowerAscii = lengthKey

/-- Bytes that end with their first line feed, and the text that they encode. -/
structure Line (line : List UInt8) (text : List Char) : Prop where
  ends : ∃ front, line = front ++ [0x0A] ∧ 0x0A ∉ front
  encoded : line = Text.Utf8.encodeChars text

/-- A header line, with the length that it gives if it is a length field. -/
inductive Header (line : List UInt8) : Option Nat → Prop
  | length {text value : List Char} {number : Nat} (isLine : Line line text)
      (field : LengthField text value) (numeral : Numeral (trimChars value) number) :
      Header line (some number)
  | other {text : List Char} (isLine : Line line text) (visible : trimChars text ≠ [])
      (noField : ∀ value, ¬ LengthField text value) : Header line none

def BlankLine (line : List UInt8) : Prop :=
  ∃ text, Line line text ∧ trimChars text = []

/-- A stream that begins with a frame: headers, of which the last length is that of the
body, a blank line and the body. -/
def Framed (stream body rest : List UInt8) : Prop :=
  ∃ headers lengths blank, stream = headers.flatten ++ (blank ++ (body ++ rest)) ∧
    List.Forall₂ Header headers lengths ∧ BlankLine blank ∧
    (lengths.filterMap id).getLast? = some body.length ∧ body.length ≤ 33554432

/-! ## Reading lengths -/

theorem digitsValue_eq_ok_iff {digits : List Char} {start value : Nat}
    (small : start ≤ 0xffffffffffffffff) :
    digitsValue start digits = .ok value ↔
      (∀ digit ∈ digits, Json.isDigit digit = true) ∧
        Nat.ofDigitChars 10 digits start = value ∧ value ≤ 0xffffffffffffffff := by
  constructor
  · intro read
    induction digits generalizing start with
    | nil =>
        cases read
        exact ⟨nofun, rfl, small⟩
    | cons digit rest induction =>
        unfold digitsValue at read
        split at read
        · cases read
        · next isDigit =>
            dsimp only at read
            split at read
            · cases read
            · next fits =>
                rcases induction (Nat.le_of_not_lt fits) read with ⟨each, isValue, below⟩
                rw [Json.ofDigitChars_cons]
                refine ⟨?_, isValue, below⟩
                intro other member
                rcases List.mem_cons.mp member with first | later
                · rw [first]
                  simpa using isDigit
                · exact each other later
  · rintro ⟨each, isValue, below⟩
    subst isValue
    exact digitsValue_of_le each below

theorem digitsValue_eq_ok_iff_digits {digits : List Char} {value : Nat} (nonempty : digits ≠ []) :
    digitsValue 0 digits = .ok value ↔ Digits digits value := by
  rw [digitsValue_eq_ok_iff (Nat.zero_le _)]
  constructor
  · rintro ⟨each, isValue, below⟩
    exact ⟨nonempty, each, isValue, by omega⟩
  · intro digits
    have fits := digits.fits
    exact ⟨digits.each, digits.isValue, by omega⟩

theorem length_eq_ok_iff {text : List Char} {value : Nat} :
    length text = .ok value ↔ Numeral text value := by
  have noSign : ∀ {rest : List Char}, ¬ Digits ('+' :: rest) value := by
    intro rest digits
    cases digits.each '+' List.mem_cons_self
  rw [length.eq_def]
  split
  · constructor
    · intro equal
      cases equal
    · rintro (digits | ⟨_, equal, _⟩)
      · exact absurd rfl digits.nonempty
      · cases equal
  · constructor
    · intro equal
      cases equal
    · rintro (digits | ⟨_, equal, digits⟩)
      · exact absurd digits noSign
      · cases equal
        exact absurd rfl digits.nonempty
  · next digits isNotLone =>
      have nonempty : digits ≠ [] := fun empty => isNotLone (by rw [empty])
      rw [digitsValue_eq_ok_iff_digits nonempty]
      constructor
      · exact fun digits => Or.inr ⟨_, rfl, digits⟩
      · rintro (digits | ⟨_, equal, digits⟩)
        · exact absurd digits noSign
        · cases equal
          exact digits
  · next isNotNil isNotLone isNotSigned =>
      rw [digitsValue_eq_ok_iff_digits isNotNil]
      constructor
      · exact Or.inl
      · rintro (digits | ⟨rest, equal, digits⟩)
        · exact digits
        · exact absurd equal (isNotSigned rest)

theorem Numeral.unique {text : List Char} {left right : Nat} (first : Numeral text left)
    (second : Numeral text right) : left = right :=
  Except.ok.inj ((length_eq_ok_iff.mpr first).symm.trans (length_eq_ok_iff.mpr second))

/-! ## Reading header lines -/

theorem LengthField.cut {text value : List Char} (field : LengthField text value) :
    ∃ key, cutAtFirst ':' text = some (key, value) ∧
      (trimChars key).map lowerAscii = lengthKey := by
  rcases field with ⟨key, split, first, isKey⟩
  exact ⟨key, Text.cutAtFirst_eq_some_iff.mpr ⟨split, first⟩, isKey⟩

theorem LengthField.unique {text left right : List Char} (first : LengthField text left)
    (second : LengthField text right) : left = right := by
  rcases first.cut with ⟨key, cut, _⟩
  rcases second.cut with ⟨key', cut', _⟩
  rw [cut] at cut'
  cases cut'
  rfl

/-- A field can be cut off its line before the line is trimmed. -/
theorem cutAtFirst_trimChars {text key value : List Char}
    (cut : cutAtFirst ':' text = some (key, value)) :
    cutAtFirst ':' (trimChars text) = some (key.dropWhile isBlank, value.rdropWhile isBlank) := by
  rcases Text.cutAtFirst_eq_some_iff.mp cut with ⟨split, first⟩
  have visible : isBlank ':' = false := rfl
  rw [split, Text.trimChars_around visible, Text.cutAtFirst_eq_some_iff]
  exact ⟨rfl, fun member => first ((List.dropWhile_sublist isBlank).mem member)⟩

theorem LengthField.visible {text value : List Char} (field : LengthField text value) :
    trimChars text ≠ [] := by
  rcases field.cut with ⟨key, cut, _⟩
  have inside := cutAtFirst_trimChars cut
  intro empty
  rw [empty] at inside
  cases inside

/-- What a line of text can be to a reader. -/
inductive Reading (text : List Char) : Except Fault HeaderLine → Prop
  | blank (empty : trimChars text = []) : Reading text (.ok .blank)
  | other (visible : trimChars text ≠ []) (noField : ∀ value, ¬ LengthField text value) :
      Reading text (.ok .other)
  | length {value : List Char} {number : Nat} (field : LengthField text value)
      (numeral : Numeral (trimChars value) number) : Reading text (.ok (.length number))
  | invalid {value : List Char} {fault : Fault} (field : LengthField text value)
      (noNumeral : ∀ number, ¬ Numeral (trimChars value) number) : Reading text (.error fault)

theorem reading_headerLine (text : List Char) : Reading text (headerLine text) := by
  unfold headerLine
  by_cases empty : trimChars text = []
  · simp only [empty, List.isEmpty_nil, if_true]
    exact .blank empty
  · have visible : (trimChars text).isEmpty = false := List.isEmpty_eq_false_iff.mpr empty
    cases cut : cutAtFirst ':' text with
    | none =>
        have uncut : cutAtFirst ':' (trimChars text) = none := by
          rw [Text.cutAtFirst_eq_none_iff] at cut ⊢
          exact fun member => cut (Text.mem_of_mem_trimChars member)
        simp only [visible, Bool.false_eq_true, if_false, uncut]
        refine .other empty ?_
        intro value field
        rcases field.cut with ⟨key, found, _⟩
        rw [cut] at found
        cases found
    | some parts =>
        rcases parts with ⟨key, value⟩
        simp only [visible, Bool.false_eq_true, if_false, cutAtFirst_trimChars cut,
          Text.trimChars_dropWhile, Text.trimChars_rdropWhile]
        rcases Text.cutAtFirst_eq_some_iff.mp cut with ⟨split, first⟩
        by_cases isKey : (trimChars key).map lowerAscii = lengthKey
        · have field : LengthField text value := ⟨key, split, first, isKey⟩
          rw [if_pos isKey]
          cases read : length (trimChars value) with
          | ok number => exact .length field (length_eq_ok_iff.mp read)
          | error cause =>
              refine .invalid field ?_
              intro number numeral
              rw [length_eq_ok_iff.mpr numeral] at read
              cases read
        · rw [if_neg isKey]
          refine .other empty ?_
          intro other field
          rcases field.cut with ⟨key', found, isLength⟩
          rw [cut] at found
          cases found
          exact isKey isLength

theorem headerLine_of_field {text value : List Char} {number : Nat}
    (field : LengthField text value) (numeral : Numeral (trimChars value) number) :
    headerLine text = .ok (.length number) := by
  have reading := reading_headerLine text
  generalize headerLine text = read at reading
  cases reading with
  | blank empty => exact absurd empty field.visible
  | other visible noField => exact absurd field (noField value)
  | length field' numeral' =>
      cases field.unique field'
      rw [numeral.unique numeral']
  | invalid field' noNumeral =>
      cases field.unique field'
      exact absurd numeral (noNumeral number)

theorem headerLine_of_other {text : List Char} (visible : trimChars text ≠ [])
    (noField : ∀ value, ¬ LengthField text value) : headerLine text = .ok .other := by
  have reading := reading_headerLine text
  generalize headerLine text = read at reading
  cases reading with
  | blank empty => exact absurd empty visible
  | other _ _ => rfl
  | length field _ => exact absurd field (noField _)
  | invalid field _ => exact absurd field (noField _)

theorem headerLine_of_blank {text : List Char} (empty : trimChars text = []) :
    headerLine text = .ok .blank := by
  simp [headerLine, empty]

theorem Line.header_of_length {line : List UInt8} {text : List Char} (isLine : Line line text)
    {number : Nat} (read : headerLine text = .ok (.length number)) :
    Header line (some number) := by
  have reading := reading_headerLine text
  rw [read] at reading
  cases reading with
  | length field numeral => exact .length isLine field numeral

theorem Line.header_of_other {line : List UInt8} {text : List Char} (isLine : Line line text)
    (read : headerLine text = .ok .other) : Header line none := by
  have reading := reading_headerLine text
  rw [read] at reading
  cases reading with
  | other visible noField => exact .other isLine visible noField

theorem Line.blankLine {line : List UInt8} {text : List Char} (isLine : Line line text)
    (read : headerLine text = .ok .blank) : BlankLine line := by
  have reading := reading_headerLine text
  rw [read] at reading
  cases reading with
  | blank empty => exact ⟨text, isLine, empty⟩

/-! ## Reading the headers -/

theorem cutLine_eq_some {bytes line rest : List UInt8} (cut : cutLine bytes = some (line, rest)) :
    bytes = line ++ rest ∧ ∃ front, line = front ++ [0x0A] ∧ 0x0A ∉ front := by
  induction bytes generalizing line with
  | nil => cases cut
  | cons byte bytes induction =>
      rw [cutLine] at cut
      by_cases isFeed : byte = 0x0A
      · rw [if_pos isFeed] at cut
        cases cut
        exact ⟨rfl, [], by rw [isFeed]; rfl, List.not_mem_nil⟩
      · rw [if_neg isFeed] at cut
        rcases Option.map_eq_some_iff.mp cut with ⟨⟨first, after⟩, found, equal⟩
        cases equal
        rcases induction found with ⟨split, front, isLine, single⟩
        refine ⟨by rw [split]; rfl, byte :: front, by rw [isLine]; rfl, ?_⟩
        exact List.not_mem_cons_of_ne_of_not_mem (Ne.symm isFeed) single

/-- What a reader does with a line depends on its text, and it goes on behind it. -/
theorem readHeaders_line {line : List UInt8} {text : List Char} (isLine : Line line text)
    (bound : Nat) (started : Bool) (found : Option Nat) (rest : List UInt8) :
    readHeaders (bound + 1) started found ⟨line ++ rest, []⟩ =
      match headerLine text with
      | .error fault => (.error fault, ⟨rest, []⟩)
      | .ok .blank =>
          match found with
          | some length => (.ok (.body length), ⟨rest, []⟩)
          | none => (.error .missingLength, ⟨rest, []⟩)
      | .ok .other => readHeaders bound true found ⟨rest, []⟩
      | .ok (.length value) => readHeaders bound true (some value) ⟨rest, []⟩ := by
  rcases isLine.ends with ⟨front, ends, single⟩
  have cut : cutLine (line ++ rest) = some (line, rest) := by
    rw [ends, List.append_assoc, List.singleton_append, cutLine_lineFeed single]
  have read : readLine ⟨line ++ rest, []⟩ = (line, ⟨rest, []⟩) := by
    rw [readLine, readLineFrom, cut]
  have nonempty : line.isEmpty = false := by
    rw [ends]
    simp
  have decoded := Text.Utf8.decodeChars_eq_ok_iff.mpr isLine.encoded
  cases isHeader : headerLine text with
  | error fault => simp [readHeaders, read, nonempty, decoded, isHeader]
  | ok header =>
      cases header with
      | blank => cases found <;> simp [readHeaders, read, nonempty, decoded, isHeader]
      | other => simp [readHeaders, read, nonempty, decoded, isHeader]
      | length value => simp [readHeaders, read, nonempty, decoded, isHeader]

/-- The last length of some lines, or the one found before them. -/
def lastLength (lengths : List (Option Nat)) (found : Option Nat) : Option Nat :=
  (lengths.filterMap id).getLast?.or found

theorem lastLength_cons (length : Option Nat) (lengths : List (Option Nat)) (found : Option Nat) :
    lastLength (length :: lengths) found = lastLength lengths (length.or found) := by
  cases length with
  | none => rfl
  | some value =>
      have first : (some value :: lengths).filterMap id = value :: lengths.filterMap id := rfl
      rw [lastLength, first, List.getLast?_cons, lastLength]
      cases (lengths.filterMap id).getLast? with
      | none => rfl
      | some last => rfl

theorem readHeaders_of_header {line : List UInt8} {length : Option Nat} (header : Header line length)
    (bound : Nat) (started : Bool) (found : Option Nat) (rest : List UInt8) :
    readHeaders (bound + 1) started found ⟨line ++ rest, []⟩ =
      readHeaders bound true (length.or found) ⟨rest, []⟩ := by
  cases header with
  | length isLine field numeral =>
      rw [readHeaders_line isLine, headerLine_of_field field numeral]
      rfl
  | other isLine visible noField =>
      rw [readHeaders_line isLine, headerLine_of_other visible noField]
      rfl

/-- Headers are read to the end of their blank line, and the last length counts. -/
theorem readHeaders_of_headers {headers : List (List UInt8)} {lengths : List (Option Nat)}
    (areHeaders : List.Forall₂ Header headers lengths) {blank : List UInt8}
    (isBlank : BlankLine blank) {bound : Nat} (enough : headers.length < bound) (started : Bool)
    {found : Option Nat} {count : Nat} (last : lastLength lengths found = some count)
    (rest : List UInt8) :
    readHeaders bound started found ⟨headers.flatten ++ (blank ++ rest), []⟩ =
      (.ok (.body count), ⟨rest, []⟩) := by
  induction areHeaders generalizing bound started found with
  | nil =>
      rcases isBlank with ⟨text, isLine, empty⟩
      rcases Nat.exists_eq_add_of_lt enough with ⟨lines, isBound⟩
      have isFound : found = some count := last
      rw [isBound, List.flatten_nil, List.nil_append, readHeaders_line isLine,
        headerLine_of_blank empty, isFound]
  | @cons line length headers lengths header others induction =>
      rw [List.length_cons] at enough
      rw [lastLength_cons] at last
      rcases Nat.exists_eq_add_of_lt enough with ⟨lines, isBound⟩
      rw [isBound, List.flatten_cons, List.append_assoc, readHeaders_of_header header]
      exact induction (by omega) true last

/-- At the end of the input nothing is left behind. -/
theorem readHeaders_nothing (bound : Nat) (started : Bool) (found : Option Nat) :
    (readHeaders bound started found ⟨[], []⟩).2 = ⟨[], []⟩ := by
  cases bound with
  | zero => rfl
  | succ bound =>
      cases started with
      | false => rfl
      | true => rfl

/-- A line without a line feed is all that is left. -/
theorem readHeaders_unended {bytes : List UInt8} (unended : cutLine bytes = none) (bound : Nat)
    (started : Bool) (found : Option Nat) :
    (readHeaders (bound + 1) started found ⟨bytes, []⟩).2 = ⟨[], []⟩ := by
  have read : readLine ⟨bytes, []⟩ = (bytes, ⟨[], []⟩) := by
    rw [readLine, readLineFrom, unended]
  simp only [readHeaders, read]
  split
  · rfl
  · split
    · rfl
    · split
      · rfl
      · split
        · rfl
        · rfl
      · exact readHeaders_nothing _ _ _
      · exact readHeaders_nothing _ _ _

/-- Where a reader has found the length of a body, it has read headers and a blank line,
or the input has ended. -/
theorem headers_of_readHeaders {bound : Nat} {started : Bool} {found : Option Nat}
    {bytes : List UInt8} {count : Nat} {after : Source}
    (read : readHeaders bound started found ⟨bytes, []⟩ = (.ok (.body count), after)) :
    after = ⟨[], []⟩ ∨
      ∃ headers lengths blank rest, bytes = headers.flatten ++ (blank ++ rest) ∧
        after = ⟨rest, []⟩ ∧ List.Forall₂ Header headers lengths ∧ BlankLine blank ∧
        lastLength lengths found = some count := by
  induction bound generalizing started found bytes with
  | zero => cases read
  | succ bound induction =>
      cases cut : cutLine bytes with
      | none =>
          have nothing := readHeaders_unended cut bound started found
          rw [read] at nothing
          exact Or.inl nothing
      | some parts =>
          rcases parts with ⟨line, rest⟩
          rcases cutLine_eq_some cut with ⟨split, ends⟩
          -- Behind a header the reader goes on, with the length that it gave.
          have goesOn : ∀ length, Header line length →
              readHeaders bound true (length.or found) ⟨rest, []⟩ = (.ok (.body count), after) →
              after = ⟨[], []⟩ ∨
                ∃ headers lengths blank rest, bytes = headers.flatten ++ (blank ++ rest) ∧
                  after = ⟨rest, []⟩ ∧ List.Forall₂ Header headers lengths ∧ BlankLine blank ∧
                  lastLength lengths found = some count := by
            intro length header later
            rcases induction later with
              ended | ⟨headers, lengths, blank, behind, splitRest, isAfter, areHeaders, isBlank, last⟩
            · exact Or.inl ended
            · refine Or.inr ⟨line :: headers, length :: lengths, blank, behind, ?_, isAfter,
                .cons header areHeaders, isBlank, ?_⟩
              · rw [split, splitRest, List.flatten_cons, List.append_assoc]
              · rw [lastLength_cons]
                exact last
          cases decoded : Text.Utf8.decodeChars line with
          | error cause =>
              have isRead : readLine ⟨bytes, []⟩ = (line, ⟨rest, []⟩) := by
                rw [readLine, readLineFrom, cut]
              have nonempty : line.isEmpty = false := by
                rcases ends with ⟨front, isLine, _⟩
                rw [isLine]
                simp
              simp [readHeaders, isRead, nonempty, decoded] at read
          | ok text =>
              have isLine : Line line text := ⟨ends, Text.Utf8.decodeChars_eq_ok_iff.mp decoded⟩
              rw [split, readHeaders_line isLine] at read
              cases isHeader : headerLine text with
              | error fault => simp [isHeader] at read
              | ok header =>
                  rw [isHeader] at read
                  cases header with
                  | blank =>
                      cases found with
                      | none => cases read
                      | some length =>
                          cases read
                          exact Or.inr ⟨[], [], line, rest, split, rfl, .nil,
                            isLine.blankLine isHeader, rfl⟩
                  | other => exact goesOn none (isLine.header_of_other isHeader) read
                  | length value => exact goesOn _ (isLine.header_of_length isHeader) read

/-! ## Reading frames -/

theorem Header.line {line : List UInt8} {length : Option Nat} (header : Header line length) :
    ∃ text, Line line text := by
  cases header with
  | length isLine _ _ => exact ⟨_, isLine⟩
  | other isLine _ _ => exact ⟨_, isLine⟩

theorem length_le_of_headers {headers : List (List UInt8)} {lengths : List (Option Nat)}
    (areHeaders : List.Forall₂ Header headers lengths) :
    headers.length ≤ headers.flatten.length := by
  induction areHeaders with
  | nil => exact Nat.le_refl _
  | cons header others induction =>
      rcases header.line with ⟨text, ⟨front, ends, _⟩, _⟩
      rw [List.flatten_cons, List.length_append, List.length_cons, ends, List.length_append,
        List.length_singleton]
      omega

/-- What a body says. -/
def bodyResult (body : List UInt8) : Result :=
  match parseBody body with
  | some json => .frame json
  | none => .fault .bodyNotJson

theorem bodyResult_eq_frame_iff {body : List UInt8} {json : Json} :
    bodyResult body = .frame json ↔ parseBody body = some json := by
  unfold bodyResult
  cases parseBody body with
  | none => exact ⟨nofun, nofun⟩
  | some found => exact ⟨fun equal => by cases equal; rfl, fun equal => by cases equal; rfl⟩

theorem readBody_append {body : List UInt8} (short : body.length ≤ greatestLength)
    (rest : List UInt8) :
    readBody body.length ⟨body ++ rest, []⟩ = (bodyResult body, ⟨rest, []⟩) := by
  have enough : body.length ≤ (body ++ rest).length := by
    rw [List.length_append]
    exact Nat.le_add_right _ _
  rw [readBody, if_neg (Nat.not_lt.mpr short), readBytes, readBytesFrom, if_pos enough,
    List.take_left, List.drop_left, bodyResult]
  dsimp only
  cases parseBody body with
  | none => rfl
  | some json => rfl

theorem body_of_readBody {count : Nat} {bytes : List UInt8} {json : Json} {after : Source}
    (isRead : readBody count ⟨bytes, []⟩ = (.frame json, after)) :
    ∃ body rest, bytes = body ++ rest ∧ body.length = count ∧ count ≤ greatestLength ∧
      after = ⟨rest, []⟩ ∧ parseBody body = some json := by
  by_cases long : greatestLength < count
  · rw [readBody, if_pos long] at isRead
    cases isRead
  · by_cases enough : count ≤ bytes.length
    · have isLength : (bytes.take count).length = count := by
        rw [List.length_take, Nat.min_eq_left enough]
      have short : (bytes.take count).length ≤ greatestLength := by
        rw [isLength]
        exact Nat.le_of_not_lt long
      have read := readBody_append short (bytes.drop count)
      rw [isLength, List.take_append_drop, isRead] at read
      refine ⟨bytes.take count, bytes.drop count, (List.take_append_drop _ _).symm, isLength,
        Nat.le_of_not_lt long, congrArg Prod.snd read, ?_⟩
      exact bodyResult_eq_frame_iff.mp (congrArg Prod.fst read).symm
    · rw [readBody, if_neg long, readBytes, readBytesFrom, if_neg enough] at isRead
      cases isRead

/-- A stream that begins with a frame is read up to the end of its body. -/
theorem read_of_framed {stream body rest : List UInt8} (framed : Framed stream body rest) :
    read ⟨stream, []⟩ = (bodyResult body, ⟨rest, []⟩) := by
  rcases framed with ⟨headers, lengths, blank, split, areHeaders, isBlank, last, short⟩
  have enough : headers.length < (Source.bytes ⟨stream, []⟩).length + 1 := by
    have lines := length_le_of_headers areHeaders
    simp only [Source.bytes, split, List.length_append]
    omega
  have found : lastLength lengths none = some body.length := by
    rw [lastLength, last]
    rfl
  have headersRead := readHeaders_of_headers areHeaders isBlank enough false found (body ++ rest)
  rw [← split] at headersRead
  rw [read, headersRead]
  exact readBody_append short rest

theorem framed_of_read {stream : List UInt8} {json : Json} {after : Source}
    (isRead : read ⟨stream, []⟩ = (.frame json, after)) :
    ∃ body rest, after = ⟨rest, []⟩ ∧ Framed stream body rest ∧ parseBody body = some json := by
  unfold read at isRead
  split at isRead
  · cases isRead
  · cases isRead
  · next count middle headersRead =>
      rcases headers_of_readHeaders headersRead with
        ended | ⟨headers, lengths, blank, behind, split, isMiddle, areHeaders, isBlank, last⟩
      · -- Nothing is left for a body, and nothing is no JSON.
        rw [ended] at isRead
        rcases body_of_readBody isRead with ⟨body, rest, nothing, _, _, _, parsed⟩
        rw [(List.append_eq_nil_iff.mp nothing.symm).1] at parsed
        cases parsed
      · rw [isMiddle] at isRead
        rcases body_of_readBody isRead with ⟨body, rest, isBehind, isLength, short, isAfter, parsed⟩
        refine ⟨body, rest, isAfter, ⟨headers, lengths, blank, ?_, areHeaders, isBlank, ?_, ?_⟩, parsed⟩
        · rw [split, isBehind]
        · have isLast : lastLength lengths none = (lengths.filterMap id).getLast? := Option.or_none
          rw [← isLast, last, isLength]
        · rw [isLength]
          exact short

/-- Frames are read exactly where the grammar has them. A body that is not JSON is a
fault, but it is read to its end, so the next frame begins where it should. -/
theorem read_grammar {source : Source} (flowing : source.Flowing) :
    (∀ json rest,
      (∃ after, read source = (.frame json, after) ∧ after.bytes = rest) ↔
        ∃ body, Framed source.bytes body rest ∧ parseBody body = some json) ∧
    ∀ body rest, Framed source.bytes body rest → parseBody body = none →
      ∃ after, read source = (.fault .bodyNotJson, after) ∧ after.bytes = rest ∧ after.Flowing := by
  rcases read_even.split flowing with ⟨result, after, isRead, isGathered, flows⟩
  have gathered : source.gathered = ⟨source.bytes, []⟩ := rfl
  rw [gathered] at isGathered
  -- What is read of a frame, and what is left, do not depend on the chunks.
  have ofFramed : ∀ body rest, Framed source.bytes body rest →
      result = bodyResult body ∧ after.bytes = rest := by
    intro body rest framed
    rw [read_of_framed framed] at isGathered
    exact ⟨(congrArg Prod.fst isGathered).symm,
      (congrArg (fun pair => pair.2.buffered) isGathered).symm⟩
  constructor
  · intro json rest
    constructor
    · rintro ⟨after', read', isRest⟩
      rw [isRead] at read'
      cases read'
      rcases framed_of_read isGathered with ⟨body, rest', isAfter, framed, parsed⟩
      rw [← isRest, (ofFramed body rest' framed).2]
      exact ⟨body, framed, parsed⟩
    · rintro ⟨body, framed, parsed⟩
      rcases ofFramed body rest framed with ⟨isResult, isRest⟩
      rw [bodyResult_eq_frame_iff.mpr parsed] at isResult
      exact ⟨after, by rw [isRead, isResult], isRest⟩
  · intro body rest framed notJson
    rcases ofFramed body rest framed with ⟨isResult, isRest⟩
    have fault : bodyResult body = .fault .bodyNotJson := by
      rw [bodyResult, notJson]
    exact ⟨after, by rw [isRead, isResult, fault], isRest, flows⟩

/-! Two frames that arrive byte by byte. The headers of the first hold a line without a
colon and two lengths, of which the last has a no-break space in front of its key and a
sign and zeros in front of its digits. Its body is not JSON. -/

namespace OddHeaders

def line (text : String) : List UInt8 := Text.Utf8.encode text

def headers : List (List UInt8) :=
  [line "no colon\n", line "Content-Length: 99\r\n",
    line "\u00a0CONTENT-length\t: +0003 \r\n", line "Content-Type: content-length: x\r\n"]

def lengths : List (Option Nat) := [none, some 99, some 3, none]

def second : List UInt8 := line "content-length:1\n" ++ (line " \n" ++ ([0x35] ++ line "Con"))

def chunks : List (List UInt8) :=
  (headers.flatten ++ (line "\t\r\n" ++ (line "[1," ++ second))).map fun byte => [byte]

theorem isLine {text : String} (feeds : (line text).getLast? = some 0x0A)
    (single : 0x0A ∉ (line text).dropLast) : Line (line text) text.toList where
  ends := ⟨_, (List.dropLast_append_getLast? _ feeds).symm, single⟩
  encoded := rfl

theorem framed_first : Framed (chunks.flatten) (line "[1,") second := by
  refine ⟨headers, lengths, line "\t\r\n", by decide +kernel, ?_, ?_, by decide +kernel,
    by decide +kernel⟩
  · refine .cons ?_ (.cons ?_ (.cons ?_ (.cons ?_ .nil)))
    · exact (isLine (by decide +kernel) (by decide +kernel)).header_of_other (by decide +kernel)
    · exact (isLine (by decide +kernel) (by decide +kernel)).header_of_length (by decide +kernel)
    · exact (isLine (by decide +kernel) (by decide +kernel)).header_of_length (by decide +kernel)
    · exact (isLine (by decide +kernel) (by decide +kernel)).header_of_other (by decide +kernel)
  · exact (isLine (by decide +kernel) (by decide +kernel)).blankLine (by decide +kernel)

theorem framed_second : Framed second [0x35] (line "Con") := by
  refine ⟨[line "content-length:1\n"], [some 1], line " \n", by decide +kernel, ?_, ?_,
    by decide +kernel, by decide +kernel⟩
  · refine .cons ?_ .nil
    exact (isLine (by decide +kernel) (by decide +kernel)).header_of_length (by decide +kernel)
  · exact (isLine (by decide +kernel) (by decide +kernel)).blankLine (by decide +kernel)

/-- The first frame is a fault, and the second one is read nevertheless. -/
theorem read_oddHeaders :
    ∃ middle after, read (Source.ofChunks chunks) = (.fault .bodyNotJson, middle) ∧
      read middle = (.frame (.int 5), after) ∧ after.bytes = line "Con" := by
  have flowing : (Source.ofChunks chunks).Flowing := by
    intro chunk member
    rcases List.mem_map.mp member with ⟨byte, _, rfl⟩
    exact List.cons_ne_nil byte []
  rcases (read_grammar flowing).2 _ _ framed_first (by decide +kernel) with
    ⟨middle, isFault, isSecond, flows⟩
  have framed : Framed middle.bytes [0x35] (line "Con") := isSecond ▸ framed_second
  rcases ((read_grammar flows).1 (.int 5) (line "Con")).mpr ⟨_, framed, by rfl⟩ with
    ⟨after, isFrame, isRest⟩
  exact ⟨middle, after, isFault, isFrame, isRest⟩

end OddHeaders

end TemplateCheck.Frame
