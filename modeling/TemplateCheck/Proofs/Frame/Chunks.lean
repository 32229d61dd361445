import TemplateCheck.Frame

/-! # However the bytes are divided

A reader waits for more bytes only while there may be more, so as long as no chunk is
empty it does not see where one ends. It reads what it would read if all bytes had come
at once, and leaves the bytes that it would have left then.
-/

namespace TemplateCheck.Frame

namespace Source

/-- No chunk is empty, so the input does not seem to end before it does. -/
def Flowing (source : Source) : Prop :=
  ∀ chunk ∈ source.chunks, chunk ≠ []

/-- The same bytes, all received. -/
def gathered (source : Source) : Source := ⟨source.bytes, []⟩

theorem bytes_gathered (source : Source) : source.gathered.bytes = source.bytes := by
  simp [gathered, bytes]

theorem flowing_of_no_chunks (buffered : List UInt8) : Flowing ⟨buffered, []⟩ :=
  nofun

theorem Flowing.eq_of_bytes_eq_nil {source : Source} (flowing : source.Flowing)
    (empty : source.bytes = []) : source = ⟨[], []⟩ := by
  rcases source with ⟨buffered, chunks⟩
  rcases List.append_eq_nil_iff.mp empty with ⟨noneBuffered, noneToCome⟩
  dsimp only at noneBuffered noneToCome
  cases chunks with
  | nil => rw [noneBuffered]
  | cons chunk rest =>
      have isEmpty := List.flatten_eq_nil_iff.mp noneToCome chunk List.mem_cons_self
      exact absurd isEmpty (flowing chunk List.mem_cons_self)

end Source

/-- What is read does not depend on how the bytes are divided. -/
def Even {result : Type} (reader : Source → result × Source) : Prop :=
  ∀ source : Source, source.Flowing →
    (reader source).2.Flowing ∧
      reader source.gathered = ((reader source).1, (reader source).2.gathered)

theorem Even.split {result : Type} {reader : Source → result × Source} (even : Even reader)
    {source : Source} (flowing : source.Flowing) :
    ∃ value after, reader source = (value, after) ∧ reader source.gathered = (value, after.gathered) ∧
      after.Flowing :=
  ⟨_, _, rfl, (even source flowing).2, (even source flowing).1⟩

/-! ## Lines -/

theorem cutLine_append {bytes line rest : List UInt8} (found : cutLine bytes = some (line, rest))
    (later : List UInt8) : cutLine (bytes ++ later) = some (line, rest ++ later) := by
  induction bytes generalizing line with
  | nil => cases found
  | cons byte bytes induction =>
      rw [cutLine] at found
      rw [List.cons_append, cutLine]
      split at found
      · next isFeed =>
          cases found
          rw [if_pos isFeed]
      · next notFeed =>
          rcases Option.map_eq_some_iff.mp found with ⟨⟨front, after⟩, isFront, isLine⟩
          cases isLine
          rw [if_neg notFeed, induction isFront]
          rfl

theorem readLineFrom_even (buffered : List UInt8) (chunks : List (List UInt8))
    (flowing : Source.Flowing ⟨buffered, chunks⟩) :
    (readLineFrom buffered chunks).2.Flowing ∧
      readLineFrom (buffered ++ chunks.flatten) [] =
        ((readLineFrom buffered chunks).1, (readLineFrom buffered chunks).2.gathered) := by
  induction chunks generalizing buffered with
  | nil =>
      rw [List.flatten_nil, List.append_nil, readLineFrom]
      cases cutLine buffered with
      | none => exact ⟨Source.flowing_of_no_chunks _, rfl⟩
      | some found =>
          refine ⟨Source.flowing_of_no_chunks _, ?_⟩
          simp [Source.gathered, Source.bytes]
  | cons chunk chunks induction =>
      cases found : cutLine buffered with
      | some parts =>
          rcases parts with ⟨line, rest⟩
          have ran : readLineFrom buffered (chunk :: chunks) = (line, ⟨rest, chunk :: chunks⟩) := by
            simp only [readLineFrom, found]
          rw [ran]
          refine ⟨flowing, ?_⟩
          rw [readLineFrom, cutLine_append found]
          rfl
      | none =>
          have full : chunk.isEmpty = false := by
            simpa using flowing chunk List.mem_cons_self
          have later := induction (buffered ++ chunk)
            fun other member => flowing other (List.mem_cons_of_mem _ member)
          have ran : readLineFrom buffered (chunk :: chunks) =
              readLineFrom (buffered ++ chunk) chunks := by
            simp only [readLineFrom, found, full, Bool.false_eq_true, if_false]
          rw [ran, List.flatten_cons, ← List.append_assoc]
          exact later

theorem readLine_even : Even readLine := fun source flowing =>
  readLineFrom_even source.buffered source.chunks flowing

/-! ## Bytes -/

theorem readBytesFrom_even (count : Nat) (buffered : List UInt8) (chunks : List (List UInt8))
    (flowing : Source.Flowing ⟨buffered, chunks⟩) :
    (readBytesFrom count buffered chunks).2.Flowing ∧
      readBytesFrom count (buffered ++ chunks.flatten) [] =
        ((readBytesFrom count buffered chunks).1,
          (readBytesFrom count buffered chunks).2.gathered) := by
  induction chunks generalizing buffered with
  | nil =>
      rw [List.flatten_nil, List.append_nil, readBytesFrom]
      split
      · refine ⟨Source.flowing_of_no_chunks _, ?_⟩
        simp [Source.gathered, Source.bytes]
      · exact ⟨Source.flowing_of_no_chunks _, rfl⟩
  | cons chunk chunks induction =>
      by_cases enough : count ≤ buffered.length
      · have ran : readBytesFrom count buffered (chunk :: chunks) =
            (some (buffered.take count), ⟨buffered.drop count, chunk :: chunks⟩) := by
          simp only [readBytesFrom, enough, if_true]
        rw [ran]
        refine ⟨flowing, ?_⟩
        have more : count ≤ (buffered ++ (chunk :: chunks).flatten).length := by
          rw [List.length_append]
          omega
        rw [readBytesFrom, if_pos more, List.take_append_of_le_length enough,
          List.drop_append_of_le_length enough]
        rfl
      · have full : chunk.isEmpty = false := by
          simpa using flowing chunk List.mem_cons_self
        have later := induction (buffered ++ chunk)
          fun other member => flowing other (List.mem_cons_of_mem _ member)
        have ran : readBytesFrom count buffered (chunk :: chunks) =
            readBytesFrom count (buffered ++ chunk) chunks := by
          simp only [readBytesFrom, enough, full, Bool.false_eq_true, if_false]
        rw [ran, List.flatten_cons, ← List.append_assoc]
        exact later

theorem readBytes_even (count : Nat) : Even (readBytes count) := fun source flowing =>
  readBytesFrom_even count source.buffered source.chunks flowing

/-! ## Frames -/

theorem readHeaders_even (bound : Nat) (started : Bool) (found : Option Nat) :
    Even (readHeaders bound started found) := by
  induction bound generalizing started found with
  | zero => exact fun source flowing => ⟨flowing, rfl⟩
  | succ bound induction =>
      intro source flowing
      rcases readLine_even.split flowing with ⟨line, after, isLine, isGathered, flows⟩
      simp only [readHeaders, isLine, isGathered]
      -- The line is the same, and what is done next depends on nothing else.
      split
      · exact ⟨flows, rfl⟩
      · split
        · exact ⟨flows, rfl⟩
        · split
          · exact ⟨flows, rfl⟩
          · split
            · exact ⟨flows, rfl⟩
            · exact ⟨flows, rfl⟩
          · exact induction true found after flows
          · exact induction true _ after flows

theorem readBody_even (count : Nat) : Even (readBody count) := by
  intro source flowing
  unfold readBody
  split
  · exact ⟨flowing, rfl⟩
  · rcases (readBytes_even count).split flowing with ⟨body, after, isBody, isGathered, flows⟩
    rw [isBody, isGathered]
    cases body with
    | none => exact ⟨flows, rfl⟩
    | some body =>
        dsimp only
        split
        · exact ⟨flows, rfl⟩
        · exact ⟨flows, rfl⟩

theorem read_even : Even read := by
  intro source flowing
  rcases (readHeaders_even (source.bytes.length + 1) false none).split flowing with
    ⟨headers, after, isHeaders, isGathered, flows⟩
  simp only [read, source.bytes_gathered, isHeaders, isGathered]
  cases headers with
  | error fault => exact ⟨flows, rfl⟩
  | ok headers =>
      cases headers with
      | ended => exact ⟨flows, rfl⟩
      | body count => exact readBody_even count after flows

/-- Reading again and again. -/
def readMany : Nat → Source → List Result × Source
  | 0, source => ([], source)
  | times + 1, source =>
      let (result, source) := read source
      let (results, source) := readMany times source
      (result :: results, source)

theorem readMany_even (times : Nat) : Even (readMany times) := by
  induction times with
  | zero => exact fun source flowing => ⟨flowing, rfl⟩
  | succ times induction =>
      intro source flowing
      rcases read_even.split flowing with ⟨result, after, isResult, isGathered, flows⟩
      rcases induction.split flows with ⟨results, last, areResults, areGathered, flowsLast⟩
      simp only [readMany, isResult, isGathered, areResults, areGathered]
      exact ⟨flowsLast, trivial⟩

end TemplateCheck.Frame
