import TemplateCheck.Proofs.Frame.Grammar

/-! # Readers make progress

While there are bytes left, reading takes at least one of them, whatever comes of it, and only at
the end of the input does it say that the input has ended. So a reader that goes on after every
fault comes to the end, after no more turns than there were bytes. Header lines come to an end by
themselves: each of them takes bytes away, and the bound on their number is never met.
-/

namespace TemplateCheck.Frame

/-! ## Lines and bodies -/

theorem append_readLineFrom (buffered : List UInt8) (chunks : List (List UInt8)) :
    (readLineFrom buffered chunks).1 ++ (readLineFrom buffered chunks).2.bytes =
      buffered ++ chunks.flatten := by
  induction chunks generalizing buffered with
  | nil =>
      rw [readLineFrom]
      cases cut : cutLine buffered with
      | none => simp [Source.bytes]
      | some parts => simp [Source.bytes, (cutLine_eq_some cut).1]
  | cons chunk chunks induction =>
      rw [readLineFrom]
      cases cut : cutLine buffered with
      | none =>
          dsimp only
          split
          · next empty => simp [Source.bytes, List.isEmpty_iff.mp empty]
          · rw [induction, List.flatten_cons, List.append_assoc]
      | some parts => simp [Source.bytes, (cutLine_eq_some cut).1]

/-- A line and what is left are what there was. -/
theorem append_readLine (source : Source) :
    (readLine source).1 ++ (readLine source).2.bytes = source.bytes :=
  append_readLineFrom source.buffered source.chunks

theorem readLine_ne_nil {source : Source} (flowing : source.Flowing) (some : source.bytes ≠ []) :
    (readLine source).1 ≠ [] := by
  rcases readLine_even.split flowing with ⟨line, after, isLine, isGathered, -⟩
  rw [isLine]
  rintro rfl
  rw [Source.gathered, readLine, readLineFrom] at isGathered
  cases cut : cutLine source.bytes with
  | none =>
      rw [cut] at isGathered
      exact some (Prod.mk.inj isGathered).1
  | some parts =>
      rw [cut] at isGathered
      rcases (cutLine_eq_some cut).2 with ⟨front, isFront, -⟩
      rw [(Prod.mk.inj isGathered).1] at isFront
      exact List.append_ne_nil_of_right_ne_nil front (List.cons_ne_nil _ _) isFront.symm

theorem suffix_readBytesFrom (count : Nat) (buffered : List UInt8) (chunks : List (List UInt8)) :
    (readBytesFrom count buffered chunks).2.bytes <:+ buffered ++ chunks.flatten := by
  induction chunks generalizing buffered with
  | nil =>
      rw [readBytesFrom]
      split
      · simpa [Source.bytes] using List.drop_suffix count buffered
      · exact List.nil_suffix
  | cons chunk chunks induction =>
      rw [readBytesFrom]
      split
      · next enough =>
          rw [Source.bytes, ← List.drop_append_of_le_length enough]
          exact List.drop_suffix _ _
      · split
        · rw [List.flatten_cons, ← List.append_assoc]
          exact List.suffix_append _ _
        · rw [List.flatten_cons, ← List.append_assoc]
          exact induction (buffered ++ chunk)

/-- What is left behind a body was there before, also where the body is cut short. -/
theorem suffix_readBody (count : Nat) (source : Source) :
    (readBody count source).2.bytes <:+ source.bytes := by
  have suffix : (readBytes count source).2.bytes <:+ source.bytes :=
    suffix_readBytesFrom count source.buffered source.chunks
  unfold readBody
  split
  · exact List.suffix_rfl
  · rcases isBody : readBytes count source with ⟨body, after⟩
    rw [isBody] at suffix
    cases body with
    | none => exact suffix
    | some body =>
        dsimp only
        split
        · exact suffix
        · exact suffix

theorem readBody_ne_ended (count : Nat) (source : Source) : (readBody count source).1 ≠ .ended := by
  unfold readBody
  split
  · nofun
  · split
    · nofun
    · split
      · nofun
      · nofun

/-! ## Headers -/

/-- A line is taken off the input. -/
structure Takes (source : Source) (line : List UInt8) (after : Source) : Prop where
  isLine : readLine source = (line, after)
  some : line ≠ []

theorem Takes.shorter {source after : Source} {line : List UInt8}
    (takes : Takes source line after) :
    after.bytes <:+ source.bytes ∧ after.bytes.length < source.bytes.length := by
  have split := append_readLine source
  rw [takes.isLine] at split
  dsimp only at split
  have some := List.length_pos_iff.mpr takes.some
  rw [← split, List.length_append]
  exact ⟨List.suffix_append _ _, by omega⟩

/-- Reading header lines for as long as it takes. The flag says whether a line was read before, and
the number is the length that the lines before gave. -/
inductive HeaderRun : Bool → Option Nat → Source → Except Fault Headers × Source → Prop
  | ended {found : Option Nat} {source after : Source} (nothing : readLine source = ([], after)) :
      HeaderRun false found source (.ok .ended, after)
  | broken {found : Option Nat} {source after : Source} (nothing : readLine source = ([], after)) :
      HeaderRun true found source (.error .endedInHeaders, after)
  | notText {started : Bool} {found : Option Nat} {source after : Source} {line : List UInt8}
      {cause : Text.Utf8.Fault} (takes : Takes source line after)
      (undecoded : Text.Utf8.decodeChars line = .error cause) :
      HeaderRun started found source (.error (.headerNotText cause), after)
  | invalid {started : Bool} {found : Option Nat} {source after : Source} {line : List UInt8}
      {text : List Char} {fault : Fault} (takes : Takes source line after)
      (decoded : Text.Utf8.decodeChars line = .ok text) (isInvalid : headerLine text = .error fault) :
      HeaderRun started found source (.error fault, after)
  | complete {started : Bool} {length : Nat} {source after : Source} {line : List UInt8}
      {text : List Char} (takes : Takes source line after)
      (decoded : Text.Utf8.decodeChars line = .ok text) (isBlank : headerLine text = .ok .blank) :
      HeaderRun started (some length) source (.ok (.body length), after)
  | lengthless {started : Bool} {source after : Source} {line : List UInt8} {text : List Char}
      (takes : Takes source line after) (decoded : Text.Utf8.decodeChars line = .ok text)
      (isBlank : headerLine text = .ok .blank) :
      HeaderRun started none source (.error .missingLength, after)
  | other {started : Bool} {found : Option Nat} {source after : Source} {line : List UInt8}
      {text : List Char} {result : Except Fault Headers × Source} (takes : Takes source line after)
      (decoded : Text.Utf8.decodeChars line = .ok text) (isOther : headerLine text = .ok .other)
      (later : HeaderRun true found after result) : HeaderRun started found source result
  | length {started : Bool} {found : Option Nat} {source after : Source} {line : List UInt8}
      {text : List Char} {value : Nat} {result : Except Fault Headers × Source}
      (takes : Takes source line after) (decoded : Text.Utf8.decodeChars line = .ok text)
      (isLength : headerLine text = .ok (.length value))
      (later : HeaderRun true (some value) after result) : HeaderRun started found source result

namespace HeaderRun

variable {started : Bool} {found : Option Nat} {source : Source}
  {result : Except Fault Headers × Source}

/-- A bound above the number of bytes is never met. -/
theorem of_readHeaders {bound : Nat} (enough : source.bytes.length < bound) :
    HeaderRun started found source (readHeaders bound started found source) := by
  induction bound generalizing started found source with
  | zero => exact absurd enough (Nat.not_lt_zero _)
  | succ bound induction =>
      rcases isLine : readLine source with ⟨line, after⟩
      by_cases empty : line = []
      · subst empty
        cases started with
        | false => simpa [readHeaders, isLine] using ended isLine
        | true => simpa [readHeaders, isLine] using broken isLine
      · have takes : Takes source line after := ⟨isLine, empty⟩
        have fewer : after.bytes.length < bound := by
          have shorter := takes.shorter.2
          omega
        have visible : line.isEmpty = false := List.isEmpty_eq_false_iff.mpr empty
        cases decoded : Text.Utf8.decodeChars line with
        | error cause => simpa [readHeaders, isLine, visible, decoded] using notText takes decoded
        | ok text =>
            cases isHeader : headerLine text with
            | error fault =>
                simpa [readHeaders, isLine, visible, decoded, isHeader] using
                  invalid takes decoded isHeader
            | ok header =>
                simp only [readHeaders, isLine, visible, decoded, isHeader, Bool.false_eq_true,
                  if_false]
                cases header with
                | blank =>
                    cases found with
                    | none => exact lengthless takes decoded isHeader
                    | some length => exact complete takes decoded isHeader
                | other => exact other takes decoded isHeader (induction fewer)
                | length value => exact length takes decoded isHeader (induction fewer)

theorem readHeaders_eq (run : HeaderRun started found source result) {bound : Nat}
    (enough : source.bytes.length < bound) : readHeaders bound started found source = result := by
  induction run generalizing bound with
  | ended nothing =>
      rcases Nat.exists_eq_add_of_lt enough with ⟨lines, rfl⟩
      simp [readHeaders, nothing]
  | broken nothing =>
      rcases Nat.exists_eq_add_of_lt enough with ⟨lines, rfl⟩
      simp [readHeaders, nothing]
  | notText takes undecoded =>
      rcases Nat.exists_eq_add_of_lt enough with ⟨lines, rfl⟩
      simp [readHeaders, takes.isLine, takes.some, undecoded]
  | invalid takes decoded isInvalid =>
      rcases Nat.exists_eq_add_of_lt enough with ⟨lines, rfl⟩
      simp [readHeaders, takes.isLine, takes.some, decoded, isInvalid]
  | complete takes decoded isBlank =>
      rcases Nat.exists_eq_add_of_lt enough with ⟨lines, rfl⟩
      simp [readHeaders, takes.isLine, takes.some, decoded, isBlank]
  | lengthless takes decoded isBlank =>
      rcases Nat.exists_eq_add_of_lt enough with ⟨lines, rfl⟩
      simp [readHeaders, takes.isLine, takes.some, decoded, isBlank]
  | other takes decoded isOther later induction =>
      rcases Nat.exists_eq_add_of_lt enough with ⟨lines, rfl⟩
      have fewer := takes.shorter.2
      simp only [readHeaders, takes.isLine, List.isEmpty_eq_false_iff.mpr takes.some, decoded,
        isOther, Bool.false_eq_true, if_false]
      exact induction (by omega)
  | length takes decoded isLength later induction =>
      rcases Nat.exists_eq_add_of_lt enough with ⟨lines, rfl⟩
      have fewer := takes.shorter.2
      simp only [readHeaders, takes.isLine, List.isEmpty_eq_false_iff.mpr takes.some, decoded,
        isLength, Bool.false_eq_true, if_false]
      exact induction (by omega)

theorem unique {other : Except Fault Headers × Source}
    (run : HeaderRun started found source result) (isOther : HeaderRun started found source other) :
    other = result := by
  rw [← run.readHeaders_eq (Nat.lt_succ_self _), isOther.readHeaders_eq (Nat.lt_succ_self _)]

theorem suffix (run : HeaderRun started found source result) :
    result.2.bytes <:+ source.bytes := by
  have behindNothing : ∀ {source after : Source}, readLine source = ([], after) →
      after.bytes <:+ source.bytes := by
    intro source after nothing
    have split := append_readLine source
    rw [nothing] at split
    exact split ▸ List.suffix_rfl
  induction run with
  | ended nothing => exact behindNothing nothing
  | broken nothing => exact behindNothing nothing
  | notText takes undecoded => exact takes.shorter.1
  | invalid takes decoded isInvalid => exact takes.shorter.1
  | complete takes decoded isBlank => exact takes.shorter.1
  | lengthless takes decoded isBlank => exact takes.shorter.1
  | other takes decoded isOther later induction => exact induction.trans takes.shorter.1
  | length takes decoded isLength later induction => exact induction.trans takes.shorter.1

/-- Once a line was read, the end of the input is a fault. -/
theorem ne_ended_of_started (run : HeaderRun true found source result) :
    result.1 ≠ .ok .ended := by
  generalize isStarted : true = started at run
  induction run with
  | ended nothing => cases isStarted
  | broken nothing => nofun
  | notText takes undecoded => nofun
  | invalid takes decoded isInvalid => nofun
  | complete takes decoded isBlank => nofun
  | lengthless takes decoded isBlank => nofun
  | other takes decoded isOther later induction => exact induction rfl
  | length takes decoded isLength later induction => exact induction rfl

/-- With bytes left, a line is read, so the input has not ended and is shorter behind it. -/
theorem progress (run : HeaderRun started found source result) (flowing : source.Flowing)
    (some : source.bytes ≠ []) :
    result.1 ≠ .ok .ended ∧ result.2.bytes.length < source.bytes.length := by
  have full := readLine_ne_nil flowing some
  cases run with
  | ended nothing =>
      rw [nothing] at full
      exact absurd rfl full
  | broken nothing =>
      rw [nothing] at full
      exact absurd rfl full
  | notText takes undecoded => exact ⟨nofun, takes.shorter.2⟩
  | invalid takes decoded isInvalid => exact ⟨nofun, takes.shorter.2⟩
  | complete takes decoded isBlank => exact ⟨nofun, takes.shorter.2⟩
  | lengthless takes decoded isBlank => exact ⟨nofun, takes.shorter.2⟩
  | other takes decoded isOther later =>
      exact ⟨later.ne_ended_of_started,
        Nat.lt_of_le_of_lt later.suffix.length_le takes.shorter.2⟩
  | length takes decoded isLength later =>
      exact ⟨later.ne_ended_of_started,
        Nat.lt_of_le_of_lt later.suffix.length_le takes.shorter.2⟩

end HeaderRun

/-! ## Frames -/

theorem read_progress {source : Source} (flowing : source.Flowing) (some : source.bytes ≠ []) :
    (read source).1 ≠ .ended ∧ (read source).2.bytes <:+ source.bytes ∧
      (read source).2.bytes.length < source.bytes.length := by
  have run : HeaderRun false none source _ := .of_readHeaders (Nat.lt_succ_self _)
  have progress := run.progress flowing some
  have suffix := run.suffix
  unfold read
  split
  · next fault after isHeaders =>
      rw [isHeaders] at progress suffix
      exact ⟨nofun, suffix, progress.2⟩
  · next after isHeaders =>
      rw [isHeaders] at progress
      exact absurd rfl progress.1
  · next count after isHeaders =>
      rw [isHeaders] at progress suffix
      have behindBody := suffix_readBody count after
      exact ⟨readBody_ne_ended count after, behindBody.trans suffix,
        Nat.lt_of_le_of_lt behindBody.length_le progress.2⟩

theorem readMany_nothing (turns : Nat) :
    readMany turns ⟨[], []⟩ = (List.replicate turns .ended, ⟨[], []⟩) := by
  induction turns with
  | zero => rfl
  | succ turns induction =>
      have isRead : read ⟨[], []⟩ = (.ended, ⟨[], []⟩) := rfl
      rw [readMany, isRead]
      dsimp only
      rw [induction]
      rfl

/-- A reader comes to the end of its input and stays there. -/
theorem readMany_drains {source : Source} (flowing : source.Flowing) :
    ∃ results : List Result, results.length ≤ source.bytes.length ∧
      (∀ result ∈ results, result ≠ .ended) ∧ ∀ more,
        readMany (results.length + more) source =
          (results ++ List.replicate more .ended, ⟨[], []⟩) := by
  induction size : source.bytes.length using Nat.strongRecOn generalizing source with
  | ind size induction =>
      by_cases empty : source.bytes = []
      · cases flowing.eq_of_bytes_eq_nil empty
        exact ⟨[], Nat.zero_le _, nofun, fun more => by simpa using readMany_nothing more⟩
      · rcases read_progress flowing empty with ⟨goesOn, -, shorter⟩
        have flows := (read_even source flowing).1
        rcases induction _ (size ▸ shorter) flows rfl with ⟨results, few, noEnd, drained⟩
        refine ⟨(read source).1 :: results, ?_, ?_, ?_⟩
        · rw [List.length_cons]
          omega
        · intro result member
          rcases List.mem_cons.mp member with rfl | later
          · exact goesOn
          · exact noEnd result later
        · intro more
          rw [List.length_cons, Nat.add_right_comm, readMany]
          dsimp only
          rw [drained more]
          rfl

/-- What readers do, from any point of their input on. -/
structure Progress (source : Source) : Prop where
  takes : source.bytes ≠ [] → (read source).1 ≠ .ended ∧
    (read source).2.bytes <:+ source.bytes ∧
    (read source).2.bytes.length < source.bytes.length
  ends : source.bytes = [] → read source = (.ended, source)
  /-- What is left is an input again. -/
  flows : (read source).2.Flowing
  /-- Reading on and on comes to the end, with at most one turn before it for every byte. -/
  drains : ∃ results : List Result, results.length ≤ source.bytes.length ∧
    (∀ result ∈ results, result ≠ .ended) ∧ ∀ more,
      readMany (results.length + more) source =
        (results ++ List.replicate more .ended, ⟨[], []⟩)
  /-- Header lines end by themselves, and in one way only. -/
  settles : ∀ started found, ∃ result, HeaderRun started found source result ∧
    ∀ other, HeaderRun started found source other → other = result
  /-- Reading a frame does with its headers what that way says. -/
  follows : HeaderRun false none source (readHeaders (source.bytes.length + 1) false none source)

theorem progress_of_flowing {source : Source} (flowing : source.Flowing) : Progress source where
  takes := read_progress flowing
  ends := by
    intro empty
    cases flowing.eq_of_bytes_eq_nil empty
    rfl
  flows := (read_even source flowing).1
  drains := readMany_drains flowing
  settles := by
    intro started found
    have run : HeaderRun started found source _ := .of_readHeaders (Nat.lt_succ_self _)
    exact ⟨_, run, fun other isOther => run.unique isOther⟩
  follows := .of_readHeaders (Nat.lt_succ_self _)

/-! Every kind of fault in one input: a length that is no number, headers without a length, a line
that is not text, a length that is too large, a body that is not JSON because it is empty, a body
that is cut short. -/

namespace Stumbles

def chunks : List (List UInt8) :=
  [Text.Utf8.encode "Content-Length: ten\r", Text.Utf8.encode "\n\n", [0xFF, 0x0A],
    Text.Utf8.encode "Content-Length: 33554433\n\nContent-Length: 0\n",
    Text.Utf8.encode "\nContent-Length: 9\n\n1"]

/-- The faults among some results. -/
def faults (results : List Result) : List (Option Fault) :=
  results.map fun
    | .fault cause => some cause
    | _ => none

theorem progress_stumbles :
    (∀ chunk ∈ chunks, chunk ≠ []) ∧ Progress (Source.ofChunks chunks) ∧
      faults (readMany 6 (Source.ofChunks chunks)).1 =
        [some (.invalidLength "ten" .invalidDigit), some .missingLength,
          some (.headerNotText ⟨0, some 1⟩), some (.tooLong 33554433), some .bodyNotJson,
          some .bodyCutShort] := by
  have full : ∀ chunk ∈ chunks, chunk ≠ [] := by decide +kernel
  exact ⟨full, progress_of_flowing full, by decide +kernel⟩

end Stumbles

end TemplateCheck.Frame
