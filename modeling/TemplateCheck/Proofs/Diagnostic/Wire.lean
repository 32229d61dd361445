import TemplateCheck.Diagnostic
import TemplateCheck.Proofs.Decode.Slots
import TemplateCheck.Proofs.Json.RoundTrip

/-! # The wire form of diagnostics

A diagnostic is written in one way, but it is read from many values: from objects with other keys
besides, from arrays of its fields, and with its stage as a text or as a key. Each of them spells
the diagnostic, and reading it and writing it again gives the one form that is written.
-/

namespace TemplateCheck

namespace Decode

theorem nat_eq_ok_iff {name : String} {greatest number : Nat} {json : Json} :
    nat name greatest json = .ok number ↔ json = .int number ∧ number ≤ greatest := by
  unfold nat
  split
  · next value =>
      simp only [Json.int.injEq]
      constructor
      · intro decoded
        split at decoded
        · next within =>
            cases decoded
            simp only [Bool.and_eq_true, decide_eq_true_eq] at within
            omega
        · split at decoded <;> cases decoded
      · rintro ⟨rfl, within⟩
        simp [within]
  · next notInt =>
      simp only [reduceCtorEq, false_iff]
      rintro ⟨isInt, -⟩
      exact notInt _ isInt

theorem variant_eq_ok_iff {result : Type} {names : List (String × result)} {json : Json}
    {chosen : result} :
    variant names json = .ok chosen ↔
      ∃ name, names.lookup name = some chosen ∧
        (json = .str name ∨ json = .obj [(name, .null)]) := by
  constructor
  · intro decoded
    cases json with
    | str name =>
        cases found : names.lookup name with
        | none => simp [variant, found, bind, Except.bind] at decoded
        | some result =>
            simp only [variant, found, bind, Except.bind, Except.ok.injEq] at decoded
            exact ⟨name, decoded ▸ found, .inl rfl⟩
    | obj members =>
        rcases members with _ | ⟨⟨name, payload⟩, _ | ⟨second, rest⟩⟩
        · simp [variant, bind, Except.bind] at decoded
        · cases found : names.lookup name with
          | none => simp [variant, found, bind, Except.bind] at decoded
          | some result =>
              cases payload with
              | null =>
                  simp only [variant, found, bind, Except.bind, Except.ok.injEq] at decoded
                  exact ⟨name, decoded ▸ found, .inr rfl⟩
              | _ => simp [variant, found, bind, Except.bind] at decoded
        · simp [variant, bind, Except.bind] at decoded
    | _ => simp [variant, bind, Except.bind] at decoded
  · rintro ⟨name, found, rfl | rfl⟩
    · simp [variant, found, bind, Except.bind]
    · simp [variant, found, bind, Except.bind]

theorem text_eq_ok_iff {json : Json} {value : String} :
    text json = .ok value ↔ json = .str value := by
  cases json <;> simp [text]

end Decode

namespace Position

def names : List String := ["line", "character"]

/-- The value gives both numbers of the position. -/
structure SpelledBy (position : Position) (json : Json) : Prop where
  line : Decode.Gives names json "line" (.int position.line.toNat)
  character : Decode.Gives names json "character" (.int position.character.toNat)

def lineSlot : Decode.Slot Position where
  name := "line"
  Part := Nat
  decoder := Decode.nat "u32" greatest
  part position := position.line.toNat
  fill position line := { position with line := .ofNat line }

def characterSlot : Decode.Slot Position where
  name := "character"
  Part := Nat
  decoder := Decode.nat "u32" greatest
  part position := position.character.toNat
  fill position character := { position with character := .ofNat character }

theorem partition : Decode.Partition record [lineSlot, characterSlot] where
  fields := rfl
  lenient := rfl
  distinct := by decide
  filled := by
    simp only [List.forall_mem_cons, lineSlot, characterSlot, Decode.nat_eq_ok_iff, greatest]
    refine ⟨?_, ?_, nofun⟩ <;>
    · rintro json content ⟨-, within⟩ position
      exact UInt32.toNat_ofNat_of_lt (Nat.lt_succ_of_le within)
  apart := by
    simp [lineSlot, characterSlot]
  determined := by
    rintro ⟨line, character⟩ ⟨otherLine, otherCharacter⟩ same
    simp only [List.forall_mem_cons, lineSlot, characterSlot, UInt32.toNat_inj] at same
    rw [same.1, same.2.1]

theorem decode_eq_ok_iff {json : Json} (keyed : json.Keyed) {position : Position} :
    decode json = .ok position ↔ position.SpelledBy json := by
  have lineFits : position.line.toNat ≤ greatest := Nat.le_of_lt_succ position.line.toNat_lt
  have characterFits : position.character.toNat ≤ greatest :=
    Nat.le_of_lt_succ position.character.toNat_lt
  rw [decode, partition.decode_eq_ok_iff (by simp) keyed]
  simp only [List.forall_mem_cons, lineSlot, characterSlot, Decode.nat_eq_ok_iff, lineFits,
    characterFits, and_true, exists_eq_right]
  constructor
  · rintro ⟨line, character, -⟩
    exact ⟨line, character⟩
  · rintro ⟨line, character⟩
    exact ⟨line, character, nofun⟩

/-- The keys stand in their order, whatever the order in which they are put. -/
theorem toJson_eq (position : Position) :
    position.toJson =
      .obj [("character", .int position.character.toNat), ("line", .int position.line.toNat)] := by
  have before : Ord.compare "character" "line" = .lt := by decide
  simp [toJson, Json.ofMembers, Ordered.put, before]

theorem spelledBy_toJson (position : Position) : position.SpelledBy position.toJson := by
  rw [toJson_eq]
  exact ⟨⟨_, rfl, rfl⟩, ⟨_, rfl, rfl⟩⟩

end Position

namespace Range

def names : List String := ["start", "end"]

/-- The value gives both ends of the range. -/
structure SpelledBy (range : Range) (json : Json) : Prop where
  start : ∃ value, Decode.Gives names json "start" value ∧ range.start.SpelledBy value
  stop : ∃ value, Decode.Gives names json "end" value ∧ range.stop.SpelledBy value

def startSlot : Decode.Slot Range where
  name := "start"
  Part := Position
  decoder := Position.decode
  part := Range.start
  fill range start := { range with start }

def stopSlot : Decode.Slot Range where
  name := "end"
  Part := Position
  decoder := Position.decode
  part := Range.stop
  fill range stop := { range with stop }

theorem partition : Decode.Partition record [startSlot, stopSlot] where
  fields := rfl
  lenient := rfl
  distinct := by decide
  filled := by simp [startSlot, stopSlot]
  apart := by simp [startSlot, stopSlot]
  determined := by
    rintro ⟨start, stop⟩ ⟨otherStart, otherStop⟩ same
    simp only [List.forall_mem_cons, startSlot, stopSlot] at same
    rw [same.1, same.2.1]

theorem decode_eq_ok_iff {json : Json} (keyed : json.Keyed) {range : Range} :
    decode json = .ok range ↔ range.SpelledBy json := by
  have isStart := @Decode.exists_gives_congr names json keyed "start" _ range.start.SpelledBy
    fun _ inside => Position.decode_eq_ok_iff inside
  have isStop := @Decode.exists_gives_congr names json keyed "end" _ range.stop.SpelledBy
    fun _ inside => Position.decode_eq_ok_iff inside
  rw [decode, partition.decode_eq_ok_iff (by simp) keyed]
  simp only [List.forall_mem_cons, startSlot, stopSlot]
  constructor
  · rintro ⟨start, stop, -⟩
    exact ⟨isStart.mp start, isStop.mp stop⟩
  · rintro ⟨start, stop⟩
    exact ⟨isStart.mpr start, isStop.mpr stop, nofun⟩

theorem toJson_eq (range : Range) :
    range.toJson = .obj [("end", range.stop.toJson), ("start", range.start.toJson)] := by
  have before : Ord.compare "end" "start" = .lt := by decide
  simp [toJson, Json.ofMembers, Ordered.put, before]

theorem spelledBy_toJson (range : Range) : range.SpelledBy range.toJson := by
  rw [toJson_eq]
  exact ⟨⟨_, ⟨_, rfl, rfl⟩, range.start.spelledBy_toJson⟩,
    ⟨_, ⟨_, rfl, rfl⟩, range.stop.spelledBy_toJson⟩⟩

end Range

namespace Severity

theorem ofCode?_eq_some_iff {code : Nat} {severity : Severity} :
    ofCode? code = some severity ↔ code = severity.code := by
  constructor
  · intro found
    unfold ofCode? at found
    have isCode := List.find?_some found
    exact (beq_iff_eq.mp isCode).symm
  · rintro rfl
    cases severity <;> rfl

theorem decode_eq_ok_iff {json : Json} {severity : Severity} :
    decode json = .ok severity ↔ json = .int severity.code := by
  constructor
  · intro decoded
    cases isNat : Decode.nat "u8" 255 json with
    | error fault => simp [decode, isNat, bind, Except.bind] at decoded
    | ok code =>
        cases isCode : ofCode? code with
        | none => simp [decode, isNat, isCode, bind, Except.bind] at decoded
        | some found =>
            simp only [decode, isNat, isCode, bind, Except.bind, Except.ok.injEq] at decoded
            subst decoded
            rw [(Decode.nat_eq_ok_iff.mp isNat).1, ofCode?_eq_some_iff.mp isCode]
  · rintro rfl
    cases severity <;> rfl

end Severity

namespace Stage

/-- A stage is given by its name, as a text or as the only key of an object. -/
inductive SpelledBy (stage : Stage) : Json → Prop
  | text : SpelledBy stage (.str stage.name)
  | key : SpelledBy stage (.obj [(stage.name, .null)])

theorem lookup_name_iff {name : String} {stage : Stage} :
    (all.map fun stage => (stage.name, stage)).lookup name = some stage ↔ name = stage.name := by
  have once : Members.Once (all.map fun stage => (stage.name, stage)) := by decide
  rw [once.lookup_eq_some_iff, List.mem_map]
  constructor
  · rintro ⟨other, -, equal⟩
    cases equal
    rfl
  · rintro rfl
    refine ⟨stage, ?_, rfl⟩
    cases stage <;> decide

theorem decode_eq_ok_iff {json : Json} {stage : Stage} :
    decode json = .ok stage ↔ stage.SpelledBy json := by
  rw [decode, Decode.variant_eq_ok_iff]
  constructor
  · rintro ⟨name, isName, isText | isKey⟩
    · rw [isText, lookup_name_iff.mp isName]
      exact .text
    · rw [isKey, lookup_name_iff.mp isName]
      exact .key
  · intro spelled
    cases spelled with
    | text => exact ⟨stage.name, lookup_name_iff.mpr rfl, .inl rfl⟩
    | key => exact ⟨stage.name, lookup_name_iff.mpr rfl, .inr rfl⟩

end Stage

namespace Diagnostic

def names : List String := ["range", "severity", "source", "message"]

/-- The value gives all fields of the diagnostic. -/
structure SpelledBy (diagnostic : Diagnostic) (json : Json) : Prop where
  range : ∃ value, Decode.Gives names json "range" value ∧ diagnostic.range.SpelledBy value
  severity : Decode.Gives names json "severity" (.int diagnostic.severity.code)
  source : ∃ value, Decode.Gives names json "source" value ∧ diagnostic.stage.SpelledBy value
  message : Decode.Gives names json "message" (.str diagnostic.message)

def rangeSlot : Decode.Slot Diagnostic where
  name := "range"
  Part := Range
  decoder := Range.decode
  part := Diagnostic.range
  fill diagnostic range := { diagnostic with range }

def severitySlot : Decode.Slot Diagnostic where
  name := "severity"
  Part := Severity
  decoder := Severity.decode
  part := Diagnostic.severity
  fill diagnostic severity := { diagnostic with severity }

def sourceSlot : Decode.Slot Diagnostic where
  name := "source"
  Part := Stage
  decoder := Stage.decode
  part := Diagnostic.stage
  fill diagnostic stage := { diagnostic with stage }

def messageSlot : Decode.Slot Diagnostic where
  name := "message"
  Part := String
  decoder := Decode.text
  part := Diagnostic.message
  fill diagnostic message := { diagnostic with message }

theorem partition :
    Decode.Partition record [rangeSlot, severitySlot, sourceSlot, messageSlot] where
  fields := rfl
  lenient := rfl
  distinct := by decide
  filled := by simp [rangeSlot, severitySlot, sourceSlot, messageSlot]
  apart := by simp [rangeSlot, severitySlot, sourceSlot, messageSlot]
  determined := by
    rintro ⟨range, severity, stage, message⟩ ⟨otherRange, otherSeverity, otherStage, otherMessage⟩
    simp only [List.forall_mem_cons, rangeSlot, severitySlot, sourceSlot, messageSlot]
    rintro ⟨rfl, rfl, rfl, rfl, -⟩
    rfl

theorem decode_eq_ok_iff {json : Json} (keyed : json.Keyed) {diagnostic : Diagnostic} :
    decode json = .ok diagnostic ↔ diagnostic.SpelledBy json := by
  have isRange := @Decode.exists_gives_congr names json keyed "range" _
    diagnostic.range.SpelledBy fun _ inside => Range.decode_eq_ok_iff inside
  rw [decode, partition.decode_eq_ok_iff (by simp) keyed]
  simp only [List.forall_mem_cons, rangeSlot, severitySlot, sourceSlot, messageSlot,
    Severity.decode_eq_ok_iff, Stage.decode_eq_ok_iff, Decode.text_eq_ok_iff, exists_eq_right]
  constructor
  · rintro ⟨range, severity, source, message, -⟩
    exact ⟨isRange.mp range, severity, source, message⟩
  · rintro ⟨range, severity, source, message⟩
    exact ⟨isRange.mpr range, severity, source, message, nofun⟩

theorem toJson_eq (diagnostic : Diagnostic) :
    diagnostic.toJson =
      .obj [("message", .str diagnostic.message), ("range", diagnostic.range.toJson),
        ("severity", .int diagnostic.severity.code), ("source", .str diagnostic.stage.name)] := by
  have first : Ord.compare "message" "range" = .lt := by decide
  have second : Ord.compare "severity" "range" = .gt := by decide
  have third : Ord.compare "source" "range" = .gt := by decide
  have last : Ord.compare "source" "severity" = .gt := by decide
  simp [toJson, Json.ofMembers, Ordered.put, first, second, third, last]

theorem spelledBy_toJson (diagnostic : Diagnostic) : diagnostic.SpelledBy diagnostic.toJson := by
  rw [toJson_eq]
  exact ⟨⟨_, ⟨_, rfl, rfl⟩, diagnostic.range.spelledBy_toJson⟩, ⟨_, rfl, rfl⟩,
    ⟨_, ⟨_, rfl, rfl⟩, .text⟩, ⟨_, rfl, rfl⟩⟩

theorem keyed_toJson (diagnostic : Diagnostic) : diagnostic.toJson.Keyed := by
  have position : ∀ position : Position, position.toJson.Keyed := fun position =>
    .ofMembers (by simp [Json.Keyed.int])
  have range : diagnostic.range.toJson.Keyed :=
    .ofMembers (by simp [position])
  exact .ofMembers (by simp [range, Json.Keyed.int, Json.Keyed.str])

theorem decode_toJson (diagnostic : Diagnostic) : decode diagnostic.toJson = .ok diagnostic :=
  (decode_eq_ok_iff diagnostic.keyed_toJson).mpr diagnostic.spelledBy_toJson

theorem toJson_injective : Function.Injective toJson := by
  intro left right same
  have read := left.decode_toJson
  rw [same, right.decode_toJson] at read
  exact (Except.ok.inj read).symm

theorem unique_of_spelledBy {json : Json} (keyed : json.Keyed) {diagnostic other : Diagnostic}
    (spelled : diagnostic.SpelledBy json) : other.SpelledBy json ↔ other = diagnostic := by
  rw [← decode_eq_ok_iff keyed, (decode_eq_ok_iff keyed).mpr spelled, Except.ok.injEq]
  exact eq_comm

/-! ## The text of the wire form -/

theorem whole_toJson (diagnostic : Diagnostic) : diagnostic.toJson.Whole := by
  have number : ∀ number : UInt32, (Json.int number.toNat).Whole := by
    intro number
    have fits := number.toNat_lt
    exact .int (by unfold Json.leastInt; omega) (by unfold Json.greatestInt; omega)
  have position : ∀ position : Position, position.toJson.Whole := by
    intro position
    rw [Position.toJson_eq]
    exact .obj (by simp [number]) (by simp; decide)
  have range : diagnostic.range.toJson.Whole := by
    rw [Range.toJson_eq]
    exact .obj (by simp [position]) (by simp; decide)
  have code : (Json.int diagnostic.severity.code).Whole := by
    cases diagnostic.severity <;> exact .int (by decide) (by decide)
  rw [toJson_eq]
  exact .obj (by simp [range, code, Json.Whole.str]) (by simp; decide)

theorem depth_toJson (diagnostic : Diagnostic) : diagnostic.toJson.depth = 3 := by
  simp [toJson_eq, Range.toJson_eq, Position.toJson_eq, Json.depth, Json.membersDepth]

theorem parse_print_toJson (diagnostic : Diagnostic) :
    Json.parse diagnostic.toJson.print = some diagnostic.toJson := by
  have shallow : diagnostic.toJson.depth ≤ Json.greatestDepth := by
    rw [depth_toJson]
    decide
  rw [Json.parse, Json.print, String.toList_ofList]
  exact Json.parseChars_chars diagnostic.whole_toJson shallow

theorem print_toJson_injective :
    Function.Injective fun diagnostic : Diagnostic => diagnostic.toJson.print := by
  intro left right same
  have parsed := left.parse_print_toJson
  dsimp only at same
  rw [same, right.parse_print_toJson] at parsed
  exact toJson_injective (Option.some.inj parsed).symm

/-! ## Every spelling leads to the wire form -/

/-- Read a diagnostic and write it again. -/
def rewrite (json : Json) : Except Decode.Fault Json :=
  (decode json).map toJson

theorem rewrite_eq_ok_iff {json canonical : Json} :
    rewrite json = .ok canonical ↔
      ∃ diagnostic, decode json = .ok diagnostic ∧ canonical = diagnostic.toJson := by
  cases decoded : decode json with
  | error fault => simp [rewrite, decoded, Except.map]
  | ok diagnostic => simp [rewrite, decoded, Except.map, eq_comm]

/-- Diagnostics and their wire forms determine each other, and whatever else spells a diagnostic
leads to its wire form. Values are such as they are read: no object in them gives a key twice. -/
structure Wire : Prop where
  /-- The wire form is an object of objects, texts and numbers, with keys in their order. -/
  form : ∀ diagnostic : Diagnostic, diagnostic.toJson =
    .obj [("message", .str diagnostic.message),
      ("range", .obj [
        ("end", .obj [("character", .int diagnostic.range.stop.character.toNat),
          ("line", .int diagnostic.range.stop.line.toNat)]),
        ("start", .obj [("character", .int diagnostic.range.start.character.toNat),
          ("line", .int diagnostic.range.start.line.toNat)])]),
      ("severity", .int diagnostic.severity.code),
      ("source", .str diagnostic.stage.name)]
  returns : ∀ diagnostic : Diagnostic, decode diagnostic.toJson = .ok diagnostic
  printed : ∀ diagnostic : Diagnostic,
    Json.parse diagnostic.toJson.print = some diagnostic.toJson
  distinct : Function.Injective toJson
  distinctTexts : Function.Injective fun diagnostic : Diagnostic => diagnostic.toJson.print
  parsed : ∀ text json, Json.parse text = some json → json.Keyed
  /-- A value is accepted exactly where it spells a diagnostic. -/
  accepts : ∀ json, json.Keyed → ∀ diagnostic, decode json = .ok diagnostic ↔
    diagnostic.SpelledBy json
  /-- An accepted value is rewritten to the wire form of its diagnostic. -/
  canonical : ∀ json form, rewrite json = .ok form ↔
    ∃ diagnostic, decode json = .ok diagnostic ∧ form = diagnostic.toJson
  settles : ∀ json form, rewrite json = .ok form → rewrite form = .ok form
  /-- What is rewritten spells what the accepted value does, and nothing else. -/
  preserves : ∀ json, json.Keyed → ∀ form, rewrite json = .ok form →
    ∃ diagnostic : Diagnostic, diagnostic.SpelledBy json ∧
      ∀ other : Diagnostic, (other.SpelledBy json ↔ other = diagnostic) ∧
        (other.SpelledBy form ↔ other = diagnostic)

theorem wire : Wire where
  form diagnostic := by rw [toJson_eq, Range.toJson_eq, Position.toJson_eq, Position.toJson_eq]
  returns := decode_toJson
  printed := parse_print_toJson
  distinct := toJson_injective
  distinctTexts := print_toJson_injective
  parsed := fun _ _ => Json.keyed_of_parse
  accepts := fun _ keyed _ => decode_eq_ok_iff keyed
  canonical := fun _ _ => rewrite_eq_ok_iff
  settles := by
    intro json form rewritten
    rcases rewrite_eq_ok_iff.mp rewritten with ⟨diagnostic, -, rfl⟩
    exact rewrite_eq_ok_iff.mpr ⟨diagnostic, diagnostic.decode_toJson, rfl⟩
  preserves := by
    intro json keyed form rewritten
    rcases rewrite_eq_ok_iff.mp rewritten with ⟨diagnostic, decoded, rfl⟩
    have spelled := (decode_eq_ok_iff keyed).mp decoded
    exact ⟨diagnostic, spelled, fun other => ⟨unique_of_spelledBy keyed spelled,
      unique_of_spelledBy diagnostic.keyed_toJson diagnostic.spelledBy_toJson⟩⟩

example :
    decode (.arr [
      .arr [.arr [.int 0, .int 1], .obj [("line", .int 2), ("tag", .null), ("character", .int 3)]],
      .int 2, .obj [("logic", .null)], .str "m"]) =
      .ok ⟨⟨⟨0, 1⟩, ⟨2, 3⟩⟩, .warning, .logic, "m"⟩ := by rfl

end Diagnostic

end TemplateCheck
