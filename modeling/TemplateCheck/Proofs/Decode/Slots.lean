import Mathlib.Data.List.Nodup
import TemplateCheck.Decode
import TemplateCheck.Proofs.Json.Keys

/-! # Records of independent parts

The fields of many records are all required, and each of them is a part of the record that is
decoded by itself. Such a record is read exactly where every part is: an object gives a part its
member of that name, wherever it stands and whatever else there is, and an array gives its elements
to the parts in their order.
-/

namespace TemplateCheck.Decode

variable {draft : Type}

/-- A part of a draft, with its decoder. -/
structure Slot (draft : Type) where
  name : String
  Part : Type
  decoder : Decoder Part
  part : draft → Part
  fill : draft → Part → draft

namespace Slot

def field (slot : Slot draft) : Field draft where
  name := slot.name
  required := true
  read := fun json filled => (slot.decoder json).map (slot.fill filled)

/-- The member of the name of a slot decodes to the part of a draft. -/
def Given (slot : Slot draft) (members : List (String × Json)) (result : draft) : Prop :=
  ∃ value, members.lookup slot.name = some value ∧ slot.decoder value = .ok (slot.part result)

/-- A part comes from the member of its name, or else it is as before. -/
def Settled (slot : Slot draft) (members : List (String × Json)) (start result : draft) : Prop :=
  match members.lookup slot.name with
  | some value => slot.decoder value = .ok (slot.part result)
  | none => slot.part result = slot.part start

theorem settled_iff_given {slot : Slot draft} {members : List (String × Json)}
    (present : members.lookup slot.name ≠ none) {start result : draft} :
    slot.Settled members start result ↔ slot.Given members result := by
  rcases Option.ne_none_iff_exists'.mp present with ⟨value, isValue⟩
  simp [Settled, Given, isValue]

theorem Given.present {slot : Slot draft} {members : List (String × Json)} {result : draft}
    (given : slot.Given members result) : members.lookup slot.name ≠ none := by
  rcases given with ⟨value, isValue, -⟩
  simp [isValue]

end Slot

/-- A record that consists of independent parts, which determine it. -/
structure Partition (record : Record draft) (slots : List (Slot draft)) : Prop where
  fields : record.fields = slots.map Slot.field
  lenient : record.strict = false
  distinct : (slots.map Slot.name).Nodup
  filled : ∀ slot ∈ slots, ∀ json content, slot.decoder json = .ok content →
    ∀ draft, slot.part (slot.fill draft content) = content
  apart : ∀ slot ∈ slots, ∀ other ∈ slots, slot.name ≠ other.name →
    ∀ draft content, other.part (slot.fill draft content) = other.part draft
  determined : ∀ left right : draft, (∀ slot ∈ slots, slot.part left = slot.part right) →
    left = right

/-- What a value gives to the fields of a record, by their names: the members of an object, and the
elements of an array in the order of the fields. -/
def givenTo (names : List String) : Json → Option (List (String × Json))
  | .obj members => some members
  | .arr items => if items.length = names.length then some (names.zip items) else none
  | _ => none

/-- What a value gives to the field of a name. -/
def Gives (names : List String) (json : Json) (name : String) (value : Json) : Prop :=
  ∃ members, givenTo names json = some members ∧ members.lookup name = some value

namespace Partition

variable {record : Record draft} {slots : List (Slot draft)}

theorem find?_eq_some (partition : Partition record slots) {slot : Slot draft}
    (member : slot ∈ slots) :
    record.fields.find? (fun field => field.name == slot.name) = some slot.field := by
  rw [partition.fields, List.find?_eq_some_iff_append]
  rcases List.append_of_mem member with ⟨front, back, split⟩
  refine ⟨beq_self_eq_true _, front.map Slot.field, back.map Slot.field, by simp [split], ?_⟩
  intro field isField
  rcases List.mem_map.mp isField with ⟨other, inFront, rfl⟩
  have distinct := partition.distinct
  rw [split, List.map_append, List.map_cons, List.nodup_append] at distinct
  have differs : other.name ≠ slot.name :=
    distinct.2.2 other.name (List.mem_map_of_mem inFront) slot.name List.mem_cons_self
  simpa [Slot.field] using differs

theorem find?_eq_none (partition : Partition record slots) {name : String}
    (unknown : ∀ slot ∈ slots, slot.name ≠ name) :
    record.fields.find? (fun field => field.name == name) = none := by
  rw [partition.fields, List.find?_eq_none]
  intro field isField
  rcases List.mem_map.mp isField with ⟨slot, member, rfl⟩
  simpa [Slot.field] using unknown slot member

/-! ## Objects -/

theorem settled_fill (partition : Partition record slots) {slot : Slot draft}
    (member : slot ∈ slots) {value : Json} {content : slot.Part}
    (decoded : slot.decoder value = .ok content) {rest : List (String × Json)}
    (absent : rest.lookup slot.name = none) (start result : draft) :
    (∀ other ∈ slots, other.Settled rest (slot.fill start content) result) ↔
      ∀ other ∈ slots, other.Settled ((slot.name, value) :: rest) start result := by
  refine forall₂_congr ?_
  intro other isOther
  by_cases same : slot.name = other.name
  · cases List.inj_on_of_nodup_map partition.distinct member isOther same
    simp only [Slot.Settled, absent, List.lookup_cons_self, decoded, Except.ok.injEq,
      partition.filled slot member value content decoded]
    exact eq_comm
  · have differs : (other.name == slot.name) = false := by simpa using Ne.symm same
    simp only [Slot.Settled, List.lookup_cons, differs,
      partition.apart slot member other isOther same]

theorem settled_unknown {name : String} (unknown : ∀ slot ∈ slots, slot.name ≠ name)
    (value : Json) (rest : List (String × Json)) (start result : draft) :
    (∀ slot ∈ slots, slot.Settled rest start result) ↔
      ∀ slot ∈ slots, slot.Settled ((name, value) :: rest) start result := by
  refine forall₂_congr ?_
  intro slot member
  have differs : (slot.name == name) = false := by simpa using unknown slot member
  simp only [Slot.Settled, List.lookup_cons, differs]

/-- Members are read in their order, but what comes of them does not depend on it. -/
theorem readMembers_eq_ok_iff (partition : Partition record slots)
    {members : List (String × Json)} (once : Members.Once members) {start result : draft} :
    record.readMembers members start = .ok result ↔
      ∀ slot ∈ slots, slot.Settled members start result := by
  induction members generalizing start with
  | nil =>
      rw [Record.readMembers]
      constructor
      · intro equal slot _
        cases equal
        rfl
      · intro settled
        rw [partition.determined start result fun slot member => (settled slot member).symm]
  | cons first rest induction =>
      rcases first with ⟨name, value⟩
      rcases List.nodup_cons.mp once with ⟨absent, restOnce⟩
      by_cases known : ∃ slot ∈ slots, slot.name = name
      · rcases known with ⟨slot, member, rfl⟩
        rw [Record.readMembers, partition.find?_eq_some member]
        dsimp only
        cases decoded : slot.decoder value with
        | error fault =>
            simp only [Slot.field, decoded, Except.map, bind, Except.bind, reduceCtorEq, false_iff]
            intro settled
            have own := settled slot member
            simp [Slot.Settled, decoded] at own
        | ok content =>
            simp only [Slot.field, decoded, Except.map, bind, Except.bind]
            rw [induction restOnce]
            exact partition.settled_fill member decoded (Members.lookup_eq_none_iff.mpr absent)
              start result
      · have unknown : ∀ slot ∈ slots, slot.name ≠ name :=
          fun slot member same => known ⟨slot, member, same⟩
        rw [Record.readMembers, partition.find?_eq_none unknown]
        simp only [partition.lenient, Bool.false_eq_true, if_false]
        rw [induction restOnce]
        exact settled_unknown unknown value rest start result

theorem missing?_eq_none_iff (partition : Partition record slots)
    {members : List (String × Json)} :
    record.missing? members = none ↔ ∀ slot ∈ slots, members.lookup slot.name ≠ none := by
  rw [Record.missing?, Option.map_eq_none_iff, List.find?_eq_none, partition.fields]
  simp only [List.forall_mem_map, Slot.field, Ne, Members.lookup_eq_none_iff]
  refine forall₂_congr ?_
  intro slot _
  simp

theorem decode_obj_eq_ok_iff (partition : Partition record slots) (format : Format)
    {members : List (String × Json)} (once : Members.Once members) {result : draft} :
    record.decode format (.obj members) = .ok result ↔
      ∀ slot ∈ slots, slot.Given members result := by
  have isRead := fun filled : draft =>
    @readMembers_eq_ok_iff _ _ _ partition _ once record.initial filled
  constructor
  · intro decoded
    rw [Record.decode] at decoded
    cases read : record.readMembers members record.initial with
    | error fault => simp [read, bind, Except.bind] at decoded
    | ok filled =>
        cases complete : record.missing? members with
        | some name => simp [read, complete, bind, Except.bind] at decoded
        | none =>
            simp only [read, complete, bind, Except.bind, Except.ok.injEq] at decoded
            subst decoded
            intro slot member
            have present := partition.missing?_eq_none_iff.mp complete slot member
            exact (Slot.settled_iff_given present).mp ((isRead filled).mp read slot member)
  · intro given
    have settled : ∀ slot ∈ slots, slot.Settled members record.initial result :=
      fun slot member =>
        (Slot.settled_iff_given (given slot member).present).mpr (given slot member)
    have complete : record.missing? members = none :=
      partition.missing?_eq_none_iff.mpr fun slot member => (given slot member).present
    rw [Record.decode, (isRead result).mpr settled]
    simp [complete, bind, Except.bind]

/-! ## Arrays -/

/-- Elements are read like members that have the names of the fields. -/
theorem readElements_eq_ok_iff (partition : Partition record slots) {ahead : List (Slot draft)}
    (within : ∀ slot ∈ ahead, slot ∈ slots) {items : List Json} (count : Nat)
    {start result : draft} :
    record.readElements dataFormat (ahead.map Slot.field) items count start = .ok result ↔
      items.length = ahead.length ∧
        record.readMembers ((ahead.map Slot.name).zip items) start = .ok result := by
  induction ahead generalizing items count start with
  | nil =>
      cases items with
      | nil => simp [Record.readElements, Record.readMembers]
      | cons item rest => simp [Record.readElements, dataFormat]
  | cons slot others induction =>
      cases items with
      | nil => simp [Record.readElements, Slot.field]
      | cons item rest =>
          have found := partition.find?_eq_some (within slot List.mem_cons_self)
          have later := fun (start : draft) => @induction
            (fun other member => within other (List.mem_cons_of_mem _ member)) rest (count + 1)
            start
          rw [List.map_cons, List.map_cons, List.zip_cons_cons, Record.readElements,
            Record.readMembers, found]
          dsimp only
          cases slot.field.read item start with
          | error fault => simp [bind, Except.bind]
          | ok next => simpa [bind, Except.bind] using later next

theorem decode_arr_eq_ok_iff (partition : Partition record slots) {items : List Json}
    {result : draft} :
    record.decode dataFormat (.arr items) = .ok result ↔
      items.length = slots.length ∧
        ∀ slot ∈ slots, slot.Given ((slots.map Slot.name).zip items) result := by
  rw [Record.decode, partition.fields,
    partition.readElements_eq_ok_iff (fun _ member => member)]
  refine and_congr_right ?_
  intro sameLength
  have names : ((slots.map Slot.name).zip items).map Prod.fst = slots.map Slot.name :=
    List.map_fst_zip (by simp [sameLength])
  have once : Members.Once ((slots.map Slot.name).zip items) := by
    rw [Members.Once, names]
    exact partition.distinct
  rw [partition.readMembers_eq_ok_iff once]
  refine forall₂_congr ?_
  intro slot member
  refine Slot.settled_iff_given ?_
  rw [Ne, Members.lookup_eq_none_iff, names, not_not]
  exact List.mem_map_of_mem member

theorem decode_eq_ok_iff_given (partition : Partition record slots) {json : Json}
    (keyed : json.Keyed) {result : draft} :
    record.decode dataFormat json = .ok result ↔
      ∃ members, givenTo (slots.map Slot.name) json = some members ∧
        ∀ slot ∈ slots, slot.Given members result := by
  cases keyed with
  | obj each once => simp [partition.decode_obj_eq_ok_iff dataFormat once, givenTo]
  | arr each => simp [partition.decode_arr_eq_ok_iff, givenTo, and_assoc]
  | null => simp [Record.decode, givenTo]
  | bool value => simp [Record.decode, givenTo]
  | int number => simp [Record.decode, givenTo]
  | double number => simp [Record.decode, givenTo]
  | str text => simp [Record.decode, givenTo]

/-- A value is read as a record exactly where it gives every part what decodes to it. -/
theorem decode_eq_ok_iff (partition : Partition record slots) (nonempty : slots ≠ [])
    {json : Json} (keyed : json.Keyed) {result : draft} :
    record.decode dataFormat json = .ok result ↔
      ∀ slot ∈ slots, ∃ value,
        Gives (slots.map Slot.name) json slot.name value ∧
          slot.decoder value = .ok (slot.part result) := by
  rw [partition.decode_eq_ok_iff_given keyed]
  constructor
  · rintro ⟨members, given, parts⟩ slot member
    rcases parts slot member with ⟨value, found, decoded⟩
    exact ⟨value, ⟨members, given, found⟩, decoded⟩
  · intro parts
    rcases List.exists_mem_of_ne_nil slots nonempty with ⟨first, isFirst⟩
    rcases parts first isFirst with ⟨-, ⟨members, given, -⟩, -⟩
    refine ⟨members, given, ?_⟩
    intro slot member
    rcases parts slot member with ⟨value, ⟨others, same, found⟩, decoded⟩
    cases Option.some.inj (given.symm.trans same)
    exact ⟨value, found, decoded⟩

end Partition

/-- What is given to the fields of a record are values inside of the one that is read. -/
theorem Gives.keyed_value {names : List String} {json value : Json} {name : String}
    (gives : Gives names json name value) (keyed : json.Keyed) : value.Keyed := by
  rcases gives with ⟨members, given, found⟩
  have member := Members.mem_of_lookup found
  cases keyed with
  | obj each once =>
      cases given
      exact each _ member
  | arr each =>
      rw [givenTo] at given
      split at given
      · cases given
        exact each _ (List.of_mem_zip member).2
      · cases given
  | _ => cases given

/-- What is said of the values that are given need only be the same for values without keys given
twice. -/
theorem exists_gives_congr {names : List String} {json : Json} (keyed : json.Keyed) {name : String}
    {left right : Json → Prop} (same : ∀ value, value.Keyed → (left value ↔ right value)) :
    (∃ value, Gives names json name value ∧ left value) ↔
      ∃ value, Gives names json name value ∧ right value :=
  exists_congr fun value => and_congr_right fun gives => same value (gives.keyed_value keyed)

end TemplateCheck.Decode
