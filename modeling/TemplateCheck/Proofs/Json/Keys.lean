import TemplateCheck.Json.Parser
import TemplateCheck.Proofs.Increasing
import TemplateCheck.Proofs.Members

/-! # Keys of objects

The objects inside a value that is read give each of their keys once, however often the text gives
it.
-/

namespace TemplateCheck.Json

/-- No object in a value gives a key twice. -/
inductive Keyed : Json → Prop
  | null : Keyed .null
  | bool (value : Bool) : Keyed (.bool value)
  | int (number : Int) : Keyed (.int number)
  | double (number : Decimal.Binary64) : Keyed (.double number)
  | str (text : String) : Keyed (.str text)
  | arr {items : List Json} (each : ∀ item ∈ items, Keyed item) : Keyed (.arr items)
  | obj {members : List (String × Json)} (each : ∀ member ∈ members, Keyed member.2)
      (once : Members.Once members) : Keyed (.obj members)

/-! ## Sorted members -/

theorem once_of_increasing {members : List (String × Json)}
    (increasing : Ordered.IncreasingKeys compare members) : Members.Once members := by
  rw [Members.Once, List.Nodup, List.pairwise_map]
  refine increasing.imp ?_
  rintro left right before same
  rw [same, Std.LawfulEqOrd.compare_eq_iff_eq.mpr rfl] at before
  cases before

theorem Keyed.ofMembers {members : List (String × Json)}
    (each : ∀ member ∈ members, Keyed member.2) : Keyed (ofMembers members) := by
  -- The members so far are sorted by their keys, and each of them is keyed.
  have put : ∀ (added sorted : List (String × Json)), (∀ member ∈ added, Keyed member.2) →
      Ordered.IncreasingKeys compare sorted → (∀ member ∈ sorted, Keyed member.2) →
      Ordered.IncreasingKeys compare (added.foldl
          (fun sorted member => Ordered.put compare member.1 member.2 sorted) sorted) ∧
        ∀ member ∈ added.foldl
          (fun sorted member => Ordered.put compare member.1 member.2 sorted) sorted,
          Keyed member.2 := by
    intro added
    induction added with
    | nil => exact fun sorted _ increasing keyed => ⟨increasing, keyed⟩
    | cons first rest induction =>
        intro sorted new increasing keyed
        refine induction _ (fun member later => new member (List.mem_cons_of_mem _ later))
          (increasing.put first.1 first.2) ?_
        intro member isMember
        rcases Ordered.mem_put isMember with isNew | isOld
        · exact isNew ▸ new first List.mem_cons_self
        · exact keyed member isOld
  rcases put members [] each .nil nofun with ⟨increasing, keyed⟩
  exact .obj keyed (once_of_increasing increasing)

/-! ## Readers -/

theorem keyed_wholeNumber (negative : Bool) (significand : Nat) :
    Keyed (wholeNumber negative significand) := by
  unfold wholeNumber
  split
  · split
    · exact .int _
    · exact .double _
  · exact .int _

theorem keyed_doubleOf {negative : Bool} {significand : Nat} {exponent : Int} {json : Json}
    (isDouble : doubleOf negative significand exponent = some json) : Keyed json := by
  rcases Option.map_eq_some_iff.mp isDouble with ⟨value, -, rfl⟩
  exact .double _

theorem keyed_numberBody {negative : Bool} {input rest : List Char} {json : Json}
    (isRead : numberBody negative input = some (json, rest)) : Keyed json := by
  unfold numberBody at isRead
  simp only [Option.bind_eq_bind] at isRead
  split at isRead
  · cases isRead
  · rcases Option.bind_eq_some_iff.mp isRead with ⟨⟨fraction, behind⟩, -, isRead⟩
    rcases Option.bind_eq_some_iff.mp isRead with ⟨⟨exponent, behind⟩, -, isRead⟩
    dsimp only at isRead
    split at isRead
    · split at isRead
      · cases isRead
        exact keyed_wholeNumber _ _
      · rcases Option.bind_eq_some_iff.mp isRead with ⟨double, isDouble, equal⟩
        cases equal
        exact keyed_doubleOf isDouble
    · rcases Option.bind_eq_some_iff.mp isRead with ⟨double, isDouble, equal⟩
      cases equal
      exact keyed_doubleOf isDouble

theorem keyed_number {input rest : List Char} {json : Json}
    (isRead : number input = some (json, rest)) : Keyed json := by
  cases input with
  | nil => cases isRead
  | cons sign digits =>
      rw [number] at isRead
      split at isRead
      · exact keyed_numberBody isRead
      · exact keyed_numberBody isRead

/-- Whatever a reader reads is keyed. -/
def YieldsKeyed (item : Reader Json) : Prop :=
  ∀ input json rest, item input = some (json, rest) → Keyed json

variable {item : Reader Json}

theorem YieldsKeyed.moreItems (yields : YieldsKeyed item) {bound : Nat} {input rest : List Char}
    {list : List Json} (isRead : moreItems item bound input = some (list, rest)) :
    ∀ json ∈ list, Keyed json := by
  induction bound generalizing input list with
  | zero => cases isRead
  | succ bound induction =>
      rw [Json.moreItems] at isRead
      split at isRead
      · cases isRead
      · split at isRead
        · cases isRead
          exact nofun
        · split at isRead
          · rcases Option.bind_eq_some_iff.mp isRead with ⟨⟨first, behind⟩, isFirst, isRead⟩
            rcases Option.bind_eq_some_iff.mp isRead with ⟨⟨others, last⟩, areOthers, equal⟩
            cases equal
            exact List.forall_mem_cons.mpr ⟨yields _ _ _ isFirst, induction areOthers⟩
          · cases isRead

theorem YieldsKeyed.items (yields : YieldsKeyed item) {input rest : List Char} {list : List Json}
    (isRead : items item input = some (list, rest)) : ∀ json ∈ list, Keyed json := by
  rw [Json.items] at isRead
  split at isRead
  · cases isRead
  · split at isRead
    · cases isRead
      exact nofun
    · rcases Option.bind_eq_some_iff.mp isRead with ⟨⟨first, behind⟩, isFirst, isRead⟩
      rcases Option.bind_eq_some_iff.mp isRead with ⟨⟨others, last⟩, areOthers, equal⟩
      cases equal
      exact List.forall_mem_cons.mpr ⟨yields _ _ _ isFirst, yields.moreItems areOthers⟩

theorem YieldsKeyed.member (yields : YieldsKeyed item) {input rest : List Char}
    {entry : String × Json} (isRead : member item input = some (entry, rest)) :
    Keyed entry.2 := by
  rw [Json.member] at isRead
  split at isRead
  · cases isRead
  · split at isRead
    · rcases Option.bind_eq_some_iff.mp isRead with ⟨⟨key, behind⟩, -, isRead⟩
      dsimp only at isRead
      split at isRead
      · cases isRead
      · split at isRead
        · rcases Option.bind_eq_some_iff.mp isRead with ⟨⟨value, last⟩, isValue, equal⟩
          cases equal
          exact yields _ _ _ isValue
        · cases isRead
    · cases isRead

theorem YieldsKeyed.moreMembers (yields : YieldsKeyed item) {bound : Nat}
    {input rest : List Char} {list : List (String × Json)}
    (isRead : moreMembers item bound input = some (list, rest)) :
    ∀ entry ∈ list, Keyed entry.2 := by
  induction bound generalizing input list with
  | zero => cases isRead
  | succ bound induction =>
      rw [Json.moreMembers] at isRead
      split at isRead
      · cases isRead
      · split at isRead
        · cases isRead
          exact nofun
        · split at isRead
          · rcases Option.bind_eq_some_iff.mp isRead with ⟨⟨first, behind⟩, isFirst, isRead⟩
            rcases Option.bind_eq_some_iff.mp isRead with ⟨⟨others, last⟩, areOthers, equal⟩
            cases equal
            exact List.forall_mem_cons.mpr ⟨yields.member isFirst, induction areOthers⟩
          · cases isRead

theorem YieldsKeyed.members (yields : YieldsKeyed item) {input rest : List Char}
    {list : List (String × Json)} (isRead : members item input = some (list, rest)) :
    ∀ entry ∈ list, Keyed entry.2 := by
  rw [Json.members] at isRead
  split at isRead
  · cases isRead
  · split at isRead
    · cases isRead
      exact nofun
    · rcases Option.bind_eq_some_iff.mp isRead with ⟨⟨first, behind⟩, isFirst, isRead⟩
      rcases Option.bind_eq_some_iff.mp isRead with ⟨⟨others, last⟩, areOthers, equal⟩
      cases equal
      exact List.forall_mem_cons.mpr ⟨yields.member isFirst, yields.moreMembers areOthers⟩

theorem keyed_word {letters input rest : List Char} {value json : Json} (keyed : Keyed value)
    (isRead : word letters value input = some (json, rest)) : Keyed json := by
  unfold word at isRead
  split at isRead
  · cases isRead
    exact keyed
  · cases isRead

theorem YieldsKeyed.valueWith {nested : Option (Reader Json)}
    (yields : ∀ item ∈ nested, YieldsKeyed item) : YieldsKeyed (valueWith nested) := by
  intro input json rest isRead
  rw [Json.valueWith] at isRead
  split at isRead
  · cases isRead
  · next mark behind _ =>
      split at isRead
      · exact keyed_word .null isRead
      split at isRead
      · exact keyed_word (.bool true) isRead
      split at isRead
      · exact keyed_word (.bool false) isRead
      split at isRead
      · rcases Option.map_eq_some_iff.mp isRead with ⟨⟨body, after⟩, -, equal⟩
        cases equal
        exact .str _
      split at isRead
      · rcases Option.bind_eq_some_iff.mp isRead with ⟨item, isItem, isRead⟩
        rcases Option.map_eq_some_iff.mp isRead with ⟨⟨list, after⟩, areItems, equal⟩
        cases equal
        exact .arr ((yields item isItem).items areItems)
      split at isRead
      · rcases Option.bind_eq_some_iff.mp isRead with ⟨item, isItem, isRead⟩
        rcases Option.map_eq_some_iff.mp isRead with ⟨⟨list, after⟩, areMembers, equal⟩
        cases equal
        exact .ofMembers ((yields item isItem).members areMembers)
      · exact keyed_number isRead

theorem yieldsKeyed_value (levels : Nat) : YieldsKeyed (value levels) := by
  induction levels with
  | zero => exact .valueWith nofun
  | succ levels induction =>
      refine .valueWith ?_
      intro item isItem
      cases isItem
      exact induction

theorem keyed_of_parse {text : String} {json : Json} (parsed : parse text = some json) :
    json.Keyed := by
  rcases Option.bind_eq_some_iff.mp parsed with ⟨⟨value, rest⟩, isRead, equal⟩
  dsimp only at equal
  split at equal
  · cases equal
    exact yieldsKeyed_value greatestDepth _ _ _ isRead
  · cases equal

end TemplateCheck.Json
