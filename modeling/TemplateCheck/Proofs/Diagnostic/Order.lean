import TemplateCheck.Diagnostic
import TemplateCheck.Proofs.Text.ByteOrder

/-! # The order of diagnostics

Diagnostics are ordered by the numbers of their ranges, severities and stages and then by the
bytes of their messages. No two of them are taken for equal.
-/

namespace TemplateCheck

theorem Severity.code_injective {left right : Severity} (equal : left.code = right.code) :
    left = right := by
  cases left <;> cases right <;> first | rfl | cases equal

theorem Stage.rank_injective {left right : Stage} (equal : left.rank = right.rank) :
    left = right := by
  cases left <;> cases right <;> first | rfl | cases equal

namespace Diagnostic

/-- The numbers of a diagnostic, those that count most first. -/
def numbers (diagnostic : Diagnostic) : List Nat :=
  [diagnostic.range.start.line.toNat, diagnostic.range.start.character.toNat,
    diagnostic.range.stop.line.toNat, diagnostic.range.stop.character.toNat,
    diagnostic.severity.code, diagnostic.stage.rank]

/-- Smaller numbers come first, and among equal ones smaller bytes of the message. -/
def Precedes (left right : Diagnostic) : Prop :=
  left.numbers < right.numbers ∨
    left.numbers = right.numbers ∧
      Text.Utf8.encode left.message < Text.Utf8.encode right.message

theorem compare_toNat (left right : UInt32) :
    Ord.compare left.toNat right.toNat = Ord.compare left right := by
  simp only [Ord.compare, compareOfLessAndEq, UInt32.lt_iff_toNat_lt, UInt32.toNat_inj]

theorem compare_lists (left right : List Nat) :
    Ord.compare left right = List.compareLex Ord.compare left right :=
  rfl

theorem compare_eq (left right : Diagnostic) :
    compare left right =
      (Ord.compare left.numbers right.numbers).then (Ord.compare left.message right.message) := by
  simp only [compare, Range.compare, Position.compare, compare_lists, numbers,
    List.compareLex_cons_cons, List.compareLex_nil_nil, compare_toNat, Ordering.then_eq,
    Ordering.then_assoc]

theorem compare_numbers_eq_lt_iff (left right : List Nat) :
    Ord.compare left right = .lt ↔ left < right := by
  induction left generalizing right with
  | nil => cases right <;> simp
  | cons first others induction =>
      cases right with
      | nil => simp
      | cons second rest =>
          rw [compare_lists, List.compareLex_cons_cons, Ordering.then_eq_lt, Nat.compare_eq_lt,
            Nat.compare_eq_eq, ← compare_lists, induction rest, List.cons_lt_cons_iff]

theorem compare_eq_lt_iff {left right : Diagnostic} :
    compare left right = .lt ↔ Precedes left right := by
  rw [compare_eq, Ordering.then_eq_lt, compare_numbers_eq_lt_iff,
    Std.LawfulEqOrd.compare_eq_iff_eq, Precedes, Text.Utf8.encode_lt_iff]
  exact or_congr_right (and_congr_right fun _ => compareOfLessAndEq_eq_lt)

instance : Std.TransCmp compare := by
  have lexicographic : compare = compareLex (compareOn numbers) (compareOn message) := by
    funext left right
    exact compare_eq left right
  rw [lexicographic]
  infer_instance

/-- Diagnostics with equal numbers and messages are equal in all their parts. -/
instance : Std.LawfulEqCmp compare where
  compare_self := fun {diagnostic} => Std.ReflCmp.compare_self
  eq_of_compare := by
    intro left right equal
    rw [compare_eq, Ordering.then_eq_eq, Std.LawfulEqOrd.compare_eq_iff_eq,
      Std.LawfulEqOrd.compare_eq_iff_eq] at equal
    rcases left with ⟨⟨⟨_, _⟩, ⟨_, _⟩⟩, _, _, _⟩
    rcases right with ⟨⟨⟨_, _⟩, ⟨_, _⟩⟩, _, _, _⟩
    simp only [numbers, List.cons.injEq, UInt32.toNat_inj, and_true] at equal
    rcases equal with ⟨⟨line, character, stopLine, stopCharacter, code, rank⟩, message⟩
    rw [line, character, stopLine, stopCharacter, Severity.code_injective code,
      Stage.rank_injective rank, message]

end Diagnostic

end TemplateCheck
