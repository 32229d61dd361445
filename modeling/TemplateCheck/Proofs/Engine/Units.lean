import TemplateCheck.Proofs.Pass.Course
import TemplateCheck.Proofs.Roots.Bookkeeping

/-! # Engines with a map of units

An engine may keep its logic as a map of units by path. Two paths of the same components are one
key, and the map keeps one spelling of it. What a pass does with the units before it loads logic
files then comes down to one rule: a unit goes if its file is known to be gone and it is not the
edited document, and no other unit changes.
-/

namespace TemplateCheck

structure Engine.Units (engine : Engine) where
  Code : Type
  /-- What is stored under a path, as the path is spelled. -/
  stored : engine.Logic → Path → Option Code
  single : ∀ logic left right, left.same right = true → (stored logic left).isSome = true →
    (stored logic right).isSome = true → left = right
  unitPaths : ∀ logic path, path ∈ engine.unitPaths logic ↔ (stored logic path).isSome = true
  removeUnit : ∀ logic path other, stored (engine.removeUnit logic path) other =
    if other.same path = true then none else stored logic other
  updateUnit : ∀ logic content path, (engine.updateUnit logic content path).2 = .ok () →
    (∀ other, other.same path = false →
      stored (engine.updateUnit logic content path).1 other = stored logic other) ∧
    ∃ own, own.same path = true ∧
      (stored (engine.updateUnit logic content path).1 own).isSome = true

namespace Engine.Units

open Pass

variable {engine : Engine} (units : engine.Units) (files : FileSystem) (context : Context)

/-- What is left at a path once the units without a file are removed. -/
def keptAt (logic : engine.Logic) (path : Path) : Option units.Code :=
  if isStaleUnit files context path then none else units.stored logic path

theorem stored_removeUnits (paths : List Path) (work : Work engine) (other : Path) :
    units.stored (removeUnits paths work).logic other =
      if paths.any other.same = true then none else units.stored work.logic other := by
  induction paths generalizing work with
  | nil => simp [removeUnits]
  | cons path rest induction =>
      rw [removeUnits, induction, List.any_cons]
      dsimp only
      rw [call_logic, units.removeUnit]
      cases other.same path with
      | true => simp
      | false => simp

/-- The units without a file are removed, and no other. -/
theorem stored_prepare (work : Work engine) (path : Path) :
    units.stored ((procedure files context .logic).prepare work).logic path =
      units.keptAt files context work.logic path := by
  dsimp only [procedure]
  rw [stored_removeUnits, call_logic]
  unfold keptAt
  by_cases gone : isStaleUnit files context path = true
  · rw [if_pos gone]
    cases present : units.stored work.logic path with
    | none => simp
    | some content =>
        have listed : path ∈ engine.unitPaths work.logic :=
          (units.unitPaths _ _).mpr (by simp [present])
        rw [if_pos]
        exact List.any_eq_true.mpr
          ⟨path, List.mem_filter.mpr ⟨listed, gone⟩, Path.same_refl path⟩
  · rw [if_neg gone]
    split
    · next removed =>
        -- Only the path itself could have been removed, since a key has one spelling.
        rcases List.any_eq_true.mp removed with ⟨other, member, same⟩
        rcases List.mem_filter.mp member with ⟨listed, isGone⟩
        cases present : units.stored work.logic path with
        | none => rfl
        | some content =>
            have equal := units.single work.logic path other same (by simp [present])
              ((units.unitPaths _ _).mp listed)
            rw [equal] at gone
            exact absurd isGone gone
    · rfl

end Engine.Units

end TemplateCheck
