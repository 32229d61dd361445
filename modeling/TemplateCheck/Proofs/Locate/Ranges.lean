import TemplateCheck.Locate

/-! # Ranges of failures

Engines count lines from one, ranges count them from zero: a line is shown as the one before it,
and its column stays. Line zero, which no engine should report, stays line zero, and so it falls
together with line one. A file location from line zero to line one has both its ends on one line
then, where its columns alone decide. Every other location whose ends are reported in order has a
range that runs forward.
-/

namespace TemplateCheck

/-! ## Positions -/

/-- By lines, and on one line by characters. -/
theorem Position.compare_ne_gt_iff {left right : Position} :
    left.compare right ≠ .gt ↔
      left.line < right.line ∨ left.line = right.line ∧ left.character ≤ right.character := by
  have lines : Ord.compare left.line right.line = .gt ↔ right.line < left.line := Std.compare_eq_gt
  have characters : Ord.compare left.character right.character = .gt ↔
      right.character < left.character := Std.compare_eq_gt
  rw [Ne, compare, Ordering.then_eq_gt, lines, characters, Std.compare_eq_iff_eq]
  simp only [UInt32.lt_iff_toNat_lt, UInt32.le_iff_toNat_le, ← UInt32.toNat_inj]
  omega

namespace SourcePosition

/-- By lines, and on one line by columns. -/
def NotAfter (left right : SourcePosition) : Prop :=
  left.line < right.line ∨ left.line = right.line ∧ left.column ≤ right.column

/-- A line counts one less, as long as there is one less, and the column is the same. -/
structure ShownAs (reported : SourcePosition) (shown : Position) : Prop where
  line : shown.line.toNat = reported.line.toNat - 1
  column : shown.character = reported.column

theorem ShownAs.unique {reported : SourcePosition} {first second : Position}
    (isFirst : reported.ShownAs first) (isSecond : reported.ShownAs second) : first = second := by
  have sameLine : first.line = second.line :=
    UInt32.toNat_inj.mp (isFirst.line.trans isSecond.line.symm)
  have sameCharacter := isFirst.column.trans isSecond.column.symm
  rcases first with ⟨line, character⟩
  rcases second with ⟨otherLine, otherCharacter⟩
  cases sameLine
  cases sameCharacter
  rfl

theorem shownAs_toPosition (reported : SourcePosition) : reported.ShownAs reported.toPosition where
  line := by
    unfold toPosition
    split
    · next zero => simp [zero]
    · next known =>
        have positive : 1 ≤ reported.line := by
          rw [UInt32.le_iff_toNat_le]
          have nonzero : reported.line.toNat ≠ 0 := fun zero => known (UInt32.toNat_inj.mp zero)
          exact Nat.one_le_iff_ne_zero.mpr nonzero
        exact UInt32.toNat_sub_of_le _ _ positive
  column := rfl

theorem shownAs_iff {reported : SourcePosition} {shown : Position} :
    reported.ShownAs shown ↔ shown = reported.toPosition :=
  ⟨fun isShown => isShown.unique reported.shownAs_toPosition,
    fun equal => equal ▸ reported.shownAs_toPosition⟩

/-- Two positions in order are shown in order, unless their lines are zero and one. -/
theorem NotAfter.toPosition {start stop : SourcePosition} (notAfter : start.NotAfter stop) :
    start.toPosition.compare stop.toPosition ≠ .gt ↔
      ¬ (start.line = 0 ∧ stop.line = 1 ∧ stop.column < start.column) := by
  have startLine := start.shownAs_toPosition.line
  have stopLine := stop.shownAs_toPosition.line
  rw [Position.compare_ne_gt_iff, start.shownAs_toPosition.column,
    stop.shownAs_toPosition.column]
  simp only [NotAfter, UInt32.lt_iff_toNat_lt, UInt32.le_iff_toNat_le, ← UInt32.toNat_inj,
    UInt32.toNat_zero, UInt32.toNat_one] at notAfter ⊢
  omega

end SourcePosition

/-! ## Locations -/

namespace Descriptor

/-- A position on line zero is not known. -/
def Starts (descriptor : Descriptor) (start : SourcePosition) : Prop :=
  descriptor.start = some start ∧ start.line ≠ 0

def Stops (descriptor : Descriptor) (stop : SourcePosition) : Prop :=
  descriptor.stop = some stop ∧ stop.line ≠ 0

theorem known?_eq_some_iff {position : Option SourcePosition} {shown : Position} :
    (position.filter SourcePosition.isKnown).map SourcePosition.toPosition = some shown ↔
      ∃ reported, (position = some reported ∧ reported.line ≠ 0) ∧ reported.ShownAs shown := by
  simp only [Option.map_eq_some_iff, Option.filter_eq_some_iff, SourcePosition.isKnown,
    bne_iff_ne, SourcePosition.shownAs_iff, @eq_comm _ shown]

theorem knownStart?_eq_some_iff {descriptor : Descriptor} {shown : Position} :
    descriptor.knownStart? = some shown ↔
      ∃ start, descriptor.Starts start ∧ start.ShownAs shown :=
  known?_eq_some_iff

theorem knownStop?_eq_some_iff {descriptor : Descriptor} {shown : Position} :
    descriptor.knownStop? = some shown ↔ ∃ stop, descriptor.Stops stop ∧ stop.ShownAs shown :=
  known?_eq_some_iff

theorem knownStart?_eq_none_iff {descriptor : Descriptor} :
    descriptor.knownStart? = none ↔ ∀ start, ¬ descriptor.Starts start := by
  simp only [Option.eq_none_iff_forall_ne_some, Ne, knownStart?_eq_some_iff, not_exists, not_and]
  exact ⟨fun unshown start starts => unshown _ start starts start.shownAs_toPosition,
    fun unstarted _ start starts => absurd starts (unstarted start)⟩

theorem knownStop?_eq_none_iff {descriptor : Descriptor} :
    descriptor.knownStop? = none ↔ ∀ stop, ¬ descriptor.Stops stop := by
  simp only [Option.eq_none_iff_forall_ne_some, Ne, knownStop?_eq_some_iff, not_exists, not_and]
  exact ⟨fun unshown stop stops => unshown _ stop stops stop.shownAs_toPosition,
    fun unstopped _ stop stops => absurd stops (unstopped stop)⟩

end Descriptor

namespace FailureLocation

/-- A location that reports both a start and an end. -/
inductive Reports : FailureLocation → SourcePosition → SourcePosition → Prop
  | file (start stop : SourcePosition) : Reports (.file start stop) start stop
  | descriptor {descriptor : Descriptor} {start stop : SourcePosition}
      (hasStart : descriptor.start = some start) (hasStop : descriptor.stop = some stop) :
      Reports (.descriptor descriptor) start stop

/-- If both ends are reported, the start is not after the end. -/
def InOrder (location : FailureLocation) : Prop :=
  ∀ start stop, location.Reports start stop → start.NotAfter stop

/-- From line zero of a file to line one, with columns that run backward. -/
inductive Collapses : FailureLocation → Prop
  | file {start stop : SourcePosition} (fromZero : start.line = 0) (toOne : stop.line = 1)
      (backward : stop.column < start.column) : Collapses (.file start stop)

/-- The range that a location stands for. A point error lies at its start, or reaches from the
start of the document to its end; any other descriptor needs both. -/
inductive Places : FailureLocation → Range → Prop
  | file {start stop : SourcePosition} {first last : Position} (showsStart : start.ShownAs first)
      (showsStop : stop.ShownAs last) : Places (.file start stop) ⟨first, last⟩
  | point {descriptor : Descriptor} {start : SourcePosition} {first : Position}
      (isPoint : descriptor.kind.isPointError = true) (starts : descriptor.Starts start)
      (shows : start.ShownAs first) : Places (.descriptor descriptor) (.point first)
  | upTo {descriptor : Descriptor} {stop : SourcePosition} {last : Position}
      (isPoint : descriptor.kind.isPointError = true)
      (unstarted : ∀ start, ¬ descriptor.Starts start) (stops : descriptor.Stops stop)
      (shows : stop.ShownAs last) : Places (.descriptor descriptor) ⟨.zero, last⟩
  | unknown {descriptor : Descriptor} (isPoint : descriptor.kind.isPointError = true)
      (unstarted : ∀ start, ¬ descriptor.Starts start)
      (unstopped : ∀ stop, ¬ descriptor.Stops stop) :
      Places (.descriptor descriptor) .documentStart
  | span {descriptor : Descriptor} {start stop : SourcePosition} {first last : Position}
      (isSpan : descriptor.kind.isPointError = false) (starts : descriptor.Starts start)
      (stops : descriptor.Stops stop) (showsStart : start.ShownAs first)
      (showsStop : stop.ShownAs last) : Places (.descriptor descriptor) ⟨first, last⟩
  | half {descriptor : Descriptor} (isSpan : descriptor.kind.isPointError = false)
      (missing : (∀ start, ¬ descriptor.Starts start) ∨ ∀ stop, ¬ descriptor.Stops stop) :
      Places (.descriptor descriptor) .documentStart
  | unlocated : Places .unlocated .documentStart

theorem places_descriptor (descriptor : Descriptor) :
    Places (.descriptor descriptor) descriptor.range := by
  unfold Descriptor.range
  cases kind : descriptor.kind.isPointError with
  | true =>
      rw [if_pos rfl]
      split
      · next first known =>
          rcases Descriptor.knownStart?_eq_some_iff.mp known with ⟨start, starts, shows⟩
          exact .point kind starts shows
      · next last unknown known =>
          rcases Descriptor.knownStop?_eq_some_iff.mp known with ⟨stop, stops, shows⟩
          exact .upTo kind (Descriptor.knownStart?_eq_none_iff.mp unknown) stops shows
      · next noStart noStop =>
          exact .unknown kind (Descriptor.knownStart?_eq_none_iff.mp noStart)
            (Descriptor.knownStop?_eq_none_iff.mp noStop)
  | false =>
      rw [if_neg Bool.false_ne_true]
      split
      · next first last knownStart knownStop =>
          rcases Descriptor.knownStart?_eq_some_iff.mp knownStart with ⟨start, starts, showsStart⟩
          rcases Descriptor.knownStop?_eq_some_iff.mp knownStop with ⟨stop, stops, showsStop⟩
          exact .span kind starts stops showsStart showsStop
      · next notBoth =>
          refine .half kind ?_
          rw [← Descriptor.knownStart?_eq_none_iff, ← Descriptor.knownStop?_eq_none_iff]
          cases start : descriptor.knownStart? with
          | none => exact Or.inl rfl
          | some first =>
              cases stop : descriptor.knownStop? with
              | none => exact Or.inr rfl
              | some last => exact absurd stop (notBoth first last start)

theorem range_of_places {descriptor : Descriptor} {range : Range}
    (places : Places (.descriptor descriptor) range) : range = descriptor.range := by
  have startOf : ∀ {start first}, descriptor.Starts start → start.ShownAs first →
      descriptor.knownStart? = some first :=
    fun starts shows => Descriptor.knownStart?_eq_some_iff.mpr ⟨_, starts, shows⟩
  have stopOf : ∀ {stop last}, descriptor.Stops stop → stop.ShownAs last →
      descriptor.knownStop? = some last :=
    fun stops shows => Descriptor.knownStop?_eq_some_iff.mpr ⟨_, stops, shows⟩
  unfold Descriptor.range
  cases places with
  | point isPoint starts shows => simp [isPoint, startOf starts shows]
  | upTo isPoint unstarted stops shows =>
      simp [isPoint, Descriptor.knownStart?_eq_none_iff.mpr unstarted, stopOf stops shows]
  | unknown isPoint unstarted unstopped =>
      simp [isPoint, Descriptor.knownStart?_eq_none_iff.mpr unstarted,
        Descriptor.knownStop?_eq_none_iff.mpr unstopped]
  | span isSpan starts stops showsStart showsStop =>
      simp [isSpan, startOf starts showsStart, stopOf stops showsStop]
  | half isSpan missing =>
      rw [← Descriptor.knownStart?_eq_none_iff, ← Descriptor.knownStop?_eq_none_iff] at missing
      rcases missing with noStart | noStop
      · simp [isSpan, noStart]
      · simp [isSpan, noStop]

theorem forward_of_places {location : FailureLocation} {range : Range}
    (places : location.Places range) (inOrder : location.InOrder)
    (apart : ¬ location.Collapses) : range.start.compare range.stop ≠ .gt := by
  have shownInOrder : ∀ {start stop first last}, location.Reports start stop →
      ¬ (start.line = 0 ∧ stop.line = 1 ∧ stop.column < start.column) →
      start.ShownAs first → stop.ShownAs last → first.compare last ≠ .gt := by
    intro start stop first last reports different showsStart showsStop
    rw [SourcePosition.shownAs_iff.mp showsStart, SourcePosition.shownAs_iff.mp showsStop]
    exact (inOrder start stop reports).toPosition.mpr different
  have fromZero : ∀ last : Position, Position.zero.compare last ≠ .gt := by
    intro last
    rw [Position.compare_ne_gt_iff]
    simp only [Position.zero, UInt32.lt_iff_toNat_lt, UInt32.le_iff_toNat_le,
      ← UInt32.toNat_inj, UInt32.toNat_zero]
    omega
  cases places with
  | file showsStart showsStop =>
      refine shownInOrder (.file _ _) ?_ showsStart showsStop
      rintro ⟨fromLineZero, toOne, backward⟩
      exact apart (.file fromLineZero toOne backward)
  | point isPoint starts shows =>
      exact Position.compare_ne_gt_iff.mpr (Or.inr ⟨rfl, UInt32.le_refl _⟩)
  | upTo isPoint unstarted stops shows => exact fromZero _
  | unknown isPoint unstarted unstopped => exact fromZero _
  | span isSpan starts stops showsStart showsStop =>
      -- Line zero is not known, so here it cannot fall together with line one.
      exact shownInOrder (.descriptor starts.1 stops.1) (fun collapses => starts.2 collapses.1)
        showsStart showsStop
  | half isSpan missing => exact fromZero _
  | unlocated => exact fromZero _

end FailureLocation

namespace Failure

/-- How the range of a failure comes from its location, and when it runs forward. -/
structure Placement (failure : Failure) : Prop where
  places_iff : ∀ range, failure.location.Places range ↔ range = failure.range
  forward_iff : failure.location.InOrder →
    (failure.range.start.compare failure.range.stop ≠ .gt ↔ ¬ failure.location.Collapses)

theorem places_range (failure : Failure) : failure.location.Places failure.range := by
  unfold range
  cases failure.location with
  | file start stop => exact .file start.shownAs_toPosition stop.shownAs_toPosition
  | descriptor descriptor => exact FailureLocation.places_descriptor descriptor
  | unlocated => exact .unlocated

theorem range_of_places {failure : Failure} {range : Range}
    (places : failure.location.Places range) : range = failure.range := by
  unfold Failure.range
  cases isLocation : failure.location with
  | file start stop =>
      rw [isLocation] at places
      cases places with
      | file showsStart showsStop =>
          rw [SourcePosition.shownAs_iff.mp showsStart, SourcePosition.shownAs_iff.mp showsStop]
  | descriptor descriptor => exact FailureLocation.range_of_places (isLocation ▸ places)
  | unlocated =>
      rw [isLocation] at places
      cases places
      rfl

theorem placement (failure : Failure) : failure.Placement where
  places_iff := by
    intro range
    exact ⟨range_of_places, fun equal => equal ▸ failure.places_range⟩
  forward_iff := by
    intro inOrder
    constructor
    · intro forward collapses
      cases isFile : failure.location with
      | file start stop =>
          rw [isFile] at inOrder collapses
          simp only [range, isFile] at forward
          cases collapses with
          | file fromZero toOne backward =>
              exact (inOrder start stop (.file start stop)).toPosition.mp forward
                ⟨fromZero, toOne, backward⟩
      | descriptor descriptor =>
          rw [isFile] at collapses
          cases collapses
      | unlocated =>
          rw [isFile] at collapses
          cases collapses
    · exact FailureLocation.forward_of_places failure.places_range inOrder

/-- A failure from the sixth column of line zero to the fourth of line one. -/
def fromLineZero : Failure where
  message := "m"
  location := .file ⟨0, 5⟩ ⟨1, 3⟩

/-- Its ends are reported in order, and its range runs backward. -/
theorem fromLineZero_backward :
    fromLineZero.location.InOrder ∧ fromLineZero.range = ⟨⟨0, 5⟩, ⟨0, 3⟩⟩ ∧
      fromLineZero.range.start.compare fromLineZero.range.stop = .gt := by
  refine ⟨?_, by decide, by decide⟩
  intro start stop reports
  cases reports
  exact Or.inl (by decide)

end Failure

end TemplateCheck
