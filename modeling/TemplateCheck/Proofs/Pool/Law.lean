import TemplateCheck.Proofs.Pool.Tickets

/-! # The law of passes

Every deed of a run obeys one law, which says what must have been done before it:
tickets are numbered upwards, a check tells whether a later ticket is out, a
stage starts right after a check that its pass has passed, and a pass that
completes comes after all that completed before it. The law is kept because the
deeds so far agree with every pass under way.
-/

namespace TemplateCheck.Pool

open Function (update)
open Roots (Ticket Handle Store)

variable {engine : Engine}

/-! ## What the law says -/

/-- The pass that does a deed. Tickets are issued by handles. -/
def Deed.pass? : Deed engine → Option (Nat × Ticket)
  | .issued _ _ _ => none
  | .checked number ticket _ => some (number, ticket)
  | .started number ticket _ => some (number, ticket)
  | .did number ticket _ => some (number, ticket)
  | .ended number ticket _ => some (number, ticket)

/-- The last deed of a pass was a check that let it through. -/
def Cleared (deeds : List (Deed engine)) (number : Nat) (ticket : Ticket) : Prop :=
  ∃ before since, deeds = before ++ .checked number ticket true :: since ∧
    ∀ deed ∈ since, deed.pass? ≠ some (number, ticket)

/-- All passes of the same document that have completed had earlier tickets. -/
def Leading (deeds : List (Deed engine)) (number : Nat) (ticket : Ticket) : Prop :=
  ∀ older result, .ended number older (.completed result) ∈ deeds →
    older.document.same ticket.document = true → older.generation < ticket.generation

/-- What a deed needs of those before it. -/
def Lawful (past : List (Deed engine)) : Deed engine → Prop
  | .issued _ number ticket =>
      ∀ older ∈ tickets past number, older.generation < ticket.generation
  | .checked number ticket isCurrent =>
      ticket ∈ tickets past number ∧ (isCurrent = true ↔ ¬ Outdated past number ticket)
  | .started number ticket _ =>
      Cleared past number ticket ∧ .checked number ticket false ∉ past
  | .did number ticket _ =>
      .checked number ticket true ∈ past ∧ .checked number ticket false ∉ past
  | .ended number ticket outcome =>
      (∀ other, .ended number ticket other ∉ past) ∧
        match outcome with
        | .completed _ => Leading past number ticket
        | .superseded => .checked number ticket false ∈ past ∧ Outdated past number ticket
        | .broken => ¬ engine.Steady
        | .notAFile _ => False

/-- Every deed obeys the law. -/
def Lawabiding (deeds : List (Deed engine)) : Prop :=
  ∀ past deed future, deeds = past ++ deed :: future → Lawful past deed

namespace Lawabiding

theorem nil : Lawabiding ([] : List (Deed engine)) := by
  intro past deed future equal
  simp at equal

theorem snoc {deeds : List (Deed engine)} (lawabiding : Lawabiding deeds) (deed : Deed engine)
    (lawful : Lawful deeds deed) : Lawabiding (deeds ++ [deed]) := by
  intro past other future equal
  rcases List.eq_nil_or_concat future with isLast | ⟨front, last, split⟩
  · rw [isLast] at equal
    rcases List.append_inj' equal rfl with ⟨samePast, sameDeed⟩
    cases sameDeed
    exact samePast ▸ lawful
  · have shorter : deeds = past ++ other :: front := by
      rw [split, List.concat_eq_append, ← List.cons_append, ← List.append_assoc] at equal
      exact (List.append_inj' equal rfl).1
    exact lawabiding past other front shorter

end Lawabiding

/-! ## Passes under way -/

/-- What the deeds say of a pass under way. -/
structure StandsWell (deeds : List (Deed engine)) (stand : Stand) : Prop where
  issued : stand.ticket ∈ tickets deeds stand.number
  unended : ∀ outcome, .ended stand.number stand.ticket outcome ∉ deeds
  unrefused : .checked stand.number stand.ticket false ∉ deeds
  approved : stand.footing = .cleared ∨ stand.footing = .engaged →
    .checked stand.number stand.ticket true ∈ deeds
  cleared : stand.footing = .cleared → Cleared deeds stand.number stand.ticket
  leading : stand.footing = .cleared ∨ stand.footing = .engaged →
    Leading deeds stand.number stand.ticket

/-- Deeds that agree with all passes under way. -/
structure Attended (deeds : List (Deed engine)) (stands : Nat → Option Stand) : Prop where
  well : ∀ task stand, stands task = some stand → StandsWell deeds stand
  alone : ∀ left right leftStand rightStand, stands left = some leftStand →
    stands right = some rightStand → leftStand.number = rightStand.number →
    leftStand.ticket = rightStand.ticket → left = right
  known : ∀ deed number ticket, deed ∈ deeds → deed.pass? = some (number, ticket) →
    ticket ∈ tickets deeds number
  /-- A ticket is with its task until the pass has ended. -/
  kept : ∀ task number ticket, .issued (some task) number ticket ∈ deeds →
    (∃ footing, stands task = some ⟨number, ticket, footing⟩) ∨
      ∃ outcome, .ended number ticket outcome ∈ deeds

/-- No two passes have the registries of one handle. -/
def Exclusive (stands : Nat → Option Stand) : Prop :=
  ∀ left right leftStand rightStand, stands left = some leftStand →
    stands right = some rightStand → leftStand.footing ≠ .outside →
    rightStand.footing ≠ .outside → leftStand.number = rightStand.number → left = right

theorem exclusive_of_orderly {pool : Pool engine} (orderly : Orderly pool.claim pool.lock) :
    Exclusive pool.stand := by
  intro left right leftStand rightStand leftStands rightStands leftInside rightInside same
  have leftUses := claim_of_stand leftStands leftInside
  have rightUses := claim_of_stand rightStands rightInside
  rw [same] at leftUses
  exact orderly.user_unique leftUses rightUses

theorem Cleared.append {deeds more : List (Deed engine)} {number : Nat} {ticket : Ticket}
    (cleared : Cleared deeds number ticket)
    (apart : ∀ deed ∈ more, deed.pass? ≠ some (number, ticket)) :
    Cleared (deeds ++ more) number ticket := by
  rcases cleared with ⟨before, since, split, quiet⟩
  refine ⟨before, since ++ more, by rw [split]; simp, ?_⟩
  intro deed member
  rcases List.mem_append.mp member with early | late
  · exact quiet deed early
  · exact apart deed late

theorem Leading.append {deeds more : List (Deed engine)} {number : Nat} {ticket : Ticket}
    (leading : Leading deeds number ticket)
    (none : ∀ older result, .ended number older (.completed result) ∉ more) :
    Leading (deeds ++ more) number ticket := by
  intro older result member
  rcases List.mem_append.mp member with early | late
  · exact leading older result early
  · exact absurd late (none older result)

/-- A pass is not touched by the deeds of others. -/
theorem StandsWell.append {deeds more : List (Deed engine)} {stand : Stand}
    (well : StandsWell deeds stand)
    (apart : ∀ deed ∈ more, deed.pass? ≠ some (stand.number, stand.ticket))
    (none : stand.footing ≠ .outside →
      ∀ older result, .ended stand.number older (.completed result) ∉ more) :
    StandsWell (deeds ++ more) stand where
  issued := by
    rw [tickets_append]
    exact List.mem_append_left _ well.issued
  unended := by
    intro outcome member
    rcases List.mem_append.mp member with early | late
    · exact well.unended outcome early
    · exact apart _ late rfl
  unrefused := by
    intro member
    rcases List.mem_append.mp member with early | late
    · exact well.unrefused early
    · exact apart _ late rfl
  approved := fun inside => List.mem_append_left _ (well.approved inside)
  cleared := fun inside => (well.cleared inside).append apart
  leading := by
    intro inside
    have notOutside : stand.footing ≠ .outside := by
      rcases inside with cleared | engaged
      · simp [cleared]
      · simp [engaged]
    exact (well.leading inside).append (none notOutside)

theorem stageDeeds_pass {stand : Stand} {stage : Stage} {actions : List (Action engine.Template)}
    {deed : Deed engine} (member : deed ∈ stageDeeds stand stage actions) :
    deed.pass? = some (stand.number, stand.ticket) := by
  rcases List.mem_append.mp member with opening | work
  · split at opening
    · rw [List.mem_singleton.mp opening]
      rfl
    · cases opening
  · rcases List.mem_map.mp work with ⟨action, _, equal⟩
    rw [← equal]
    rfl

/-- Within a stage a pass neither checks nor ends. -/
theorem stageDeeds_inside {stand : Stand} {stage : Stage} {actions : List (Action engine.Template)}
    {number : Nat} {ticket : Ticket} :
    (∀ isCurrent, .checked number ticket isCurrent ∉
        (stageDeeds stand stage actions : List (Deed engine))) ∧
      ∀ outcome, .ended number ticket outcome ∉
        (stageDeeds stand stage actions : List (Deed engine)) := by
  constructor
  · intro isCurrent member
    rcases List.mem_append.mp member with opening | work
    · split at opening
      · simp at opening
      · cases opening
    · simp at work
  · intro outcome member
    rcases List.mem_append.mp member with opening | work
    · split at opening
      · simp at opening
      · cases opening
    · simp at work

namespace Attended

variable {deeds : List (Deed engine)} {books : Nat → Book} {stands : Nat → Option Stand}

theorem empty : Attended ([] : List (Deed engine)) fun _ => none where
  well := by simp
  alone := by simp
  known := by simp
  kept := by simp

/-- The deeds of one pass leave all others as they stand. -/
private theorem others (attended : Attended deeds stands) (exclusive : Exclusive stands)
    {task : Nat} {stand : Stand} (before : stands task = some stand) {more : List (Deed engine)}
    (own : ∀ deed ∈ more, deed.pass? = some (stand.number, stand.ticket))
    (inside : ∀ number older result, .ended number older (.completed result) ∈ more →
      stand.footing ≠ .outside)
    {other : Nat} {otherStand : Stand} (different : other ≠ task)
    (stands' : stands other = some otherStand) : StandsWell (deeds ++ more) otherStand := by
  apply (attended.well other otherStand stands').append
  · intro deed member equal
    rw [own deed member] at equal
    rcases Prod.mk.inj (Option.some.inj equal) with ⟨sameNumber, sameTicket⟩
    exact different (attended.alone other task otherStand stand stands' before sameNumber.symm
      sameTicket.symm)
  · intro notOutside older result member
    have sameNumber : stand.number = otherStand.number := by
      have pass := own _ member
      simp only [Deed.pass?, Option.some.injEq, Prod.mk.injEq] at pass
      exact pass.1.symm
    exact different (exclusive other task otherStand stand stands' before notOutside
      (inside _ older result member) sameNumber.symm)

/-- A pass goes on with its ticket, or ends. -/
private theorem advance (attended : Attended deeds stands) (exclusive : Exclusive stands)
    {task : Nat} {stand : Stand} (before : stands task = some stand) {more : List (Deed engine)}
    (own : ∀ deed ∈ more, deed.pass? = some (stand.number, stand.ticket))
    (inside : ∀ number older result, .ended number older (.completed result) ∈ more →
      stand.footing ≠ .outside)
    {next : Option Stand}
    (goesOn : ∀ later, next = some later → later.number = stand.number ∧
      later.ticket = stand.ticket ∧ StandsWell (deeds ++ more) later)
    (ends : next = none → ∃ outcome, .ended stand.number stand.ticket outcome ∈ more) :
    Attended (deeds ++ more) (update stands task next) where
  well := by
    intro other otherStand stands'
    by_cases same : other = task
    · subst same
      rw [Function.update_self] at stands'
      exact (goesOn otherStand stands').2.2
    · rw [Function.update_of_ne same] at stands'
      exact attended.others exclusive before own inside same stands'
  alone := by
    -- The stand of the task that goes on has the ticket that it had before.
    have back : ∀ other otherStand, update stands task next other = some otherStand →
        ∃ old, stands other = some old ∧ old.number = otherStand.number ∧
          old.ticket = otherStand.ticket := by
      intro other otherStand stands'
      by_cases same : other = task
      · subst same
        rw [Function.update_self] at stands'
        rcases goesOn otherStand stands' with ⟨sameNumber, sameTicket, _⟩
        exact ⟨stand, before, sameNumber.symm, sameTicket.symm⟩
      · rw [Function.update_of_ne same] at stands'
        exact ⟨otherStand, stands', rfl, rfl⟩
    intro left right leftStand rightStand leftStands rightStands sameNumber sameTicket
    rcases back left leftStand leftStands with ⟨leftOld, leftBefore, leftNumber, leftTicket⟩
    rcases back right rightStand rightStands with ⟨rightOld, rightBefore, rightNumber, rightTicket⟩
    apply attended.alone left right leftOld rightOld leftBefore rightBefore
    · rw [leftNumber, rightNumber, sameNumber]
    · rw [leftTicket, rightTicket, sameTicket]
  known := by
    intro deed number ticket member pass
    rw [tickets_append]
    apply List.mem_append_left
    rcases List.mem_append.mp member with early | late
    · exact attended.known deed number ticket early pass
    · rw [own deed late] at pass
      cases pass
      exact (attended.well task stand before).issued
  kept := by
    intro other number ticket member
    have early : .issued (some other) number ticket ∈ deeds := by
      rcases List.mem_append.mp member with early | late
      · exact early
      · cases own _ late
    rcases attended.kept other number ticket early with ⟨footing, stands'⟩ | ⟨outcome, ended⟩
    · by_cases same : other = task
      · subst same
        rw [before] at stands'
        cases stands'
        cases next with
        | none =>
            rcases ends rfl with ⟨outcome, ended⟩
            exact Or.inr ⟨outcome, List.mem_append_right _ ended⟩
        | some later =>
            rcases goesOn later rfl with ⟨sameNumber, sameTicket, _⟩
            rcases later with ⟨laterNumber, laterTicket, laterFooting⟩
            cases sameNumber
            cases sameTicket
            exact Or.inl ⟨laterFooting, by rw [Function.update_self]⟩
      · exact Or.inl ⟨footing, by rw [Function.update_of_ne same]; exact stands'⟩
    · exact Or.inr ⟨outcome, List.mem_append_left _ ended⟩

/-- A ticket is issued: no pass under way is touched. -/
private theorem issues (attended : Attended deeds stands) (asker : Option Nat) (number : Nat)
    (ticket : Ticket) (task : Nat) (stand : Stand) (stands' : stands task = some stand) :
    StandsWell (deeds ++ [.issued asker number ticket]) stand := by
  apply (attended.well task stand stands').append
  · intro deed member
    rw [List.mem_singleton.mp member]
    simp [Deed.pass?]
  · intro notOutside older result member
    simp at member

private theorem known_issues (attended : Attended deeds stands) (asker : Option Nat) (number : Nat)
    (ticket : Ticket) (deed : Deed engine) (other : Nat) (old : Ticket)
    (member : deed ∈ deeds ++ [.issued asker number ticket])
    (pass : deed.pass? = some (other, old)) :
    old ∈ tickets (deeds ++ [.issued asker number ticket]) other := by
  rw [tickets_append]
  apply List.mem_append_left
  rcases List.mem_append.mp member with early | late
  · exact attended.known deed other old early pass
  · rw [List.mem_singleton.mp late] at pass
    cases pass

private theorem handsOut (attended : Attended deeds stands) (number : Nat) (ticket : Ticket) :
    Attended (deeds ++ [.issued none number ticket]) stands where
  well := attended.issues none number ticket
  alone := attended.alone
  known := attended.known_issues none number ticket
  kept := by
    intro task other old member
    have early : .issued (some task) other old ∈ deeds := by simpa using member
    rcases attended.kept task other old early with under | ⟨outcome, ended⟩
    · exact Or.inl under
    · exact Or.inr ⟨outcome, List.mem_append_left _ ended⟩

/-- A ticket that nobody had before goes to a task without one. -/
private theorem registers (attended : Attended deeds stands) {task number : Nat} {ticket : Ticket}
    (before : stands task = none) (fresh : ticket ∉ tickets deeds number) :
    Attended (deeds ++ [.issued (some task) number ticket])
      (update stands task (some ⟨number, ticket, .outside⟩)) := by
  have unknown : ∀ deed ∈ deeds, deed.pass? ≠ some (number, ticket) := by
    intro deed member pass
    exact fresh (attended.known deed number ticket member pass)
  have apart : ∀ other stand, stands other = some stand → stand.number = number →
      stand.ticket ≠ ticket := by
    intro other stand stands' sameNumber sameTicket
    have issued := (attended.well other stand stands').issued
    rw [sameNumber, sameTicket] at issued
    exact fresh issued
  refine ⟨?well, ?alone, attended.known_issues (some task) number ticket, ?kept⟩
  case well =>
    intro other stand stands'
    by_cases same : other = task
    · subst same
      rw [Function.update_self] at stands'
      cases stands'
      refine ⟨by simp, ?_, ?_, by simp, by simp, by simp⟩
      · intro outcome member
        have early : .ended number ticket outcome ∈ deeds := by simpa using member
        exact unknown _ early rfl
      · intro member
        have early : .checked number ticket false ∈ deeds := by simpa using member
        exact unknown _ early rfl
    · rw [Function.update_of_ne same] at stands'
      exact attended.issues (some task) number ticket other stand stands'
  case alone =>
    intro left right leftStand rightStand leftStands rightStands sameNumber sameTicket
    by_cases isLeft : left = task
    · by_cases isRight : right = task
      · rw [isLeft, isRight]
      · rw [isLeft, Function.update_self] at leftStands
        rw [Function.update_of_ne isRight] at rightStands
        cases leftStands
        exact absurd sameTicket.symm (apart right rightStand rightStands sameNumber.symm)
    · rw [Function.update_of_ne isLeft] at leftStands
      by_cases isRight : right = task
      · rw [isRight, Function.update_self] at rightStands
        cases rightStands
        exact absurd sameTicket (apart left leftStand leftStands sameNumber)
      · rw [Function.update_of_ne isRight] at rightStands
        exact attended.alone left right leftStand rightStand leftStands rightStands sameNumber
          sameTicket
  case kept =>
    intro other otherNumber old member
    rcases List.mem_append.mp member with early | late
    · rcases attended.kept other otherNumber old early with ⟨footing, stands'⟩ | ⟨outcome, ended⟩
      · have different : other ≠ task := by
          intro same
          rw [same, before] at stands'
          cases stands'
        exact Or.inl ⟨footing, by rw [Function.update_of_ne different]; exact stands'⟩
      · exact Or.inr ⟨outcome, List.mem_append_left _ ended⟩
    · rw [List.mem_singleton] at late
      cases late
      exact Or.inl ⟨.outside, by rw [Function.update_self]⟩

/-- A pass whose ticket is current comes after all that have completed. -/
theorem leading_of_current (attended : Attended deeds stands) (booked : Booked deeds books)
    {task : Nat} {stand : Stand} (before : stands task = some stand)
    (current : ¬ Outdated deeds stand.number stand.ticket) :
    Leading deeds stand.number stand.ticket := by
  intro older result member same
  have olderIssued := attended.known _ stand.number older member rfl
  have well := attended.well task stand before
  have notLater : ¬ stand.ticket.generation < older.generation := by
    intro later
    exact current ⟨older, olderIssued, same, later⟩
  have different : older.generation ≠ stand.ticket.generation := by
    intro equal
    rw [booked.eq_of_generation olderIssued well.issued equal] at member
    exact well.unended _ member
  omega

/-- Within a stage a pass stays as it stood. -/
theorem standsWell_stage (attended : Attended deeds stands) {task : Nat} {stand : Stand}
    (before : stands task = some stand)
    (inside : stand.footing = .cleared ∨ stand.footing = .engaged) (stage : Stage)
    (actions : List (Action engine.Template)) (footing : Footing) (notCleared : footing ≠ .cleared) :
    StandsWell (deeds ++ stageDeeds stand stage actions) { stand with footing } := by
  have well := attended.well task stand before
  refine ⟨?issued, ?unended, ?unrefused, ?approved, ?cleared, ?leading⟩
  case issued => simpa using well.issued
  case unended =>
    intro outcome member
    rcases List.mem_append.mp member with early | late
    · exact well.unended outcome early
    · exact stageDeeds_inside.2 outcome late
  case unrefused =>
    intro member
    rcases List.mem_append.mp member with early | late
    · exact well.unrefused early
    · exact stageDeeds_inside.1 false late
  case approved =>
    intro _
    exact List.mem_append_left _ (well.approved inside)
  case cleared =>
    intro isCleared
    exact absurd isCleared notCleared
  case leading =>
    intro _
    exact (well.leading inside).append fun older result => stageDeeds_inside.2 (.completed result)

theorem changed (attended : Attended deeds stands) (booked : Booked deeds books)
    (exclusive : Exclusive stands) {new : List (Deed engine)} {nextBooks : Nat → Book}
    {nextStands : Nat → Option Stand} (change : Change books stands new nextBooks nextStands) :
    Attended (deeds ++ new) nextStands := by
  cases change with
  | unseen => simpa using attended
  | handsOut number document => exact attended.handsOut number _
  | registers before number document => exact attended.registers before (booked.next_fresh document)
  | @linesUp task number ticket footing before ahead =>
      have well := attended.well task _ before
      apply attended.advance exclusive before (by simp) (by simp) _ (by simp)
      intro later equal
      cases equal
      have notInside : ¬ (footing = .cleared ∨ footing = .engaged) := by
        rcases ahead with outside | checking
        · simp [outside]
        · simp [checking]
      refine ⟨rfl, rfl, ?_⟩
      rw [List.append_nil]
      exact ⟨well.issued, well.unended, well.unrefused, fun inside => absurd inside notInside,
        fun inside => absurd (Or.inl inside) notInside, fun inside => absurd inside notInside⟩
  | @passes task number ticket before current =>
      have well := attended.well task _ before
      have newest := (booked.isCurrent_iff well.issued).mp current
      have leads := attended.leading_of_current booked before newest
      apply attended.advance exclusive before (by simp [Deed.pass?]) (by simp) _ (by simp)
      intro later equal
      cases equal
      refine ⟨rfl, rfl, ?issued, ?unended, ?unrefused, ?approved, ?cleared, ?leading⟩
      case issued =>
        rw [tickets_append]
        exact List.mem_append_left _ well.issued
      case unended =>
        intro outcome member
        exact well.unended outcome (by simpa using member)
      case unrefused =>
        intro member
        exact well.unrefused (by simpa using member)
      case approved => simp
      case cleared =>
        intro _
        exact ⟨deeds, [], rfl, by simp⟩
      case leading =>
        intro _
        exact leads.append (by simp)
  | yields before outdated =>
      exact attended.advance exclusive before (by simp [Deed.pass?]) (by simp) (by simp)
        fun _ => ⟨.superseded, by simp⟩
  | @works task stand footing before inside ahead stage actions =>
      apply attended.advance exclusive before (fun deed => stageDeeds_pass) _ _ (by simp)
      · intro number older result member
        exact absurd member (stageDeeds_inside.2 _)
      · intro later equal
        cases equal
        have notCleared : footing ≠ .cleared := by
          rcases ahead with engaged | checking
          · simp [engaged]
          · simp [checking]
        exact ⟨rfl, rfl, attended.standsWell_stage before inside stage actions footing notCleared⟩
  | @ends task stand outcome before inside stage actions ended =>
      apply attended.advance exclusive before _ _ (by simp) fun _ => ⟨outcome, by simp⟩
      · intro deed member
        rcases List.mem_append.mp member with early | last
        · exact stageDeeds_pass early
        · rw [List.mem_singleton.mp last]
          rfl
      · intro number older result _
        rcases inside with cleared | engaged
        · simp [cleared]
        · simp [engaged]

end Attended

/-! ## The law is kept -/

namespace Lawabiding

variable {deeds : List (Deed engine)} {books : Nat → Book} {stands : Nat → Option Stand}

theorem dids (lawabiding : Lawabiding deeds) {number : Nat} {ticket : Ticket}
    (approved : .checked number ticket true ∈ deeds)
    (unrefused : .checked number ticket false ∉ deeds) (actions : List (Action engine.Template)) :
    Lawabiding (deeds ++ actions.map (.did number ticket)) := by
  induction actions generalizing deeds with
  | nil => simpa using lawabiding
  | cons action rest induction =>
      have one := lawabiding.snoc (.did number ticket action) ⟨approved, unrefused⟩
      have more := induction one (List.mem_append_left _ approved) (by simpa using unrefused)
      simpa using more

theorem stage (lawabiding : Lawabiding deeds) {stand : Stand} (well : StandsWell deeds stand)
    (inside : stand.footing = .cleared ∨ stand.footing = .engaged) (stage : Stage)
    (actions : List (Action engine.Template)) :
    Lawabiding (deeds ++ stageDeeds stand stage actions) := by
  have approved := well.approved inside
  rw [stageDeeds, ← List.append_assoc]
  split
  · next isCleared =>
      have started := lawabiding.snoc (.started stand.number stand.ticket stage)
        ⟨well.cleared isCleared, well.unrefused⟩
      exact started.dids (List.mem_append_left _ approved) (by simpa using well.unrefused) actions
  · rw [List.append_nil]
    exact lawabiding.dids approved well.unrefused actions

theorem changed (lawabiding : Lawabiding deeds) (attended : Attended deeds stands)
    (booked : Booked deeds books) {new : List (Deed engine)} {nextBooks : Nat → Book}
    {nextStands : Nat → Option Stand} (change : Change books stands new nextBooks nextStands) :
    Lawabiding (deeds ++ new) := by
  have upwards : ∀ number document, ∀ older ∈ tickets deeds number,
      older.generation < ((books number).next document).generation := by
    intro number document older member
    have bound := booked.generation_le member
    simp only [Book.next]
    omega
  cases change with
  | unseen => simpa using lawabiding
  | handsOut number document => exact lawabiding.snoc _ (upwards number document)
  | registers before number document => exact lawabiding.snoc _ (upwards number document)
  | linesUp before ahead => simpa using lawabiding
  | passes before current =>
      have issued := (attended.well _ _ before).issued
      have newest := (booked.isCurrent_iff issued).mp current
      exact lawabiding.snoc _ ⟨issued, by simp [newest]⟩
  | @yields task number ticket before outdated =>
      have well := attended.well _ _ before
      have isOutdated : Outdated deeds number ticket := by
        by_contra newest
        rw [(booked.isCurrent_iff well.issued).mpr newest] at outdated
        cases outdated
      have refused := lawabiding.snoc (.checked number ticket false)
        ⟨well.issued, by simp [isOutdated]⟩
      have ended := refused.snoc (.ended number ticket .superseded)
        ⟨fun other member => well.unended other (by simpa using member), by simp, isOutdated.append _⟩
      simpa using ended
  | works before inside ahead stage actions =>
      exact lawabiding.stage (attended.well _ _ before) inside stage actions
  | @ends task stand outcome before inside stage actions ended =>
      have well := attended.well _ _ before
      have staged := attended.standsWell_stage before inside stage actions .engaged
        (by simp)
      rw [← List.append_assoc]
      apply (lawabiding.stage well inside stage actions).snoc _
      refine ⟨staged.unended, ?_⟩
      rcases ended with ⟨result, completed⟩ | ⟨broken, unsteady⟩
      · rw [completed]
        exact staged.leading (Or.inr rfl)
      · rw [broken]
        exact unsteady

end Lawabiding

/-- A pass that a check refuses has ended with it. -/
def Concluded (deeds : List (Deed engine)) : Prop :=
  ∀ number ticket, .checked number ticket false ∈ deeds → .ended number ticket .superseded ∈ deeds

theorem Concluded.changed {deeds new : List (Deed engine)} {books nextBooks : Nat → Book}
    {stands nextStands : Nat → Option Stand} (concluded : Concluded deeds)
    (change : Change books stands new nextBooks nextStands) : Concluded (deeds ++ new) := by
  intro number ticket member
  have fromNew : .checked number ticket false ∈ new → .ended number ticket .superseded ∈ new := by
    intro late
    cases change with
    | unseen => cases late
    | handsOut issuer document => simp at late
    | registers before issuer document => simp at late
    | linesUp before ahead => cases late
    | passes before current => simp at late
    | @yields task own ownTicket before outdated =>
        have same : number = own ∧ ticket = ownTicket := by simpa using late
        simp [same.1, same.2]
    | works before inside ahead stage actions => exact absurd late (stageDeeds_inside.1 false)
    | @ends task stand outcome before inside stage actions ended =>
        have inStage : .checked number ticket false ∈ stageDeeds stand stage actions := by
          simpa using late
        exact absurd inStage (stageDeeds_inside.1 false)
  rcases List.mem_append.mp member with early | late
  · exact List.mem_append_left _ (concluded number ticket early)
  · exact List.mem_append_right _ (fromNew late)

/-! ## Runs -/

/-- What the deeds so far and the pool have to do with each other. -/
structure Told (deeds : List (Deed engine)) (pool : Pool engine) : Prop where
  booked : Booked deeds pool.book
  attended : Attended deeds pool.stand
  lawabiding : Lawabiding deeds
  concluded : Concluded deeds
  orderly : Orderly pool.claim pool.lock

theorem Told.after {deeds : List (Deed engine)} {pool : Pool engine} (told : Told deeds pool)
    (move : Move) : Told (deeds ++ pool.deedsOf move) (pool.after move) where
  booked := told.booked.changed (change_after pool move)
  attended := told.attended.changed told.booked (exclusive_of_orderly told.orderly)
    (change_after pool move)
  lawabiding := told.lawabiding.changed told.attended told.booked (change_after pool move)
  concluded := told.concluded.changed (change_after pool move)
  orderly := orderly_after told.orderly move

theorem told_empty (engine : Engine) (files : FileSystem) (capacity : Nat) :
    Told [] (Pool.empty engine files capacity) where
  booked := by
    constructor
    · intro number
      simp [tickets, book, view, empty, Store.empty, Store.handle?]
    · intro number document
      simp [tickets, book, view, empty, Store.empty, Store.handle?, Book.newest?, Ordered.find?]
  attended := Attended.empty
  lawabiding := Lawabiding.nil
  concluded := by simp [Concluded]
  orderly := orderly_empty engine files capacity

theorem told_run (engine : Engine) (files : FileSystem) (capacity : Nat) (moves : List Move) :
    Told ((Pool.empty engine files capacity).deeds moves)
      ((Pool.empty engine files capacity).run moves) :=
  run_induction Told (told_empty engine files capacity) (fun _ _ move told => told.after move) moves

end TemplateCheck.Pool
