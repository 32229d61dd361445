import TemplateCheck.Proofs.Pool.Law
import TemplateCheck.Proofs.Pool.Progress

/-! # Newer passes supersede older ones

Passes of any documents share a root in any order of their steps. A pass gives
way only to a later ticket of its document, so the one with the newest ticket
runs to its end; those that complete do so in the order of their tickets; every
stage starts after a check made before a later ticket was out; and the tickets of
other documents do not matter.
-/

namespace TemplateCheck.Pool

open Function (update)
open Roots (Ticket Handle Store)

variable {engine : Engine}

/-- Two places in one list: the first element comes before the second place, or
they are one place, or the second element comes before the first place. -/
theorem places_compare {item : Type} {left right left' right' : List item} {first second : item}
    (equal : left ++ first :: right = left' ++ second :: right') :
    first ∈ left' ∨ (left = left' ∧ first = second) ∨ ∃ rest, left = left' ++ second :: rest := by
  rcases List.append_eq_append_iff.mp equal with ⟨gap, later, split⟩ | ⟨gap, later, split⟩
  · cases gap with
    | nil =>
        rcases List.cons.inj split with ⟨same, _⟩
        exact Or.inr (Or.inl ⟨by simpa using later.symm, same⟩)
    | cons head tail =>
        rcases List.cons.inj split with ⟨same, _⟩
        exact Or.inl (by simp [later, same])
  · cases gap with
    | nil =>
        rcases List.cons.inj split with ⟨same, _⟩
        exact Or.inr (Or.inl ⟨by simpa using later, same.symm⟩)
    | cons head tail =>
        rcases List.cons.inj split with ⟨same, _⟩
        exact Or.inr (Or.inr ⟨tail, by rw [later, same]⟩)

/-- Only tickets of its own document change whether a ticket is current. -/
theorem Change.isCurrent {books nextBooks : Nat → Book} {stands nextStands : Nat → Option Stand}
    {deeds : List (Deed engine)} (change : Change books stands deeds nextBooks nextStands)
    {number : Nat} {ticket : Ticket}
    (others : ∀ asker newer, .issued asker number newer ∈ deeds →
      newer.document.same ticket.document = false) :
    (nextBooks number).isCurrent ticket = (books number).isCurrent ticket := by
  have entered : ∀ (asker : Option Nat) (issuer : Nat) (document : Uri),
      (∀ asker newer, .issued asker number newer ∈
        [(.issued asker issuer ((books issuer).next document) : Deed engine)] →
        newer.document.same ticket.document = false) →
      (update books issuer ((books issuer).enter document) number).isCurrent ticket =
        (books number).isCurrent ticket := by
    intro asker issuer document others
    by_cases same : number = issuer
    · subst same
      have apart := others asker _ List.mem_cons_self
      simp only [Book.next] at apart
      rw [Uri.same_comm] at apart
      simp [Function.update_self, Book.isCurrent, Book.newest?_enter, apart]
    · rw [Function.update_of_ne same]
  cases change with
  | unseen => rfl
  | handsOut issuer document =>
      apply entered none issuer document
      intro asker newer member
      exact others none newer (by simpa using member)
  | @registers task before issuer document =>
      apply entered (some task) issuer document
      intro asker newer member
      exact others (some task) newer (by simpa using member)
  | linesUp before ahead => rfl
  | passes before current => rfl
  | yields before outdated => rfl
  | works before inside ahead stage actions => rfl
  | ends before inside stage actions ended => rfl

namespace Lawabiding

variable {deeds past future : List (Deed engine)} {number : Nat} {ticket : Ticket}

theorem outcome_of_newest (lawabiding : Lawabiding deeds) {outcome : Outcome}
    (split : deeds = past ++ .ended number ticket outcome :: future)
    (newest : ¬ Outdated past number ticket) :
    (∃ result, outcome = .completed result) ∨ (outcome = .broken ∧ ¬ engine.Steady) := by
  have lawful := (lawabiding past _ future split).2
  cases outcome with
  | completed result => exact Or.inl ⟨result, rfl⟩
  | superseded => exact absurd lawful.2 newest
  | notAFile uri => exact lawful.elim
  | broken => exact Or.inr ⟨rfl, lawful⟩

/-- A stage starts after a check of its own, made before a later ticket was out. -/
theorem check_of_started (lawabiding : Lawabiding deeds) {stage : Stage}
    (split : deeds = past ++ .started number ticket stage :: future) :
    ∃ before since, past = before ++ .checked number ticket true :: since ∧
      (∀ deed ∈ since, deed.pass? ≠ some (number, ticket)) ∧ ¬ Outdated before number ticket := by
  rcases (lawabiding past _ future split).1 with ⟨before, since, checked, quiet⟩
  have splitCheck : deeds = before ++ .checked number ticket true ::
      (since ++ .started number ticket stage :: future) := by
    rw [split, checked]
    simp
  have lawful := lawabiding before _ _ splitCheck
  exact ⟨before, since, checked, quiet, lawful.2.mp rfl⟩

/-- What needs the leave of a check is not done before the first check, nor after
one that refused. -/
theorem untouched_of_refused (lawabiding : Lawabiding deeds)
    (split : deeds = past ++ .checked number ticket false :: future)
    (isFirst : ∀ other, .checked number ticket other ∉ past) {deed : Deed engine}
    (differs : deed ≠ .checked number ticket false)
    (needs : ∀ earlier, Lawful earlier deed →
      .checked number ticket true ∈ earlier ∧ .checked number ticket false ∉ earlier) :
    deed ∉ deeds := by
  intro member
  rcases List.append_of_mem member with ⟨earlier, later, splitDeed⟩
  rcases needs earlier (lawabiding earlier deed later splitDeed) with ⟨approved, unrefused⟩
  rcases places_compare (split.symm.trans splitDeed) with refused | ⟨_, same⟩ | ⟨rest, before⟩
  · exact unrefused refused
  · exact differs same.symm
  · apply isFirst true
    rw [before]
    exact List.mem_append_left _ approved

theorem not_worked_of_refused (lawabiding : Lawabiding deeds) {isCurrent : Bool}
    (split : deeds = past ++ .checked number ticket isCurrent :: future)
    (isFirst : ∀ other, .checked number ticket other ∉ past)
    (outdated : Outdated past number ticket) :
    isCurrent = false ∧ (∀ stage, .started number ticket stage ∉ deeds) ∧
      ∀ action, .did number ticket action ∉ deeds := by
  have lawful := lawabiding past _ future split
  have refused : isCurrent = false := by
    cases isCurrent with
    | false => rfl
    | true => exact absurd outdated (lawful.2.mp rfl)
  subst refused
  refine ⟨rfl, ?_, ?_⟩
  · intro stage
    apply lawabiding.untouched_of_refused split isFirst (by simp)
    rintro earlier ⟨⟨before, since, checked, _⟩, unrefused⟩
    exact ⟨by simp [checked], unrefused⟩
  · intro action
    exact lawabiding.untouched_of_refused split isFirst (by simp) fun earlier approved => approved

end Lawabiding

/-- At rest every pass has ended, and the one with the newest ticket has not been
superseded. -/
theorem AtRest.newest_ended {deeds : List (Deed engine)} {pool : Pool engine} (rest : pool.AtRest)
    (told : Told deeds pool) {task number : Nat} {ticket : Ticket}
    (issued : .issued (some task) number ticket ∈ deeds)
    (newest : ¬ Outdated deeds number ticket) :
    (∃ result, .ended number ticket (.completed result) ∈ deeds) ∨
      (.ended number ticket .broken ∈ deeds ∧ ¬ engine.Steady) := by
  have noStand : pool.stand task = none := by
    rcases found : pool.tasks[task]? with _ | current
    · simp [stand, activity?, found]
    · rw [stand_of_found found, rest.done told.orderly found]
      rfl
  rcases told.attended.kept task number ticket issued with ⟨footing, stands⟩ | ⟨outcome, ended⟩
  · rw [noStand] at stands
    cases stands
  · rcases List.append_of_mem ended with ⟨past, future, split⟩
    have newestThen : ¬ Outdated past number ticket := by
      intro outdated
      apply newest
      rw [split]
      exact outdated.append _
    rcases told.lawabiding.outcome_of_newest split newestThen with
      ⟨result, completed⟩ | ⟨broken, unsteady⟩
    · exact Or.inl ⟨result, completed ▸ ended⟩
    · exact Or.inr ⟨broken ▸ ended, unsteady⟩

/-- What tickets do for the passes of a run, told by its deeds and the pool that
it has reached. -/
structure Supersession (deeds : List (Deed engine)) (pool : Pool engine) : Prop where
  numbered : ∀ first middle last early late number older newer,
    deeds = first ++ .issued early number older ::
      (middle ++ .issued late number newer :: last) →
    older.generation < newer.generation
  superseded : ∀ past future number ticket,
    deeds = past ++ .ended number ticket .superseded :: future → Outdated past number ticket
  newest : ∀ past future number ticket outcome,
    deeds = past ++ .ended number ticket outcome :: future → ¬ Outdated past number ticket →
    (∃ result, outcome = .completed result) ∨ (outcome = .broken ∧ ¬ engine.Steady)
  /-- Without new jobs only so many steps are left. -/
  bounded : ∀ moves, pool.Works moves → moves.countP Move.isStep ≤ pool.labour
  /-- When no step is left, passes with newest tickets have run to their end. -/
  finished : pool.AtRest → ∀ task number ticket, .issued (some task) number ticket ∈ deeds →
    ¬ Outdated deeds number ticket →
    (∃ result, .ended number ticket (.completed result) ∈ deeds) ∨
      (.ended number ticket .broken ∈ deeds ∧ ¬ engine.Steady)
  completed : ∀ first middle last number older newer early late,
    deeds = first ++ .ended number older (.completed early) ::
      (middle ++ .ended number newer (.completed late) :: last) →
    older.document.same newer.document = true → older.generation < newer.generation
  checked : ∀ past future number ticket stage,
    deeds = past ++ .started number ticket stage :: future →
    ∃ before since, past = before ++ .checked number ticket true :: since ∧
      (∀ deed ∈ since, deed.pass? ≠ some (number, ticket)) ∧ ¬ Outdated before number ticket
  refused : ∀ past future number ticket isCurrent,
    deeds = past ++ .checked number ticket isCurrent :: future →
    (∀ other, .checked number ticket other ∉ past) → Outdated past number ticket →
    isCurrent = false ∧ (∀ stage, .started number ticket stage ∉ deeds) ∧
      ∀ action, .did number ticket action ∉ deeds
  unaffected : ∀ move number ticket,
    (∀ asker newer, .issued asker number newer ∈ pool.deedsOf move →
      newer.document.same ticket.document = false) →
    (pool.after move).store.isCurrent number ticket = pool.store.isCurrent number ticket

theorem supersession_run (engine : Engine) (files : FileSystem) (capacity : Nat)
    (moves : List Move) :
    Supersession ((Pool.empty engine files capacity).deeds moves)
      ((Pool.empty engine files capacity).run moves) := by
  have told := told_run engine files capacity moves
  have tidy := tidy_run engine files capacity moves
  have supplied := supplied_run engine files capacity moves
  have lawabiding := told.lawabiding
  constructor
  case numbered =>
    intro first middle last early late number older newer split
    have lawful := lawabiding (first ++ .issued early number older :: middle)
      (.issued late number newer) last (split.trans (by simp))
    exact lawful older (mem_tickets.mpr ⟨early, by simp⟩)
  case superseded =>
    intro past future number ticket split
    exact (lawabiding past _ future split).2.2
  case newest =>
    intro past future number ticket outcome split
    exact lawabiding.outcome_of_newest split
  case bounded =>
    intro more works
    exact steps_le_labour tidy supplied works
  case finished =>
    intro rest task number ticket issued newest
    exact rest.newest_ended told issued newest
  case completed =>
    intro first middle last number older newer early late split same
    have lawful := lawabiding (first ++ .ended number older (.completed early) :: middle)
      (.ended number newer (.completed late)) last (split.trans (by simp))
    exact lawful.2 older early (by simp) same
  case checked =>
    intro past future number ticket stage split
    exact lawabiding.check_of_started split
  case refused =>
    intro past future number ticket isCurrent split isFirst outdated
    exact lawabiding.not_worked_of_refused split isFirst outdated
  case unaffected =>
    intro move number ticket others
    rw [isCurrent_eq_book, isCurrent_eq_book]
    exact (change_after _ move).isCurrent others

end TemplateCheck.Pool
