import Mathlib.Data.List.Nodup
import Mathlib.Data.List.Range
import TemplateCheck.Proofs.Pool.Passes

/-! # Tickets and books

The deeds of a run tell which tickets were issued at every handle, in their
order. The books of a pool agree with the deeds, so a ticket is current exactly
as long as no later one was issued for its document.
-/

namespace TemplateCheck.Pool

open Function (update)
open Roots (Ticket Handle Store)

variable {engine : Engine}

/-- The tickets issued at a handle, in their order. -/
def tickets (deeds : List (Deed engine)) (number : Nat) : List Ticket :=
  deeds.filterMap fun
    | .issued _ other ticket => if other = number then some ticket else none
    | _ => none

/-- A later ticket was issued for the same document. -/
def Outdated (deeds : List (Deed engine)) (number : Nat) (ticket : Ticket) : Prop :=
  ∃ newer ∈ tickets deeds number,
    newer.document.same ticket.document = true ∧ ticket.generation < newer.generation

@[simp] theorem tickets_append (deeds more : List (Deed engine)) (number : Nat) :
    tickets (deeds ++ more) number = tickets deeds number ++ tickets more number :=
  List.filterMap_append

theorem mem_tickets {deeds : List (Deed engine)} {number : Nat} {ticket : Ticket} :
    ticket ∈ tickets deeds number ↔ ∃ asker, .issued asker number ticket ∈ deeds := by
  simp only [tickets, List.mem_filterMap]
  constructor
  · rintro ⟨deed, member, equal⟩
    cases deed with
    | issued asker other issued =>
        by_cases same : other = number
        · subst same
          have sameTicket : issued = ticket := by simpa using equal
          exact ⟨asker, sameTicket ▸ member⟩
        · simp [same] at equal
    | _ => cases equal
  · rintro ⟨asker, member⟩
    exact ⟨.issued asker number ticket, member, by simp⟩

@[simp] theorem tickets_issued (asker : Option Nat) (number other : Nat) (ticket : Ticket) :
    tickets [(.issued asker number ticket : Deed engine)] other =
      if number = other then [ticket] else [] := by
  by_cases same : number = other
  · simp [tickets, same]
  · simp [tickets, same]

@[simp] theorem tickets_stageDeeds (stand : Stand) (stage : Stage)
    (actions : List (Action engine.Template)) (number : Nat) :
    tickets (stageDeeds stand stage actions) number = [] := by
  have quiet : tickets (actions.map (Deed.did stand.number stand.ticket) : List (Deed engine))
      number = [] := by
    simp [tickets]
  simp only [stageDeeds, tickets_append, quiet, List.append_nil]
  split
  · rfl
  · rfl

theorem Outdated.append {deeds : List (Deed engine)} {number : Nat} {ticket : Ticket}
    (outdated : Outdated deeds number ticket) (more : List (Deed engine)) :
    Outdated (deeds ++ more) number ticket := by
  rcases outdated with ⟨newer, member, same, later⟩
  refine ⟨newer, ?_, same, later⟩
  rw [tickets_append]
  exact List.mem_append_left _ member

/-- Books that agree with the deeds. -/
structure Booked (deeds : List (Deed engine)) (books : Nat → Book) : Prop where
  numbered : ∀ number,
    (tickets deeds number).map Ticket.generation = List.range' 1 (books number).issued
  newest : ∀ number document,
    (books number).newest? document =
      ((tickets deeds number).filter fun ticket => ticket.document.same document).getLast?.map
        Ticket.generation

namespace Booked

variable {deeds : List (Deed engine)} {books : Nat → Book} {number : Nat}

theorem increasing (booked : Booked deeds books) (number : Nat) :
    (tickets deeds number).Pairwise fun older newer => older.generation < newer.generation := by
  have numbers : ((tickets deeds number).map Ticket.generation).Pairwise (· < ·) := by
    rw [booked.numbered number]
    exact List.pairwise_lt_range'
  exact List.pairwise_map.mp numbers

theorem generation_le (booked : Booked deeds books) {ticket : Ticket}
    (member : ticket ∈ tickets deeds number) : ticket.generation ≤ (books number).issued := by
  have inRange : ticket.generation ∈ List.range' 1 (books number).issued := by
    rw [← booked.numbered number]
    exact List.mem_map_of_mem member
  have bounds := List.mem_range'_1.mp inRange
  omega

/-- The next ticket is none of those issued so far. -/
theorem next_fresh (booked : Booked deeds books) (document : Uri) :
    (books number).next document ∉ tickets deeds number := by
  intro member
  have bound := booked.generation_le member
  simp only [Book.next] at bound
  omega

theorem eq_of_generation (booked : Booked deeds books) {left right : Ticket}
    (leftMember : left ∈ tickets deeds number) (rightMember : right ∈ tickets deeds number)
    (same : left.generation = right.generation) : left = right := by
  have once : ((tickets deeds number).map Ticket.generation).Nodup := by
    rw [booked.numbered number]
    exact List.nodup_range'
  exact List.inj_on_of_nodup_map once leftMember rightMember same

theorem isCurrent_iff (booked : Booked deeds books) {ticket : Ticket}
    (member : ticket ∈ tickets deeds number) :
    (books number).isCurrent ticket = true ↔ ¬ Outdated deeds number ticket := by
  have ordered := (booked.increasing number).sublist
    (List.filter_sublist (p := fun other => other.document.same ticket.document))
  have listed : ticket ∈ (tickets deeds number).filter
      fun other => other.document.same ticket.document :=
    List.mem_filter.mpr ⟨member, Uri.same_refl _⟩
  have ownDocument : ∀ newer, newer ∈ (tickets deeds number).filter
      (fun other => other.document.same ticket.document) ↔
      newer ∈ tickets deeds number ∧ newer.document.same ticket.document = true := by
    intro newer
    exact List.mem_filter
  simp only [Book.isCurrent, booked.newest number ticket.document, beq_iff_eq]
  generalize (tickets deeds number).filter
    (fun other => other.document.same ticket.document) = own at ordered listed ownDocument
  rcases List.eq_nil_or_concat own with empty | ⟨front, last, split⟩
  · rw [empty] at listed
    cases listed
  · rw [List.concat_eq_append] at split
    have newestLast : ∀ other ∈ own, other.generation ≤ last.generation := by
      intro other otherMember
      rw [split] at ordered otherMember
      rcases List.mem_append.mp otherMember with early | isLast
      · exact Nat.le_of_lt ((List.pairwise_append.mp ordered).2.2 other early last (by simp))
      · rw [List.mem_singleton.mp isLast]
    have lastMember : last ∈ own := by simp [split]
    rw [split, List.getLast?_concat, Option.map_some, Option.some.injEq]
    constructor
    · rintro equal ⟨newer, newerMember, same, later⟩
      have bound := newestLast newer ((ownDocument newer).mpr ⟨newerMember, same⟩)
      omega
    · intro current
      have bound := newestLast ticket listed
      have notLater : ¬ ticket.generation < last.generation := by
        intro later
        rcases (ownDocument last).mp lastMember with ⟨issued, same⟩
        exact current ⟨last, issued, same, later⟩
      omega

/-- Deeds that issue nothing leave the books in order. -/
theorem quiet (booked : Booked deeds books) {more : List (Deed engine)}
    (none : ∀ number, tickets more number = []) : Booked (deeds ++ more) books where
  numbered := by
    intro number
    rw [tickets_append, none, List.append_nil]
    exact booked.numbered number
  newest := by
    intro number document
    rw [tickets_append, none, List.append_nil]
    exact booked.newest number document

theorem issues (booked : Booked deeds books) (asker : Option Nat) (number : Nat) (document : Uri) :
    Booked (deeds ++ [.issued asker number ((books number).next document)])
      (update books number ((books number).enter document)) where
  numbered := by
    intro other
    by_cases same : other = number
    · subst same
      simp [booked.numbered other, Book.enter, Book.next, List.range'_concat, Nat.add_comm]
    · have different : number ≠ other := fun equal => same equal.symm
      simp [booked.numbered other, Function.update_of_ne same, different]
  newest := by
    intro other asked
    by_cases same : other = number
    · subst same
      rw [Function.update_self, Book.newest?_enter, booked.newest other asked]
      cases isAsked : asked.same document with
      | true =>
          have own : document.same asked = true := Uri.same_symm isAsked
          simp [own, Book.next]
      | false =>
          have apart : document.same asked = false := by rw [Uri.same_comm]; exact isAsked
          simp [apart, Book.next]
    · have different : number ≠ other := fun equal => same equal.symm
      rw [Function.update_of_ne same, booked.newest other asked]
      simp [different]

theorem changed {stands nextStands : Nat → Option Stand} {nextBooks : Nat → Book}
    {new : List (Deed engine)} (booked : Booked deeds books)
    (change : Change books stands new nextBooks nextStands) : Booked (deeds ++ new) nextBooks := by
  cases change with
  | unseen => exact booked.quiet fun _ => rfl
  | handsOut number document => exact booked.issues none number document
  | @registers task before number document => exact booked.issues (some task) number document
  | linesUp before ahead => exact booked.quiet fun _ => rfl
  | passes before current => exact booked.quiet fun _ => rfl
  | yields before outdated => exact booked.quiet fun _ => rfl
  | works before inside ahead stage actions =>
      exact booked.quiet (tickets_stageDeeds _ stage actions)
  | ends before inside stage actions ended =>
      apply booked.quiet
      intro number
      rw [tickets_append, tickets_stageDeeds]
      rfl

end Booked

end TemplateCheck.Pool
