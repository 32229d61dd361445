import TemplateCheck.Proofs.Ordered
import TemplateCheck.Proofs.Pass.Steady
import TemplateCheck.Proofs.Pool.Locks

/-! # The way of a pass

Seen from here a pool is the books of its handles, in which tickets are numbered,
and the stands of its passes: which ticket a task has, and how far its pass has
come. A move of a pool changes books and stands in one of eight ways, and the
deeds of the move are those of the change.
-/

namespace TemplateCheck.Pool

open Function (update)
open Roots (Ticket Handle Store)

variable {engine : Engine}

/-! ## Books and stands -/

/-- What a handle knows of tickets. -/
structure Book where
  issued : Nat := 0
  latest : List (Uri × Nat) := []

namespace Book

def ofHandle (handle : Handle engine) : Book := ⟨handle.issued, handle.latest⟩

/-- The next ticket for a document. -/
def next (book : Book) (document : Uri) : Ticket := ⟨document, book.issued + 1⟩

/-- The book once that ticket was issued. -/
def enter (book : Book) (document : Uri) : Book where
  issued := book.issued + 1
  latest := Ordered.put Uri.compare document (book.issued + 1) book.latest

def newest? (book : Book) (document : Uri) : Option Nat :=
  Ordered.find? Uri.compare document book.latest

def isCurrent (book : Book) (ticket : Ticket) : Bool :=
  book.newest? ticket.document == some ticket.generation

theorem newest?_enter (book : Book) (document other : Uri) :
    (book.enter document).newest? other =
      if other.same document = true then some (book.issued + 1) else book.newest? other :=
  Uri.find?_put document other (book.issued + 1) book.latest

end Book

def book : Pool engine → Nat → Book := view Book.ofHandle {}

theorem isCurrent_eq_book (pool : Pool engine) (number : Nat) (ticket : Ticket) :
    pool.store.isCurrent number ticket = (pool.book number).isCurrent ticket := by
  cases known : pool.store.handle? number with
  | none => simp [Store.isCurrent, known, book, view, Book.isCurrent, Book.newest?, Ordered.find?]
  | some handle => simp [Store.isCurrent, known, book, view, Handle.isCurrent, Book.isCurrent,
      Book.newest?, Book.ofHandle]

/-- How far a pass has come: it has a ticket and waits for the registries, it is
about to check its ticket, the check has let it through to its next stage, or it
is in the middle of a stage. -/
inductive Footing where
  | outside
  | checking
  | cleared
  | engaged
  deriving DecidableEq

structure Stand where
  number : Nat
  ticket : Ticket
  footing : Footing

def Phase.footing : Phase → Footing
  | .check => .checking
  | .start => .cleared
  | .blocked => .engaged
  | .finish => .engaged

def Activity.stand? : Activity engine → Option Stand
  | .ticketed _ number ticket => some ⟨number, ticket, .outside⟩
  | .queued _ number ticket => some ⟨number, ticket, .outside⟩
  | .running pass => some ⟨pass.handle, pass.ticket, pass.phase.footing⟩
  | _ => none

def stand (pool : Pool engine) (task : Nat) : Option Stand :=
  (pool.activity? task).bind Activity.stand?

/-- The deeds of some work in a stage, with the start of the stage if the pass
was just let through to it. -/
def stageDeeds (stand : Stand) (stage : Stage) (actions : List (Action engine.Template)) :
    List (Deed engine) :=
  (if stand.footing = .cleared then [.started stand.number stand.ticket stage] else []) ++
    actions.map (.did stand.number stand.ticket)

/-- The ways in which moves change books and stands, with their deeds. -/
inductive Change (books : Nat → Book) (stands : Nat → Option Stand) :
    List (Deed engine) → (Nat → Book) → (Nat → Option Stand) → Prop
  | unseen : Change books stands [] books stands
  | handsOut (number : Nat) (document : Uri) :
      Change books stands [.issued none number ((books number).next document)]
        (update books number ((books number).enter document)) stands
  | registers {task : Nat} (before : stands task = none) (number : Nat) (document : Uri) :
      Change books stands [.issued (some task) number ((books number).next document)]
        (update books number ((books number).enter document))
        (update stands task (some ⟨number, (books number).next document, .outside⟩))
  | linesUp {task number : Nat} {ticket : Ticket} {footing : Footing}
      (before : stands task = some ⟨number, ticket, .outside⟩)
      (ahead : footing = .outside ∨ footing = .checking) :
      Change books stands [] books (update stands task (some ⟨number, ticket, footing⟩))
  | passes {task number : Nat} {ticket : Ticket}
      (before : stands task = some ⟨number, ticket, .checking⟩)
      (current : (books number).isCurrent ticket = true) :
      Change books stands [.checked number ticket true] books
        (update stands task (some ⟨number, ticket, .cleared⟩))
  | yields {task number : Nat} {ticket : Ticket}
      (before : stands task = some ⟨number, ticket, .checking⟩)
      (outdated : (books number).isCurrent ticket = false) :
      Change books stands
        [.checked number ticket false, .ended number ticket .superseded] books
        (update stands task none)
  | works {task : Nat} {stand : Stand} {footing : Footing} (before : stands task = some stand)
      (inside : stand.footing = .cleared ∨ stand.footing = .engaged)
      (ahead : footing = .engaged ∨ footing = .checking) (stage : Stage)
      (actions : List (Action engine.Template)) :
      Change books stands (stageDeeds stand stage actions) books
        (update stands task (some { stand with footing }))
  | ends {task : Nat} {stand : Stand} {outcome : Outcome} (before : stands task = some stand)
      (inside : stand.footing = .cleared ∨ stand.footing = .engaged) (stage : Stage)
      (actions : List (Action engine.Template))
      (ended : (∃ result, outcome = .completed result) ∨ (outcome = .broken ∧ ¬ engine.Steady)) :
      Change books stands
        (stageDeeds stand stage actions ++ [.ended stand.number stand.ticket outcome]) books
        (update stands task none)

/-! ## Every move is such a change -/

theorem stand_place {pool next : Pool engine} {task : Nat} {old : Task engine}
    (found : pool.tasks[task]? = some old) (sameTasks : next.tasks = pool.tasks)
    (new : Task engine) :
    (next.place task new).stand = update pool.stand task new.activity.stand? := by
  have inRange : task < pool.tasks.length := (List.getElem?_eq_some_iff.mp found).1
  funext other
  by_cases same : other = task
  · subst same
    simp [stand, activity?, place, sameTasks, inRange]
  · have different : task ≠ other := fun equal => same equal.symm
    simp [stand, activity?, place, sameTasks, Function.update_of_ne same, different]

theorem stand_of_found {pool : Pool engine} {task : Nat} {current : Task engine}
    (found : pool.tasks[task]? = some current) : pool.stand task = current.activity.stand? := by
  simp [stand, activity?, found]

theorem stand_place_same {pool next : Pool engine} {task : Nat} {old new : Task engine}
    (found : pool.tasks[task]? = some old) (sameTasks : next.tasks = pool.tasks)
    (sameStand : new.activity.stand? = old.activity.stand?) :
    (next.place task new).stand = pool.stand := by
  rw [stand_place found sameTasks, sameStand, ← stand_of_found found, Function.update_eq_self]

theorem book_unlock (pool : Pool engine) (number : Nat) : (pool.unlock number).book = pool.book := by
  apply view_change_same pool rfl
  intro handle known
  unfold Handle.release
  split
  · rfl
  · rfl

theorem book_worked (pool : Pool engine) (task number : Nat) (work : Pass.Work engine) :
    (pool.worked task number work).book = pool.book :=
  view_change_same pool rfl fun _ _ => rfl

theorem book_of_known {pool : Pool engine} {number : Nat} {handle : Handle engine}
    (known : pool.store.handle? number = some handle) :
    pool.book number = Book.ofHandle handle :=
  view_of_known pool known

theorem HalfStage.phase {files : FileSystem} {context : Pass.Context} {work result : Pass.Work engine}
    {stage : Stage} {phase : Phase} {verdict : Option Verdict}
    (half : HalfStage files context work stage phase result verdict) :
    phase.footing = .cleared ∨ phase.footing = .engaged := by
  cases half with
  | decided equal => exact Or.inl rfl
  | waiting equal => exact Or.inl rfl
  | finished equal => exact Or.inr rfl

theorem HalfStage.ne_broken {files : FileSystem} {context : Pass.Context}
    {work result : Pass.Work engine} {stage : Stage} {phase : Phase}
    (half : HalfStage files context work stage phase result (some .broken)) :
    ¬ engine.Steady := by
  intro steady
  cases half with
  | decided equal =>
      exact Pass.start_ne_broken files context steady work stage (congrArg Prod.snd equal)
  | finished equal =>
      exact Pass.finish_ne_broken files context steady work stage (congrArg Prod.snd equal)

theorem outcomeOf_cases {files : FileSystem} {context : Pass.Context}
    {work result : Pass.Work engine} {stage : Stage} {phase : Phase} {verdict : Verdict}
    (half : HalfStage files context work stage phase result (some verdict))
    (pass : Running engine) (report : Report) :
    (∃ completed, outcomeOf pass stage report verdict = .completed completed) ∨
      (outcomeOf pass stage report verdict = .broken ∧ ¬ engine.Steady) := by
  cases verdict with
  | passed => exact Or.inl ⟨_, rfl⟩
  | failed => exact Or.inl ⟨_, rfl⟩
  | aborted => exact Or.inl ⟨_, rfl⟩
  | broken => exact Or.inr ⟨rfl, half.ne_broken⟩

theorem workDeeds_eq_stageDeeds {pass : Running engine} {stage : Stage} {work : Pass.Work engine}
    (inside : pass.phase.footing = .cleared ∨ pass.phase.footing = .engaged) :
    workDeeds pass stage work =
      stageDeeds ⟨pass.handle, pass.ticket, pass.phase.footing⟩ stage work.actions := by
  cases phase : pass.phase with
  | check => simp [phase, Phase.footing] at inside
  | start => simp [workDeeds, stageDeeds, phase, Phase.footing]
  | blocked => simp [workDeeds, stageDeeds, phase, Phase.footing]
  | finish => simp [workDeeds, stageDeeds, phase, Phase.footing]

private theorem change_of_eq {pool next : Pool engine} {deeds : List (Deed engine)}
    {books : Nat → Book} {stands : Nat → Option Stand} (sameBooks : next.book = books)
    (sameStands : next.stand = stands) (change : Change pool.book pool.stand deeds books stands) :
    Change pool.book pool.stand deeds next.book next.stand := by
  rw [sameBooks, sameStands]
  exact change

theorem Turn.change {pool next : Pool engine} {task : Nat} {deeds : List (Deed engine)}
    (turn : Turn pool task deeds next) : Change pool.book pool.stand deeds next.book next.stand := by
  cases turn with
  | halts stuck => exact .unseen
  | takesUp found => exact change_of_eq rfl (stand_place_same found rfl rfl) .unseen
  | evicts found => exact change_of_eq rfl (stand_place_same found rfl rfl) .unseen
  | turnsBack found arrived => exact change_of_eq rfl (stand_place_same found rfl rfl) .unseen
  | arrives found arrived => exact change_of_eq rfl (stand_place_same found rfl rfl) .unseen
  | enters found =>
      exact change_of_eq (view_request pool _ _ rfl)
        (stand_place_same found (request_tasks _ _ _) rfl) .unseen
  | @registers context jobs number handle found known =>
      have before := book_of_known known
      refine change_of_eq (view_change pool known rfl) (stand_place found rfl _) ?_
      have change := @Change.registers engine pool.book _ task (stand_of_found found) number
        context.document.uri
      rw [before] at change
      exact change
  | locks found known isFree =>
      refine change_of_eq (view_replace_same pool known rfl rfl)
        (stand_place found rfl _) ?_
      exact .linesUp (stand_of_found found) (Or.inr rfl)
  | queues found known owned =>
      refine change_of_eq (view_replace_same pool known rfl rfl)
        (stand_place found rfl _) ?_
      exact .linesUp (stand_of_found found) (Or.inl rfl)
  | resumes found known owned =>
      exact change_of_eq rfl (stand_place found rfl _)
        (.linesUp (stand_of_found found) (Or.inr rfl))
  | @passes pass jobs handle found known phase current =>
      have before := stand_of_found found
      simp only [Activity.stand?, phase, Phase.footing] at before
      refine change_of_eq rfl (stand_place found rfl _) (.passes before ?_)
      rw [book_of_known known]
      exact current
  | yields found known phase outdated =>
      have before := stand_of_found found
      simp only [Activity.stand?, phase, Phase.footing] at before
      refine change_of_eq (book_unlock pool _) (stand_place found rfl _) (.yields before ?_)
      rw [book_of_known known]
      exact outdated
  | @waits pass jobs handle stage rest work armed events phase found known remaining half reached =>
      have ahead : phase.footing = .engaged ∨ phase.footing = .checking := by
        cases reached with
        | free => exact Or.inl rfl
        | held armed => exact Or.inl rfl
      rw [workDeeds_eq_stageDeeds half.phase]
      exact change_of_eq (book_worked pool task _ _) (stand_place found rfl _)
        (.works (stand_of_found found) half.phase ahead stage _)
  | @proceeds pass jobs handle stage rest work found known remaining half more =>
      rw [workDeeds_eq_stageDeeds half.phase]
      exact change_of_eq (book_worked pool task _ _) (stand_place found rfl _)
        (.works (stand_of_found found) half.phase (Or.inr rfl) stage _)
  | @ends pass jobs handle stage rest work verdict found known remaining half last =>
      rw [workDeeds_eq_stageDeeds half.phase]
      exact change_of_eq ((book_unlock _ _).trans (book_worked pool task _ _))
        (stand_place found rfl _)
        (.ends (stand_of_found found) half.phase stage _ (outcomeOf_cases half pass work.report))
  | departs found => exact change_of_eq rfl (stand_place_same found rfl rfl) .unseen
  | delivers found => exact change_of_eq rfl (stand_place_same found rfl rfl) .unseen

theorem stand_spawn (pool : Pool engine) (jobs : List Job) : (pool.spawn jobs).stand = pool.stand := by
  funext task
  simp only [stand, activity?, spawn, List.getElem?_append]
  split
  · rfl
  · next outside =>
      cases position : task - pool.tasks.length with
      | zero => simp [List.getElem?_eq_none (Nat.le_of_not_lt outside), Activity.stand?]
      | succ index => simp [List.getElem?_eq_none (Nat.le_of_not_lt outside)]

theorem stand_release (pool : Pool engine) : pool.release.stand = pool.stand := by
  have sameStand : ∀ activity : Activity engine, activity.unblock.stand? = activity.stand? := by
    intro activity
    cases activity with
    | running pass =>
        simp only [Activity.unblock]
        split
        · next blocked => simp [Activity.stand?, blocked, Phase.footing]
        · rfl
    | _ => rfl
  funext task
  simp only [stand, activity?, release, List.getElem?_map, Option.map_map]
  cases pool.tasks[task]? with
  | none => rfl
  | some current => exact sameStand current.activity

theorem change_requestTicket (pool : Pool engine) (root : Path) (document : Uri) :
    Change pool.book pool.stand (pool.deedsOf (.ticket root document))
      (pool.requestTicket root document).1.book (pool.requestTicket root document).1.stand := by
  have sameBooks : (pool.request none root).1.book = pool.book := view_request pool none root rfl
  have sameStands : (pool.requestTicket root document).1.stand = pool.stand := by
    funext task
    simp [requestTicket, stand, activity?]
  have entered : (pool.requestTicket root document).1.store =
      (pool.request none root).1.store.change (pool.request none root).2
        fun handle => (handle.issue document).1 :=
    issue_store (pool.request none root).1.store _ document
  cases known : (pool.request none root).1.store.handle? (pool.request none root).2 with
  | none =>
      have quiet : pool.deedsOf (.ticket root document) = [] := by
        simp [deedsOf, Store.issue, known]
      have unchanged : (pool.requestTicket root document).1.book = pool.book := by
        refine (view_change_same _ entered fun handle found => ?_).trans sameBooks
        rw [known] at found
        cases found
      rw [quiet]
      exact change_of_eq unchanged sameStands .unseen
  | some handle =>
      have before := book_of_known known
      rw [sameBooks] at before
      have issued : pool.deedsOf (.ticket root document) =
          [.issued none (pool.request none root).2
            ((pool.book (pool.request none root).2).next document)] := by
        simp [deedsOf, Store.issue, known, before, Book.next, Book.ofHandle, Handle.issue]
      have changed : (pool.requestTicket root document).1.book =
          update pool.book (pool.request none root).2
            ((pool.book (pool.request none root).2).enter document) := by
        rw [before, ← sameBooks]
        exact view_change _ known entered
      rw [issued]
      exact change_of_eq changed sameStands (.handsOut _ _)

theorem change_after (pool : Pool engine) (move : Move) :
    Change pool.book pool.stand (pool.deedsOf move) (pool.after move).book
      (pool.after move).stand := by
  cases move with
  | spawn jobs => exact change_of_eq rfl (stand_spawn pool jobs) .unseen
  | step task => exact (turn_step pool task).change
  | evict root => exact .unseen
  | evictUnder folder => exact .unseen
  | ticket root document => exact change_requestTicket pool root document
  | arm point =>
      simp only [after, arm]
      split
      · exact .unseen
      · exact .unseen
  | release => exact change_of_eq rfl (stand_release pool) .unseen
  | change files => exact .unseen

/-- A pass with the registries is one that uses them. -/
theorem claim_of_stand {pool : Pool engine} {task : Nat} {stand : Stand}
    (stands : pool.stand task = some stand) (inside : stand.footing ≠ .outside) :
    pool.claim task = .uses stand.number := by
  rcases Option.bind_eq_some_iff.mp stands with ⟨activity, found, seen⟩
  simp only [claim, found, Option.map_some, Option.getD_some]
  cases activity with
  | ticketed context number ticket =>
      cases seen
      exact absurd rfl inside
  | queued context number ticket =>
      cases seen
      exact absurd rfl inside
  | running pass =>
      cases seen
      rfl
  | _ => cases seen

end TemplateCheck.Pool
