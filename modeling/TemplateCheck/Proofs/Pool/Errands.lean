import TemplateCheck.Proofs.Pool.Law

/-! # Tasks with one document

A task that is started to check one document takes at most one ticket and
delivers one outcome, that of its own document. Its ticket tells how the pass
ended: what it delivers is the outcome with which the pass left its root, or one
that it met before it had found a root.
-/

namespace TemplateCheck

theorem Pass.arrive_document {files : FileSystem} {checker : Checker} {document : Document}
    {context : Context} (arrived : arrive files checker document = .ok context) :
    context.document = document := by
  unfold arrive at arrived
  split at arrived
  · cases arrived
  · split at arrived
    · cases arrived
    · cases arrived
      rfl

namespace Pool

open Roots (Ticket Handle Store)

variable {engine : Engine}

/-- The tickets that a task has taken. -/
def issuedTo (deeds : List (Deed engine)) (task : Nat) : List (Nat × Ticket) :=
  deeds.filterMap fun
    | .issued (some asker) number ticket => if asker = task then some (number, ticket) else none
    | _ => none

def deliveriesOf (pool : Pool engine) (task : Nat) : List Delivery :=
  pool.deliveries.filter fun delivery => delivery.task == task

/-- The outcome of a task's pass: it ended at a root, or before it had one. -/
def Settled (deeds : List (Deed engine)) (checker : Checker) (document : Document) (task : Nat)
    (outcome : Outcome) : Prop :=
  (∃ number ticket, issuedTo deeds task = [(number, ticket)] ∧
    .ended number ticket outcome ∈ deeds) ∨
  (issuedTo deeds task = [] ∧ ∃ files, Pass.arrive files checker document = .error outcome)

def Activity.context? : Activity engine → Option Pass.Context
  | .ticketed context _ _ => some context
  | .queued context _ _ => some context
  | .running pass => some pass.context
  | _ => none

/-- How far a task has come with its one document, and what it has delivered. -/
inductive Errand (deeds : List (Deed engine)) (checker : Checker) (document : Document)
    (task : Nat) : Task engine → List Delivery → Prop
  | waiting (unissued : issuedTo deeds task = []) :
      Errand deeds checker document task ⟨[.validate checker document], .idle⟩ []
  | arriving (unissued : issuedTo deeds task = []) :
      Errand deeds checker document task ⟨[], .arriving checker document⟩ []
  | rooted {context : Pass.Context} (own : context.document = document)
      (unissued : issuedTo deeds task = []) :
      Errand deeds checker document task ⟨[], .rooted context⟩ []
  | admitted {context : Pass.Context} {number : Nat} (own : context.document = document)
      (unissued : issuedTo deeds task = []) :
      Errand deeds checker document task ⟨[], .admitted context number⟩ []
  | standing {activity : Activity engine} {context : Pass.Context} {stand : Stand}
      (knows : activity.context? = some context) (own : context.document = document)
      (stands : activity.stand? = some stand)
      (issued : issuedTo deeds task = [(stand.number, stand.ticket)]) :
      Errand deeds checker document task ⟨[], activity⟩ []
  | leaving {number : Nat} {outcome : Outcome}
      (settled : Settled deeds checker document task outcome) :
      Errand deeds checker document task ⟨[], .leaving number document outcome⟩ []
  | returned {outcome : Outcome} (settled : Settled deeds checker document task outcome) :
      Errand deeds checker document task ⟨[], .returned document outcome⟩ []
  | delivered {outcome : Outcome} (settled : Settled deeds checker document task outcome) :
      Errand deeds checker document task ⟨[], .idle⟩ [⟨task, document, outcome⟩]

@[simp] theorem issuedTo_append (deeds more : List (Deed engine)) (task : Nat) :
    issuedTo (deeds ++ more) task = issuedTo deeds task ++ issuedTo more task :=
  List.filterMap_append

theorem mem_issuedTo {deeds : List (Deed engine)} {task number : Nat} {ticket : Ticket} :
    (number, ticket) ∈ issuedTo deeds task ↔ .issued (some task) number ticket ∈ deeds := by
  simp only [issuedTo, List.mem_filterMap]
  constructor
  · rintro ⟨deed, member, equal⟩
    cases deed with
    | issued asker other issued =>
        cases asker with
        | none => cases equal
        | some asker =>
            by_cases same : asker = task
            · subst same
              have parts : other = number ∧ issued = ticket := by simpa using equal
              exact parts.1 ▸ parts.2 ▸ member
            · simp [same] at equal
    | _ => cases equal
  · intro member
    exact ⟨.issued (some task) number ticket, member, by simp⟩

@[simp] theorem issuedTo_self (task number : Nat) (ticket : Ticket) :
    issuedTo [(.issued (some task) number ticket : Deed engine)] task = [(number, ticket)] := by
  simp [issuedTo]

/-- What passes do issues no tickets. -/
theorem issuedTo_eq_nil (deeds : List (Deed engine)) (passes : ∀ deed ∈ deeds, deed.pass? ≠ none)
    (task : Nat) : issuedTo deeds task = [] := by
  apply List.eq_nil_iff_forall_not_mem.mpr
  rintro ⟨number, ticket⟩ member
  exact passes _ (mem_issuedTo.mp member) rfl

@[simp] theorem issuedTo_stageDeeds (stand : Stand) (stage : Stage)
    (actions : List (Action engine.Template)) (task : Nat) :
    issuedTo (stageDeeds stand stage actions) task = [] := by
  apply issuedTo_eq_nil
  intro deed member
  simp [stageDeeds_pass member]

theorem Settled.append {deeds : List (Deed engine)} {checker : Checker} {document : Document}
    {task : Nat} {outcome : Outcome} (settled : Settled deeds checker document task outcome)
    {more : List (Deed engine)} (none : issuedTo more task = []) :
    Settled (deeds ++ more) checker document task outcome := by
  rcases settled with ⟨number, ticket, issued, ended⟩ | ⟨unissued, arrived⟩
  · exact Or.inl ⟨number, ticket, by simp [issued, none], List.mem_append_left _ ended⟩
  · exact Or.inr ⟨by simp [unissued, none], arrived⟩

/-- A task is where it was while others act. -/
theorem Errand.append {deeds : List (Deed engine)} {checker : Checker} {document : Document}
    {task : Nat} {current : Task engine} {deliveries : List Delivery}
    (errand : Errand deeds checker document task current deliveries)
    {more : List (Deed engine)} (none : issuedTo more task = []) :
    Errand (deeds ++ more) checker document task current deliveries := by
  cases errand with
  | waiting unissued => exact .waiting (by simp [unissued, none])
  | arriving unissued => exact .arriving (by simp [unissued, none])
  | rooted own unissued => exact .rooted own (by simp [unissued, none])
  | admitted own unissued => exact .admitted own (by simp [unissued, none])
  | standing knows own stands issued => exact .standing knows own stands (by simp [issued, none])
  | leaving settled => exact .leaving (settled.append none)
  | returned settled => exact .returned (settled.append none)
  | delivered settled => exact .delivered (settled.append none)

/-! ## One turn -/

@[simp] theorem request_deliveries (pool : Pool engine) (task : Option Nat) (root : Path) :
    (pool.request task root).1.deliveries = pool.deliveries := by
  simp only [request]
  split
  · rfl
  · rfl

/-- Who takes the tickets of a turn, for which document. -/
theorem Turn.issued {pool next : Pool engine} {task : Nat} {deeds : List (Deed engine)}
    (turn : Turn pool task deeds next) {asker : Option Nat} {number : Nat} {ticket : Ticket}
    (member : .issued asker number ticket ∈ deeds) :
    asker = some task ∧ ∃ jobs context, pool.tasks[task]? = some ⟨jobs, .admitted context number⟩ ∧
      ticket.document = context.document.uri := by
  have inStage : ∀ (stand : Stand) (stage : Stage) (actions : List (Action engine.Template)),
      .issued asker number ticket ∉ (stageDeeds stand stage actions : List (Deed engine)) := by
    intro stand stage actions within
    cases stageDeeds_pass within
  cases turn with
  | @registers context jobs number' handle found known =>
      rw [List.mem_singleton] at member
      cases member
      exact ⟨rfl, jobs, context, found, rfl⟩
  | waits found known remaining half reached =>
      rw [workDeeds_eq_stageDeeds half.phase] at member
      exact absurd member (inStage _ _ _)
  | proceeds found known remaining half more =>
      rw [workDeeds_eq_stageDeeds half.phase] at member
      exact absurd member (inStage _ _ _)
  | ends found known remaining half last =>
      rw [workDeeds_eq_stageDeeds half.phase] at member
      have within := (List.mem_append.mp member).resolve_right (by simp)
      exact absurd within (inStage _ _ _)
  | _ => simp at member

theorem Turn.issuedTo_of_ne {pool next : Pool engine} {task : Nat} {deeds : List (Deed engine)}
    (turn : Turn pool task deeds next) {other : Nat} (different : other ≠ task) :
    issuedTo deeds other = [] := by
  apply List.eq_nil_iff_forall_not_mem.mpr
  rintro ⟨number, ticket⟩ member
  have asker := (turn.issued (mem_issuedTo.mp member)).1
  exact different (Option.some.inj asker)

/-- A turn of a task changes no other task. -/
theorem Turn.tasks {pool next : Pool engine} {task : Nat} {deeds : List (Deed engine)}
    (turn : Turn pool task deeds next) :
    next.tasks.length = pool.tasks.length ∧
      ∀ other, other ≠ task → next.tasks[other]? = pool.tasks[other]? := by
  have placed : ∀ {middle : Pool engine} {new : Task engine}, middle.tasks = pool.tasks →
      (middle.place task new).tasks.length = pool.tasks.length ∧
        ∀ other, other ≠ task → (middle.place task new).tasks[other]? = pool.tasks[other]? := by
    intro middle new same
    constructor
    · simp [place, same]
    · intro other different
      have apart : task ≠ other := fun equal => different equal.symm
      simp [place, same, apart]
  cases turn with
  | halts stuck => exact ⟨rfl, fun _ _ => rfl⟩
  | enters found => exact placed (request_tasks _ _ _)
  | _ => exact placed rfl

theorem Turn.deliveriesOf_of_ne {pool next : Pool engine} {task : Nat} {deeds : List (Deed engine)}
    (turn : Turn pool task deeds next) {other : Nat} (different : other ≠ task) :
    next.deliveriesOf other = pool.deliveriesOf other := by
  have apart : (task == other) = false := by simpa using fun equal => different (Eq.symm equal)
  cases turn with
  | enters found => simp [deliveriesOf, place]
  | delivers found => simp [deliveriesOf, place, apart]
  | _ => rfl

theorem tasks_place_self {pool middle : Pool engine} {task : Nat} {old : Task engine}
    (found : pool.tasks[task]? = some old) (sameTasks : middle.tasks = pool.tasks)
    (new : Task engine) : (middle.place task new).tasks[task]? = some new := by
  have inRange : task < pool.tasks.length := (List.getElem?_eq_some_iff.mp found).1
  simp [place, sameTasks, inRange]

/-- A pass in the middle of its stages. -/
private theorem errand_running {deeds : List (Deed engine)} {checker : Checker}
    {document : Document} {task : Nat} {pass : Running engine} {jobs : List Job}
    {deliveries : List Delivery}
    (errand : Errand deeds checker document task ⟨jobs, .running pass⟩ deliveries) :
    jobs = [] ∧ deliveries = [] ∧ pass.context.document = document ∧
      issuedTo deeds task = [(pass.handle, pass.ticket)] := by
  cases errand with
  | standing knows own stands issued =>
      cases knows
      cases stands
      exact ⟨rfl, rfl, own, issued⟩

theorem Errand.turned {deeds new : List (Deed engine)} {pool next : Pool engine}
    {checker : Checker} {document : Document} {task : Nat} {current : Task engine}
    (found : pool.tasks[task]? = some current)
    (errand : Errand deeds checker document task current (pool.deliveriesOf task))
    (turn : Turn pool task new next) :
    ∃ later, next.tasks[task]? = some later ∧
      Errand (deeds ++ new) checker document task later (next.deliveriesOf task) := by
  generalize before : pool.deliveriesOf task = deliveries at errand
  cases turn with
  | halts stuck => exact ⟨current, found, by rw [List.append_nil, before]; exact errand⟩
  | takesUp found' =>
      rw [found'] at found
      cases found
      cases errand with
      | waiting unissued =>
          refine ⟨_, tasks_place_self found' rfl _, ?_⟩
          rw [List.append_nil]
          exact before ▸ .arriving unissued
  | evicts found' =>
      rw [found'] at found
      cases found
      cases errand
  | turnsBack found' arrived =>
      rw [found'] at found
      cases found
      cases errand with
      | arriving unissued =>
          refine ⟨_, tasks_place_self found' rfl _, ?_⟩
          rw [List.append_nil]
          exact before ▸ .returned (Or.inr ⟨unissued, pool.files, arrived⟩)
      | standing knows own stands issued => cases stands
  | arrives found' arrived =>
      rw [found'] at found
      cases found
      cases errand with
      | arriving unissued =>
          have own := Pass.arrive_document arrived
          refine ⟨_, tasks_place_self found' rfl _, ?_⟩
          rw [List.append_nil]
          exact before ▸ .rooted own unissued
      | standing knows own stands issued => cases stands
  | enters found' =>
      rw [found'] at found
      cases found
      cases errand with
      | rooted own unissued =>
          refine ⟨_, tasks_place_self found' (request_tasks _ _ _) _, ?_⟩
          have none : ∀ (root : Path) (new : Task engine),
              ((pool.request (some task) root).1.place task new).deliveriesOf task = [] := by
            intro root new
            simpa [deliveriesOf, place] using before
          rw [List.append_nil, none]
          exact .admitted own unissued
      | standing knows own stands issued => cases stands
  | registers found' known =>
      rw [found'] at found
      cases found
      cases errand with
      | admitted own unissued =>
          refine ⟨_, tasks_place_self found' rfl _, ?_⟩
          exact before ▸ .standing rfl own rfl (by simp [unissued])
      | standing knows own stands issued => cases stands
  | locks found' known isFree =>
      rw [found'] at found
      cases found
      cases errand with
      | standing knows own stands issued =>
          cases knows
          cases stands
          refine ⟨_, tasks_place_self found' rfl _, ?_⟩
          rw [List.append_nil]
          exact before ▸ .standing rfl own rfl issued
  | queues found' known owned =>
      rw [found'] at found
      cases found
      cases errand with
      | standing knows own stands issued =>
          cases knows
          cases stands
          refine ⟨_, tasks_place_self found' rfl _, ?_⟩
          rw [List.append_nil]
          exact before ▸ .standing rfl own rfl issued
  | resumes found' known owned =>
      rw [found'] at found
      cases found
      cases errand with
      | standing knows own stands issued =>
          cases knows
          cases stands
          refine ⟨_, tasks_place_self found' rfl _, ?_⟩
          rw [List.append_nil]
          exact before ▸ .standing rfl own rfl issued
  | @passes pass jobs handle found' known phase current =>
      rw [found'] at found
      cases found
      rcases errand_running errand with ⟨noJobs, none, own, issued⟩
      subst noJobs none
      have quiet := issuedTo_eq_nil [(.checked pass.handle pass.ticket true : Deed engine)]
        (by simp [Deed.pass?]) task
      refine ⟨_, tasks_place_self found' rfl _, ?_⟩
      exact before ▸ .standing rfl own rfl (by simp [issued, quiet])
  | @yields pass jobs handle found' known phase outdated =>
      rw [found'] at found
      cases found
      rcases errand_running errand with ⟨noJobs, none, own, issued⟩
      subst noJobs none
      have quiet := issuedTo_eq_nil [(.checked pass.handle pass.ticket false : Deed engine),
        .ended pass.handle pass.ticket .superseded] (by simp [Deed.pass?]) task
      refine ⟨_, tasks_place_self found' rfl _, ?_⟩
      rw [own]
      exact before ▸ .leaving (Or.inl ⟨pass.handle, pass.ticket, by simp [issued, quiet], by simp⟩)
  | waits found' known remaining half reached =>
      rw [found'] at found
      cases found
      rcases errand_running errand with ⟨noJobs, none, own, issued⟩
      subst noJobs none
      refine ⟨_, tasks_place_self found' rfl _, ?_⟩
      rw [workDeeds_eq_stageDeeds half.phase]
      exact before ▸ .standing rfl own rfl (by simp [issued])
  | proceeds found' known remaining half more =>
      rw [found'] at found
      cases found
      rcases errand_running errand with ⟨noJobs, none, own, issued⟩
      subst noJobs none
      refine ⟨_, tasks_place_self found' rfl _, ?_⟩
      rw [workDeeds_eq_stageDeeds half.phase]
      exact before ▸ .standing rfl own rfl (by simp [issued])
  | @ends pass jobs handle stage rest work verdict found' known remaining half last =>
      rw [found'] at found
      cases found
      rcases errand_running errand with ⟨noJobs, none, own, issued⟩
      subst noJobs none
      have quiet := issuedTo_eq_nil [(.ended pass.handle pass.ticket
        (outcomeOf pass stage work.report verdict) : Deed engine)] (by simp [Deed.pass?]) task
      refine ⟨_, tasks_place_self found' rfl _, ?_⟩
      rw [own, workDeeds_eq_stageDeeds half.phase]
      exact before ▸ .leaving (Or.inl ⟨pass.handle, pass.ticket, by simp [issued, quiet], by simp⟩)
  | departs found' =>
      rw [found'] at found
      cases found
      cases errand with
      | leaving settled =>
          refine ⟨_, tasks_place_self found' rfl _, ?_⟩
          rw [List.append_nil]
          exact before ▸ .returned settled
      | standing knows own stands issued => cases stands
  | delivers found' =>
      rw [found'] at found
      cases found
      cases errand with
      | returned settled =>
          refine ⟨_, tasks_place_self found' rfl _, ?_⟩
          have one : ∀ outcome, ({ pool with
              deliveries := pool.deliveries ++ [Delivery.mk task document outcome] }.place task
                ⟨[], .idle⟩).deliveriesOf task = [⟨task, document, outcome⟩] := by
            intro outcome
            have none : pool.deliveries.filter (fun delivery => delivery.task == task) = [] := before
            simp [deliveriesOf, place, none]
          rw [List.append_nil, ite_self, one]
          exact .delivered settled
      | standing knows own stands issued => cases stands

/-! ## All tasks -/

/-- Tasks that check one document each: task and document have the same number. -/
structure Errands (deeds : List (Deed engine)) (pool : Pool engine) (checker : Checker)
    (documents : List Document) : Prop where
  count : pool.tasks.length = documents.length
  each : ∀ task document, documents[task]? = some document →
    ∃ current, pool.tasks[task]? = some current ∧
      Errand deeds checker document task current (pool.deliveriesOf task)
  beyond : ∀ task, documents.length ≤ task →
    issuedTo deeds task = [] ∧ pool.deliveriesOf task = []
  issuers : ∀ asker number ticket, .issued asker number ticket ∈ deeds →
    ∃ task document, asker = some task ∧ documents[task]? = some document ∧
      ticket.document = document.uri

namespace Errands

variable {deeds : List (Deed engine)} {pool : Pool engine} {checker : Checker}
  {documents : List Document}

theorem empty (engine : Engine) (files : FileSystem) (capacity : Nat) (checker : Checker) :
    Errands [] (Pool.empty engine files capacity) checker [] where
  count := rfl
  each := by simp
  beyond := by simp [issuedTo, deliveriesOf, Pool.empty]
  issuers := by simp

theorem spawned (errands : Errands deeds pool checker documents) (document : Document) :
    Errands deeds (pool.spawn [.validate checker document]) checker (documents ++ [document]) where
  count := by simp [spawn, errands.count]
  each := by
    intro task own found
    rw [List.getElem?_append] at found
    split at found
    · next early =>
        rcases errands.each task own found with ⟨current, present, errand⟩
        refine ⟨current, ?_, errand⟩
        rw [← errands.count] at early
        simpa [spawn, List.getElem?_append_left early] using present
    · next late =>
        have isLast : task = documents.length := by
          have inRange := (List.getElem?_eq_some_iff.mp found).1
          simp at inRange
          omega
        subst isLast
        have same : document = own := by simpa using found
        subst same
        rcases errands.beyond documents.length (Nat.le_refl _) with ⟨unissued, undelivered⟩
        have undelivered' : (pool.spawn [.validate checker document]).deliveriesOf
            documents.length = [] := undelivered
        rw [undelivered']
        exact ⟨_, by simp [spawn, ← errands.count], .waiting unissued⟩
  beyond := by
    intro task outside
    rw [List.length_append] at outside
    exact errands.beyond task (by omega)
  issuers := by
    intro asker number ticket member
    rcases errands.issuers asker number ticket member with ⟨task, own, isTask, found, same⟩
    refine ⟨task, own, isTask, ?_, same⟩
    have inRange := (List.getElem?_eq_some_iff.mp found).1
    rw [List.getElem?_append_left inRange]
    exact found

theorem stepped (errands : Errands deeds pool checker documents) (task : Nat) :
    Errands (deeds ++ pool.deedsOfStep task) (pool.step task) checker documents := by
  rcases present : pool.tasks[task]? with _ | current
  · have unmoved : pool.step task = pool := by simp [step, present]
    have quiet : pool.deedsOfStep task = [] := by simp [deedsOfStep, activity?, present]
    rw [unmoved, quiet, List.append_nil]
    exact errands
  · have turn := turn_step pool task
    have inRange : task < documents.length := by
      rw [← errands.count]
      exact (List.getElem?_eq_some_iff.mp present).1
    refine ⟨turn.tasks.1.trans errands.count, ?each, ?beyond, ?issuers⟩
    case each =>
      intro other own found
      rcases errands.each other own found with ⟨old, presentOther, errand⟩
      by_cases same : other = task
      · subst same
        exact Errand.turned presentOther errand turn
      · refine ⟨old, (turn.tasks.2 other same).trans presentOther, ?_⟩
        rw [turn.deliveriesOf_of_ne same]
        exact errand.append (turn.issuedTo_of_ne same)
    case beyond =>
      intro other outside
      have different : other ≠ task := by omega
      rcases errands.beyond other outside with ⟨unissued, undelivered⟩
      rw [turn.deliveriesOf_of_ne different, issuedTo_append, unissued,
        turn.issuedTo_of_ne different]
      exact ⟨rfl, undelivered⟩
    case issuers =>
      intro asker number ticket member
      rcases List.mem_append.mp member with early | late
      · exact errands.issuers asker number ticket early
      · rcases turn.issued late with ⟨isTask, jobs, context, admitted, same⟩
        have found := List.getElem?_eq_getElem inRange
        rcases errands.each task _ found with ⟨old, presentTask, errand⟩
        rw [admitted] at presentTask
        cases presentTask
        refine ⟨task, _, isTask, found, ?_⟩
        generalize pool.deliveriesOf task = deliveries at errand
        cases errand with
        | admitted own unissued => rw [same, own]
        | standing knows own stands issued => cases stands

/-- A task that is done has delivered the outcome of its document. -/
theorem delivered_of_done (errands : Errands deeds pool checker documents) {task : Nat}
    {document : Document} (found : documents[task]? = some document)
    (done : pool.isDone task = true) :
    ∃ outcome, pool.deliveriesOf task = [⟨task, document, outcome⟩] ∧
      Settled deeds checker document task outcome := by
  rcases errands.each task document found with ⟨current, present, errand⟩
  generalize pool.deliveriesOf task = deliveries at errand
  cases errand with
  | delivered settled => exact ⟨_, rfl, settled⟩
  | waiting unissued => simp [isDone, present] at done
  | @standing activity context stand knows own stands issued =>
      cases activity with
      | idle => cases stands
      | _ => simp [isDone, present] at done
  | _ => simp [isDone, present] at done

/-- What a task has delivered is the outcome of its document. -/
theorem settled_of_delivered (errands : Errands deeds pool checker documents)
    (delivery : Delivery) (member : delivery ∈ pool.deliveries) :
    documents[delivery.task]? = some delivery.document ∧
      Settled deeds checker delivery.document delivery.task delivery.outcome := by
  have own : delivery ∈ pool.deliveriesOf delivery.task :=
    List.mem_filter.mpr ⟨member, by simp⟩
  rcases found : documents[delivery.task]? with _ | document
  · have none := (errands.beyond delivery.task (List.getElem?_eq_none_iff.mp found)).2
    rw [none] at own
    cases own
  · rcases errands.each delivery.task document found with ⟨current, present, errand⟩
    generalize pool.deliveriesOf delivery.task = deliveries at errand own
    cases errand with
    | delivered settled =>
        have same := List.mem_singleton.mp own
        rw [same]
        exact ⟨rfl, settled⟩
    | _ => cases own

end Errands

end Pool

end TemplateCheck
