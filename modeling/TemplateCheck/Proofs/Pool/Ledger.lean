import TemplateCheck.Proofs.Pool.Errands

/-! # What tasks owe

A task owes one outcome for every document that its jobs name, in their order. What it
has delivered and what it has still to deliver make up what it owes, until its engine
breaks down: then the outcome that says so is its last, and the rest is waived.
-/

namespace TemplateCheck.Pool

variable {engine : Engine}

/-- The documents that jobs check. -/
def documentsOf (jobs : List Job) : List Document :=
  jobs.filterMap fun
    | .validate _ document => some document
    | .evictUnder _ => none

/-- The document that a task is occupied with. -/
def Activity.document? : Activity engine → Option Document
  | .idle => none
  | .arriving _ document => some document
  | .rooted context => some context.document
  | .admitted context _ => some context.document
  | .ticketed context _ _ => some context.document
  | .queued context _ _ => some context.document
  | .running pass => some pass.context.document
  | .leaving _ document _ => some document
  | .returned document _ => some document

/-- The documents whose outcomes a task has still to deliver. -/
def Task.due (task : Task engine) : List Document :=
  task.activity.document?.toList ++ documentsOf task.jobs

/-- A task that has come to its end. -/
def Task.ended : Task engine := ⟨[], .idle⟩

/-- What a turn does to what its task has still to deliver. -/
inductive Dues (pool : Pool engine) (task : Nat) (next : Pool engine) : Prop
  | halts (same : next = pool)
  | keeps {current later : Task engine} (found : pool.tasks[task]? = some current)
      (going : current ≠ Task.ended) (present : next.tasks[task]? = some later)
      (undelivered : next.deliveries = pool.deliveries) (same : later.due = current.due)
  | pays {jobs : List Job} {document : Document} {outcome : Outcome}
      (found : pool.tasks[task]? = some ⟨jobs, .returned document outcome⟩)
      (present : next.tasks[task]? = some ⟨if outcome = .broken then [] else jobs, .idle⟩)
      (delivered : next.deliveries = pool.deliveries ++ [⟨task, document, outcome⟩])

/-- A task goes on with the document that it has, or takes up its next job. -/
private theorem Dues.placed {pool middle : Pool engine} {task : Nat} {current later : Task engine}
    (found : pool.tasks[task]? = some current) (same : later.due = current.due)
    (sameTasks : middle.tasks = pool.tasks) (undelivered : middle.deliveries = pool.deliveries)
    (going : current ≠ Task.ended) : Dues pool task (middle.place task later) :=
  .keeps found going (tasks_place_self found sameTasks later) undelivered same

theorem Turn.dues {pool next : Pool engine} {task : Nat} {deeds : List (Deed engine)}
    (turn : Turn pool task deeds next) : Dues pool task next := by
  have going : ∀ {jobs : List Job} {activity : Activity engine},
      jobs ≠ [] ∨ activity.document?.isSome = true → (⟨jobs, activity⟩ : Task engine) ≠ .ended := by
    rintro jobs activity busy equal
    cases equal
    simp [Activity.document?] at busy
  cases turn with
  | halts stuck => exact .halts rfl
  | delivers found => exact .pays found (tasks_place_self found rfl _) rfl
  | takesUp found => exact .placed found rfl rfl rfl (going (by simp))
  | evicts found => exact .placed found rfl rfl rfl (going (by simp))
  | arrives found arrived =>
      refine .placed found ?_ rfl rfl (going (Or.inr rfl))
      simp [Task.due, Activity.document?, Pass.arrive_document arrived]
  | enters found =>
      exact .placed found rfl (request_tasks _ _ _) (request_deliveries _ _ _) (going (Or.inr rfl))
  | turnsBack found => exact .placed found rfl rfl rfl (going (Or.inr rfl))
  | registers found => exact .placed found rfl rfl rfl (going (Or.inr rfl))
  | locks found => exact .placed found rfl rfl rfl (going (Or.inr rfl))
  | queues found => exact .placed found rfl rfl rfl (going (Or.inr rfl))
  | resumes found => exact .placed found rfl rfl rfl (going (Or.inr rfl))
  | passes found => exact .placed found rfl rfl rfl (going (Or.inr rfl))
  | yields found => exact .placed found rfl rfl rfl (going (Or.inr rfl))
  | waits found => exact .placed found rfl rfl rfl (going (Or.inr rfl))
  | proceeds found => exact .placed found rfl rfl rfl (going (Or.inr rfl))
  | ends found => exact .placed found rfl rfl rfl (going (Or.inr rfl))
  | departs found => exact .placed found rfl rfl rfl (going (Or.inr rfl))

/-- The books of one task: what it was assigned, where it stands, and what it has
delivered. Something is waived only behind an engine that broke down. -/
def Ledger (assigned : List Job) (task : Task engine) (delivered : List Delivery) : Prop :=
  ∃ waived, documentsOf assigned = delivered.map Delivery.document ++ task.due ++ waived ∧
    (waived = [] ∨
      task = Task.ended ∧ ∃ last, delivered.getLast? = some last ∧ last.outcome = .broken)

theorem Ledger.opened (assigned : List Job) :
    Ledger assigned (⟨assigned, .idle⟩ : Task engine) [] :=
  ⟨[], by simp [Task.due, Activity.document?], Or.inl rfl⟩

theorem Ledger.kept {assigned : List Job} {task later : Task engine} {delivered : List Delivery}
    (ledger : Ledger assigned task delivered) (going : task ≠ Task.ended)
    (same : later.due = task.due) : Ledger assigned later delivered := by
  rcases ledger with ⟨waived, owed, reason⟩
  have noneWaived : waived = [] := reason.resolve_right fun ended => going ended.1
  exact ⟨waived, by rw [same]; exact owed, Or.inl noneWaived⟩

theorem Ledger.paid {assigned jobs : List Job} {document : Document} {outcome : Outcome}
    {delivered : List Delivery}
    (ledger : Ledger assigned (⟨jobs, .returned document outcome⟩ : Task engine) delivered)
    (number : Nat) :
    Ledger assigned (⟨if outcome = .broken then [] else jobs, .idle⟩ : Task engine)
      (delivered ++ [⟨number, document, outcome⟩]) := by
  rcases ledger with ⟨waived, owed, reason⟩
  have noneWaived : waived = [] := reason.resolve_right fun ended => by cases ended.1
  subst noneWaived
  by_cases broken : outcome = .broken
  · refine ⟨documentsOf jobs, ?_, Or.inr ⟨?_, _, List.getLast?_concat, broken⟩⟩
    · simpa [Task.due, Activity.document?, documentsOf, broken] using owed
    · simp [Task.ended, broken]
  · refine ⟨[], ?_, Or.inl rfl⟩
    simpa [Task.due, Activity.document?, broken] using owed

theorem Ledger.released {assigned : List Job} {task : Task engine} {delivered : List Delivery}
    (ledger : Ledger assigned task delivered) :
    Ledger assigned { task with activity := task.activity.unblock } delivered := by
  have sameDue : Task.due { task with activity := task.activity.unblock } = task.due := by
    rcases task with ⟨jobs, activity⟩
    cases activity with
    | running pass =>
        simp only [Task.due, Activity.unblock]
        split
        · rfl
        · rfl
    | _ => rfl
  rcases ledger with ⟨waived, owed, reason⟩
  refine ⟨waived, by rw [sameDue]; exact owed, reason.imp id ?_⟩
  rintro ⟨ended, last⟩
  exact ⟨by rw [ended]; rfl, last⟩

/-- The deliveries of one task. -/
def deliveredBy (deliveries : List Delivery) (task : Nat) : List Delivery :=
  deliveries.filter fun delivery => delivery.task == task

@[simp] theorem deliveredBy_append (deliveries more : List Delivery) (task : Nat) :
    deliveredBy (deliveries ++ more) task = deliveredBy deliveries task ++ deliveredBy more task :=
  List.filter_append ..

/-- The books of all tasks. -/
structure Ledgers (assignments : List (List Job)) (tasks : List (Task engine))
    (deliveries : List Delivery) : Prop where
  count : tasks.length = assignments.length
  each : ∀ task assigned, assignments[task]? = some assigned →
    ∃ current, tasks[task]? = some current ∧ Ledger assigned current (deliveredBy deliveries task)
  beyond : ∀ task, assignments.length ≤ task → deliveredBy deliveries task = []

namespace Ledgers

variable {assignments : List (List Job)} {tasks : List (Task engine)} {deliveries : List Delivery}

theorem empty : Ledgers [] ([] : List (Task engine)) [] where
  count := rfl
  each := by simp
  beyond := by simp [deliveredBy]

theorem spawned (ledgers : Ledgers assignments tasks deliveries) (jobs : List Job) :
    Ledgers (assignments ++ [jobs]) (tasks ++ [⟨jobs, .idle⟩]) deliveries where
  count := by simp [ledgers.count]
  each := by
    intro task assigned found
    by_cases early : task < assignments.length
    · rw [List.getElem?_append_left early] at found
      rw [← ledgers.count] at early
      rw [List.getElem?_append_left early]
      exact ledgers.each task assigned found
    · have isLast : task = assignments.length := by
        have inRange := (List.getElem?_eq_some_iff.mp found).1
        simp at inRange
        omega
      subst isLast
      have same : jobs = assigned := by simpa using found
      rw [ledgers.beyond _ (Nat.le_refl _), same]
      exact ⟨⟨assigned, .idle⟩, by simp [← ledgers.count], .opened assigned⟩
  beyond := by
    intro task outside
    rw [List.length_append] at outside
    exact ledgers.beyond task (by omega)

theorem released (ledgers : Ledgers assignments tasks deliveries) :
    Ledgers assignments
      (tasks.map fun task => { task with activity := task.activity.unblock }) deliveries where
  count := by simp [ledgers.count]
  each := by
    intro task assigned found
    rcases ledgers.each task assigned found with ⟨current, present, ledger⟩
    exact ⟨_, by simp [present], ledger.released⟩
  beyond := ledgers.beyond

theorem stepped {pool : Pool engine} (ledgers : Ledgers assignments pool.tasks deliveries)
    (cleared : pool.deliveries = []) (task : Nat) :
    Ledgers assignments (pool.step task).tasks (deliveries ++ (pool.step task).deliveries) := by
  have turn := turn_step pool task
  have others : ∀ other, other ≠ task →
      deliveredBy (deliveries ++ (pool.step task).deliveries) other =
        deliveredBy deliveries other := by
    intro other different
    have none : deliveredBy (pool.step task).deliveries other = [] := by
      have same := turn.deliveriesOf_of_ne different
      rw [deliveriesOf, deliveriesOf, cleared] at same
      exact same
    rw [deliveredBy_append, none, List.append_nil]
  refine ⟨turn.tasks.1.trans ledgers.count, ?each, ?beyond⟩
  case each =>
    intro other assigned found
    rcases ledgers.each other assigned found with ⟨current, present, ledger⟩
    by_cases same : other = task
    · subst same
      cases turn.dues with
      | halts same =>
          rw [same, cleared, List.append_nil]
          exact ⟨current, present, ledger⟩
      | keeps found going later undelivered due =>
          cases present.symm.trans found
          rw [undelivered, cleared, List.append_nil]
          exact ⟨_, later, ledger.kept going due⟩
      | pays found later delivered =>
          cases present.symm.trans found
          refine ⟨_, later, ?_⟩
          rw [delivered, cleared, deliveredBy_append]
          simpa [deliveredBy] using ledger.paid other
    · rw [others other same, turn.tasks.2 other same]
      exact ⟨current, present, ledger⟩
  case beyond =>
    intro other outside
    by_cases same : other = task
    · subst same
      have absent : pool.tasks[other]? = none :=
        List.getElem?_eq_none (by rw [ledgers.count]; exact outside)
      have unmoved : pool.step other = pool := by simp [step, absent]
      rw [unmoved, cleared, List.append_nil]
      exact ledgers.beyond other outside
    · rw [others other same]
      exact ledgers.beyond other outside

end Ledgers

/-- All tasks have come to their end. -/
def AllEnded (pool : Pool engine) : Prop :=
  ∀ task ∈ pool.tasks, task = Task.ended

theorem ended_of_allDone {pool : Pool engine} (allDone : pool.allDone = true) : pool.AllEnded := by
  intro task member
  rcases List.getElem?_of_mem member with ⟨number, found⟩
  have inRange := (List.getElem?_eq_some_iff.mp found).1
  have done := List.all_eq_true.mp allDone number (List.mem_range.mpr inRange)
  rcases task with ⟨jobs, activity⟩
  cases activity with
  | idle =>
      have noJobs : jobs = [] := by simpa [isDone, found] using done
      rw [noJobs]
      rfl
  | _ => simp [isDone, found] at done

theorem AllEnded.step {pool : Pool engine} (ended : pool.AllEnded) (task : Nat) :
    pool.step task = pool := by
  cases found : pool.tasks[task]? with
  | none => simp [Pool.step, found]
  | some current =>
      have isEnded := ended current (List.mem_of_getElem? found)
      subst isEnded
      simp [Pool.step, found, Task.ended, takeJob]

theorem AllEnded.release {pool : Pool engine} (ended : pool.AllEnded) : pool.release.AllEnded := by
  intro task member
  rcases List.mem_map.mp member with ⟨before, present, equal⟩
  rw [← equal, ended before present]
  rfl

end TemplateCheck.Pool
