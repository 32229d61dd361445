import TemplateCheck.Proofs.Pass.Record
import TemplateCheck.Proofs.Pool.Handles

/-! # Passes come to their end

Every step that a task can make takes away from the labour that is left, and
only new jobs add to it, so tasks come to rest. At rest nobody waits for a lock:
its owner could move. So unless an answer of the engine is held back, a pool at
rest has done all its jobs.
-/

namespace TemplateCheck.Pool

open Roots (Ticket Handle Store)

variable {engine : Engine}

/-! ## Labour -/

def Phase.labour : Phase → Nat
  | .check => 3
  | .start => 2
  | .blocked => 1
  | .finish => 0

/-- A bound on the steps that are left of a job under way. -/
def Activity.labour : Activity engine → Nat
  | .idle => 0
  | .returned _ _ => 1
  | .leaving _ _ _ => 2
  | .running pass => 3 + 4 * pass.remaining.length + pass.phase.labour
  | .queued _ _ _ => 23
  | .ticketed _ _ _ => 24
  | .admitted _ _ => 25
  | .rooted _ => 26
  | .arriving _ _ => 27

def Task.labour (task : Task engine) : Nat :=
  28 * task.jobs.length + task.activity.labour

/-- A bound on the steps that all tasks together can still make. -/
def totalLabour (tasks : List (Task engine)) : Nat :=
  tasks.foldr (fun task total => task.labour + total) 0

def labour (pool : Pool engine) : Nat :=
  totalLabour pool.tasks

theorem totalLabour_cons (task : Task engine) (tasks : List (Task engine)) :
    totalLabour (task :: tasks) = task.labour + totalLabour tasks := rfl

theorem totalLabour_append (tasks more : List (Task engine)) :
    totalLabour (tasks ++ more) = totalLabour tasks + totalLabour more := by
  induction tasks with
  | nil => simp [totalLabour]
  | cons task tasks induction =>
      rw [List.cons_append, totalLabour_cons, totalLabour_cons, induction]
      omega

theorem totalLabour_set {tasks : List (Task engine)} {index : Nat} {old : Task engine}
    (found : tasks[index]? = some old) (new : Task engine) :
    totalLabour (tasks.set index new) + old.labour = totalLabour tasks + new.labour := by
  induction tasks generalizing index with
  | nil => simp at found
  | cons head tail induction =>
      cases index with
      | zero =>
          have equal : head = old := by simpa using found
          rw [List.set_cons_zero, totalLabour_cons, totalLabour_cons, equal]
          omega
      | succ index =>
          have later := @induction index (by simpa using found)
          rw [List.set_cons_succ, totalLabour_cons, totalLabour_cons]
          omega

theorem labour_place {pool next : Pool engine} {task : Nat} {old new : Task engine}
    (found : pool.tasks[task]? = some old) (sameTasks : next.tasks = pool.tasks)
    (less : new.labour < old.labour) : (next.place task new).labour < pool.labour := by
  have total := totalLabour_set found new
  simp only [labour, place, sameTasks]
  omega

theorem stagesFor_length (kind : Package.SourceKind) : (stagesFor kind).length ≤ 4 := by
  cases kind with
  | model => decide
  | logic => decide
  | grammar => decide
  | other => decide

theorem HalfStage.labour {files : FileSystem} {context : Pass.Context}
    {work result : Pass.Work engine} {stage : Stage} {phase : Phase} {verdict : Option Verdict}
    (half : HalfStage files context work stage phase result verdict) :
    (verdict = none → phase = .start) ∧ phase.labour ≤ 2 := by
  cases half with
  | decided equal => exact ⟨by simp, by decide⟩
  | waiting equal => exact ⟨fun _ => rfl, by decide⟩
  | finished equal => exact ⟨by simp, by decide⟩

/-- A turn is idle or takes away from the labour. -/
theorem Turn.labour {pool next : Pool engine} {task : Nat} {deeds : List (Deed engine)}
    (turn : Turn pool task deeds next) : pool.Stuck task ∨ next.labour < pool.labour := by
  cases turn with
  | halts stuck => exact Or.inl stuck
  | takesUp found =>
      refine Or.inr (labour_place found rfl ?_)
      simp only [Task.labour, Activity.labour, List.length_cons]
      omega
  | evicts found =>
      refine Or.inr (labour_place found rfl ?_)
      simp only [Task.labour, Activity.labour, List.length_cons]
      omega
  | turnsBack found arrived =>
      refine Or.inr (labour_place found rfl ?_)
      simp only [Task.labour, Activity.labour]
      omega
  | arrives found arrived =>
      refine Or.inr (labour_place found rfl ?_)
      simp only [Task.labour, Activity.labour]
      omega
  | enters found =>
      refine Or.inr (labour_place found (request_tasks _ _ _) ?_)
      simp only [Task.labour, Activity.labour]
      omega
  | registers found known =>
      refine Or.inr (labour_place found rfl ?_)
      simp only [Task.labour, Activity.labour]
      omega
  | @locks context jobs number ticket handle found known isFree =>
      have bound := stagesFor_length context.kind
      refine Or.inr (labour_place found rfl ?_)
      simp only [Task.labour, Activity.labour, Phase.labour]
      omega
  | queues found known owned =>
      refine Or.inr (labour_place found rfl ?_)
      simp only [Task.labour, Activity.labour]
      omega
  | @resumes context jobs number ticket handle found known owned =>
      have bound := stagesFor_length context.kind
      refine Or.inr (labour_place found rfl ?_)
      simp only [Task.labour, Activity.labour, Phase.labour]
      omega
  | passes found known phase current =>
      refine Or.inr (labour_place found rfl ?_)
      simp only [Task.labour, Activity.labour, phase, Phase.labour]
      omega
  | yields found known phase outdated =>
      refine Or.inr (labour_place found rfl ?_)
      simp only [Task.labour, Activity.labour]
      omega
  | @waits pass jobs handle stage rest work armed events phase found known remaining half reached =>
      have later : phase.labour < pass.phase.labour := by
        rw [half.labour.1 rfl]
        cases reached with
        | free => decide
        | held armed => decide
      refine Or.inr (labour_place found rfl ?_)
      simp only [Task.labour, Activity.labour]
      omega
  | proceeds found known remaining half more =>
      refine Or.inr (labour_place found rfl ?_)
      simp only [Task.labour, Activity.labour, remaining, List.length_cons, Phase.labour]
      omega
  | ends found known remaining half last =>
      refine Or.inr (labour_place found rfl ?_)
      simp only [Task.labour, Activity.labour]
      omega
  | departs found =>
      refine Or.inr (labour_place found rfl ?_)
      simp only [Task.labour, Activity.labour]
      omega
  | @delivers document outcome jobs found =>
      refine Or.inr (labour_place found rfl ?_)
      simp only [Task.labour, Activity.labour]
      split
      · simp
      · omega

/-! ## Tasks that can move do move -/

/-- A pass that runs has a stage to run. -/
def Supplied (pool : Pool engine) : Prop :=
  ∀ (task : Nat) (jobs : List Job) (pass : Running engine),
    pool.tasks[task]? = some ⟨jobs, .running pass⟩ → pass.remaining ≠ []

theorem Supplied.place {pool next : Pool engine} (supplied : pool.Supplied)
    (sameTasks : next.tasks = pool.tasks) {task : Nat} {new : Task engine}
    (supply : ∀ pass, new.activity = .running pass → pass.remaining ≠ []) :
    (next.place task new).Supplied := by
  intro other jobs pass found
  simp only [Pool.place, List.getElem?_set, sameTasks] at found
  split at found
  · split at found
    · cases found
      exact supply pass rfl
    · cases found
  · exact supplied other jobs pass found

theorem Supplied.turned {pool next : Pool engine} (supplied : pool.Supplied) {task : Nat}
    {deeds : List (Deed engine)} (turn : Turn pool task deeds next) : next.Supplied := by
  cases turn with
  | halts stuck => exact supplied
  | takesUp found => exact supplied.place rfl (by simp)
  | evicts found => exact supplied.place rfl (by simp)
  | turnsBack found arrived => exact supplied.place rfl (by simp)
  | arrives found arrived => exact supplied.place rfl (by simp)
  | enters found => exact supplied.place (request_tasks _ _ _) (by simp)
  | registers found known => exact supplied.place rfl (by simp)
  | locks found known isFree =>
      apply supplied.place rfl
      intro pass equal
      cases equal
      exact Pass.stagesFor_ne_nil _
  | queues found known owned => exact supplied.place rfl (by simp)
  | resumes found known owned =>
      apply supplied.place rfl
      intro pass equal
      cases equal
      exact Pass.stagesFor_ne_nil _
  | passes found known phase current =>
      have supply := supplied task _ _ found
      apply supplied.place rfl
      intro pass equal
      cases equal
      exact supply
  | yields found known phase outdated => exact supplied.place rfl (by simp)
  | waits found known remaining half reached =>
      have supply := supplied task _ _ found
      apply supplied.place rfl
      intro pass equal
      cases equal
      exact supply
  | proceeds found known remaining half more =>
      apply supplied.place rfl
      intro pass equal
      cases equal
      exact more
  | ends found known remaining half last => exact supplied.place rfl (by simp)
  | departs found => exact supplied.place rfl (by simp)
  | delivers found => exact supplied.place rfl (by simp)

theorem Supplied.after {pool : Pool engine} (supplied : pool.Supplied) (move : Move) :
    (pool.after move).Supplied := by
  cases move with
  | spawn jobs =>
      intro task others pass found
      simp only [Pool.after, spawn, List.getElem?_append] at found
      split at found
      · exact supplied task others pass found
      · have member := List.mem_of_getElem? found
        simp at member
  | step task => exact supplied.turned (turn_step pool task)
  | evict root => exact supplied
  | evictUnder folder => exact supplied
  | ticket root document =>
      intro task jobs pass found
      exact supplied task jobs pass (by simpa [Pool.after, requestTicket] using found)
  | arm point =>
      simp only [Pool.after, arm]
      split
      · exact supplied
      · exact supplied
  | release =>
      intro task jobs pass found
      simp only [Pool.after, release, List.getElem?_map] at found
      rcases Option.map_eq_some_iff.mp found with ⟨before, foundBefore, equal⟩
      rcases before with ⟨others, activity⟩
      cases activity with
      | running running =>
          have supply := supplied task others running foundBefore
          simp only [Activity.unblock] at equal
          split at equal
          · cases equal
            exact supply
          · cases equal
            exact supply
      | _ => cases equal
  | change files => exact supplied

theorem supplied_run (engine : Engine) (files : FileSystem) (capacity : Nat) (moves : List Move) :
    ((Pool.empty engine files capacity).run moves).Supplied :=
  run_induction (fun _ pool => pool.Supplied) (by simp [Supplied, empty])
    (fun _ _ move supplied => supplied.after move) moves

theorem not_stuck_of_canStep {pool : Pool engine} (tidy : pool.Tidy) (supplied : pool.Supplied)
    {task : Nat} (able : pool.canStep task = true) : ¬ pool.Stuck task := by
  rcases found : pool.tasks[task]? with _ | ⟨jobs, activity⟩
  · simp [canStep, found] at able
  · have handle : ∀ root number, activity.site? = some (root, number) →
        pool.store.handle? number ≠ none := by
      intro root number site missing
      rcases tidy.sited task _ root number found site with ⟨own, rooted, _⟩
      rcases rootOf?_eq_some.mp rooted with ⟨handle, known, _⟩
      rw [missing] at known
      cases known
    intro stuck
    cases activity with
    | idle =>
        have none : jobs = [] := by simpa [Stuck, found] using stuck
        simp [canStep, found, none] at able
    | admitted context number =>
        exact handle context.root number rfl (by simpa [Stuck, found] using stuck)
    | ticketed context number ticket =>
        exact handle context.root number rfl (by simpa [Stuck, found] using stuck)
    | queued context number ticket =>
        simp only [Stuck, found] at stuck
        simp only [canStep, found] at able
        cases known : pool.store.handle? number with
        | none => simp [known] at able
        | some lock => exact stuck lock known (by simpa [known] using able)
    | running pass =>
        simp only [Stuck, found] at stuck
        rcases stuck with missing | blocked | ⟨none, _⟩
        · exact handle pass.context.root pass.handle rfl missing
        · simp [canStep, found, blocked] at able
        · exact supplied task jobs pass found none
    | _ => simp [Stuck, found] at stuck

theorem labour_step {pool : Pool engine} (tidy : pool.Tidy) (supplied : pool.Supplied)
    {task : Nat} (able : pool.canStep task = true) : (pool.step task).labour < pool.labour :=
  (turn_step pool task).labour.resolve_left (not_stuck_of_canStep tidy supplied able)

/-! ## Rest -/

/-- What may happen to a pool that gets no new jobs. -/
def Admits (pool : Pool engine) : Move → Prop
  | .spawn _ => False
  | .step task => pool.canStep task = true
  | _ => True

/-- A run without new jobs, in which only tasks that can move make steps. -/
def Works : Pool engine → List Move → Prop
  | _, [] => True
  | pool, move :: moves => pool.Admits move ∧ (pool.after move).Works moves

def Move.isStep : Move → Bool
  | .step _ => true
  | _ => false

theorem labour_release (pool : Pool engine) : pool.release.labour ≤ pool.labour := by
  have less : ∀ activity : Activity engine, activity.unblock.labour ≤ activity.labour := by
    intro activity
    cases activity with
    | running pass =>
        simp only [Activity.unblock]
        split
        · next blocked => simp [Activity.labour, blocked, Phase.labour]
        · exact Nat.le_refl _
    | _ => exact Nat.le_refl _
  simp only [labour, release]
  induction pool.tasks with
  | nil => exact Nat.le_refl _
  | cons task tasks induction =>
      have lessTask := less task.activity
      simp only [List.map_cons, totalLabour_cons, Task.labour] at induction ⊢
      omega

theorem labour_after {pool : Pool engine} (tidy : pool.Tidy) (supplied : pool.Supplied)
    {move : Move} (admitted : pool.Admits move) :
    (pool.after move).labour + [move].countP Move.isStep ≤ pool.labour := by
  cases move with
  | spawn jobs => exact admitted.elim
  | step task => exact labour_step tidy supplied admitted
  | evict root => exact Nat.le_refl _
  | evictUnder folder => exact Nat.le_refl _
  | ticket root document => simp [Pool.after, requestTicket, labour, Move.isStep]
  | arm point =>
      simp only [Pool.after, arm]
      split
      · exact Nat.le_refl _
      · exact Nat.le_refl _
  | release => exact labour_release pool
  | change files => exact Nat.le_refl _

theorem steps_le_labour {pool : Pool engine} (tidy : pool.Tidy) (supplied : pool.Supplied)
    {moves : List Move} (works : pool.Works moves) : moves.countP Move.isStep ≤ pool.labour := by
  induction moves generalizing pool with
  | nil => exact Nat.zero_le _
  | cons move moves induction =>
      have first := labour_after tidy supplied works.1
      have rest := induction (tidy.after move) (supplied.after move) works.2
      have split : (move :: moves).countP Move.isStep =
          [move].countP Move.isStep + moves.countP Move.isStep := by
        rw [← List.countP_append]
        rfl
      omega

/-- No task can move, and none is held back at a point. -/
def AtRest (pool : Pool engine) : Prop :=
  (∀ task, pool.canStep task = false) ∧
    ∀ task pass, pool.activity? task = some (.running pass) → pass.phase ≠ .blocked

/-- At rest all jobs are done. -/
theorem AtRest.done {pool : Pool engine} (rest : pool.AtRest)
    (orderly : Orderly pool.claim pool.lock) {task : Nat} {current : Task engine}
    (found : pool.tasks[task]? = some current) : current = ⟨[], .idle⟩ := by
  have noneRuns : ∀ other pass, pool.activity? other ≠ some (.running pass) := by
    intro other pass runs
    rcases Option.map_eq_some_iff.mp runs with ⟨running, foundOther, activity⟩
    have idle := rest.1 other
    have blocked := rest.2 other pass runs
    simp [canStep, foundOther, activity, blocked] at idle
  have noneUses : ∀ other number, pool.claim other ≠ .uses number := by
    intro other number uses
    cases activity : pool.activity? other with
    | none => simp [claim, activity] at uses
    | some doing =>
        cases doing with
        | running pass => exact noneRuns other pass activity
        | _ => simp [claim, activity, Activity.claim] at uses
  have noneOwns : ∀ other number, (pool.lock number).owner ≠ some other := by
    intro other number owned
    rcases orderly.owner_claims other number owned with waits | uses
    · -- The owner of a lock that still waits for it can take it.
      rcases known : pool.store.handle? number with _ | handle
      · simp [lock, view, known] at owned
      · rw [lock_of_known known] at owned
        rcases foundOther : pool.tasks[other]? with _ | ⟨jobs, activity⟩
        · simp [claim, activity?, foundOther] at waits
        · cases activity with
          | queued context number' ticket =>
              have same : number' = number := by
                simpa [claim, activity?, foundOther, Activity.claim] using waits
              have idle := rest.1 other
              have owner : handle.owner = some other := owned
              simp [canStep, foundOther, same, known, owner] at idle
          | _ => simp [claim, activity?, foundOther, Activity.claim] at waits
    · exact noneUses other number uses
  have idle := rest.1 task
  rcases current with ⟨jobs, activity⟩
  cases activity with
  | idle =>
      have none : jobs = [] := by simpa [canStep, found] using idle
      rw [none]
  | running pass => exact absurd (by simp [activity?, found]) (noneRuns task pass)
  | queued context number ticket =>
      have waits : pool.claim task = .waits number := by
        simp [claim, activity?, found, Activity.claim]
      rcases orderly.waiter_stands task number waits with inLine | owner
      · cases owned : (pool.lock number).owner with
        | none => simp [orderly.led number owned] at inLine
        | some other => exact absurd owned (noneOwns other number)
      · exact absurd owner (noneOwns task number)
  | _ => simp [canStep, found] at idle

/-! ## Letting tasks move until none of them can -/

theorem canStep_of_next {pool : Pool engine} {task : Nat} (next : pool.nextTask? = some task) :
    pool.canStep task = true :=
  List.find?_some next

theorem nextTask?_eq_none {pool : Pool engine} :
    pool.nextTask? = none ↔ ∀ task, pool.canStep task = false := by
  simp only [nextTask?, List.find?_eq_none, List.mem_range, Bool.not_eq_true]
  constructor
  · intro unable task
    by_cases inRange : task < pool.tasks.length
    · exact unable task inRange
    · have absent : pool.tasks[task]? = none := List.getElem?_eq_none (Nat.le_of_not_lt inRange)
      simp [canStep, absent]
  · intro unable task _
    exact unable task

theorem runFor_induction (Holds : Pool engine → Prop)
    (moved : ∀ pool task, Holds pool → pool.nextTask? = some task → Holds (pool.step task))
    (steps : Nat) {pool : Pool engine} (start : Holds pool) : Holds (runFor steps pool) := by
  induction steps generalizing pool with
  | zero => exact start
  | succ steps induction =>
      unfold runFor
      split
      · exact start
      · next task next => exact induction (moved pool task start next)

/-- With as many steps as there is labour, tasks come to rest. -/
theorem canStep_runFor {pool : Pool engine} (tidy : pool.Tidy) (supplied : pool.Supplied)
    {steps : Nat} (enough : pool.labour ≤ steps) (task : Nat) :
    (runFor steps pool).canStep task = false := by
  induction steps generalizing pool with
  | zero =>
      cases able : pool.canStep task with
      | false => exact able
      | true =>
          have less := labour_step tidy supplied able
          omega
  | succ steps induction =>
      unfold runFor
      split
      · next unable => exact nextTask?_eq_none.mp unable task
      · next other next =>
          have less := labour_step tidy supplied (canStep_of_next next)
          exact induction (tidy.after (.step other)) (supplied.after (.step other))
            (Nat.le_of_lt_succ (Nat.lt_of_lt_of_le less enough))

end TemplateCheck.Pool
