import TemplateCheck.Proofs.Pool.Alone
import TemplateCheck.Proofs.Pool.Progress

/-! # Documents that are checked one by one

A visit checks one document and waits for the end. Files may change between
visits, and handles may come and go. A pool in which all tasks have done their
jobs is idle; after a visit it is idle again and has delivered one more outcome,
which is that of a pass on its own.
-/

namespace TemplateCheck.Pool

open Roots (Ticket Handle Store)

variable {engine : Engine}

/-- A document to check, and the files as they are then. -/
structure Visit where
  files : FileSystem
  checker : Checker
  document : Document

/-- The pool at the start of a visit. -/
def setOut (pool : Pool engine) (visit : Visit) : Pool engine :=
  { pool with files := visit.files }.spawn [.validate visit.checker visit.document]

/-- Check a document and wait for the end. -/
def visit (pool : Pool engine) (visit : Visit) : Pool engine :=
  (pool.setOut visit).settle

/-- Check documents one after the other. -/
def visitAll (pool : Pool engine) (visits : List Visit) : Pool engine :=
  visits.foldl visit pool

namespace Visit

/-- The handle that a visit works on, if it finds a package. -/
def site (visit : Visit) (pool : Pool engine) : Nat :=
  match Pass.arrive visit.files visit.checker visit.document with
  | .error _ => 0
  | .ok context => (pool.request (some pool.tasks.length) context.root).2

/-- The log of a visit before its first stage. -/
def opened (visit : Visit) (pool : Pool engine) : List (Event engine) :=
  match Pass.arrive visit.files visit.checker visit.document with
  | .error _ => pool.log
  | .ok context => (pool.request (some pool.tasks.length) context.root).1.log

/-- The pass of a visit, on its own. -/
def finished (visit : Visit) (pool : Pool engine) : Pass.Finished engine :=
  Pass.validate visit.files visit.checker visit.document (pool.registries (visit.site pool))

def mission (visit : Visit) (pool : Pool engine) : Mission engine where
  task := pool.tasks.length
  document := visit.document
  site := visit.site pool
  opened := visit.opened pool
  goal := visit.finished pool

end Visit

/-- A pool that is in order. -/
structure Sound (pool : Pool engine) : Prop where
  tidy : pool.Tidy
  supplied : pool.Supplied
  orderly : Orderly pool.claim pool.lock

theorem Sound.after {pool : Pool engine} (sound : pool.Sound) (move : Move) :
    (pool.after move).Sound where
  tidy := sound.tidy.after move
  supplied := sound.supplied.after move
  orderly := orderly_after sound.orderly move

/-- Every task has done its jobs, and no answer is to be held back. -/
structure Idle (pool : Pool engine) : Prop where
  sound : pool.Sound
  unarmed : pool.armed = []
  done : ∀ task ∈ pool.tasks, task = ⟨[], .idle⟩

theorem idle_empty (engine : Engine) (files : FileSystem) (capacity : Nat) :
    (Pool.empty engine files capacity).Idle where
  sound := ⟨tidy_empty engine files capacity, supplied_run engine files capacity [],
    orderly_empty engine files capacity⟩
  unarmed := rfl
  done := by simp [empty]

/-- A pool in which only the newest task has something to do. -/
structure Solo (before : Pool engine) (mission : Mission engine) (pool : Pool engine) : Prop where
  sound : pool.Sound
  unarmed : pool.armed = []
  leads : ∃ current deliveries, pool.tasks = before.tasks ++ [current] ∧
    pool.deliveries = before.deliveries ++ deliveries ∧ mission.Leads pool current deliveries

theorem Turn.unarmed {pool next : Pool engine} {task : Nat} {deeds : List (Deed engine)}
    (turn : Turn pool task deeds next) (unarmed : pool.armed = []) : next.armed = [] := by
  cases turn with
  | enters found =>
      rw [← unarmed]
      exact request_armed pool _ _
  | waits found known remaining half reached =>
      cases reached with
      | free => exact unarmed
      | held armed =>
          rw [unarmed] at armed
          cases armed
  | _ => exact unarmed

section

variable {before pool : Pool engine} {visit : Visit}

theorem Idle.getElem? (idle : before.Idle) {task : Nat} {current : Task engine}
    (found : before.tasks[task]? = some current) : current = ⟨[], .idle⟩ :=
  idle.done current (List.mem_of_getElem? found)

/-- The tasks of an idle pool and one more. -/
private theorem found_of_solo {tasks : List (Task engine)} {current other : Task engine}
    {task : Nat} (found : (tasks ++ [current])[task]? = some other) :
    tasks[task]? = some other ∨ task = tasks.length ∧ other = current := by
  rw [List.getElem?_append] at found
  split at found
  · exact Or.inl found
  · next beyond =>
      have index : task - tasks.length = 0 := by
        have inRange := (List.getElem?_eq_some_iff.mp found).1
        simp only [List.length_singleton] at inRange
        omega
      rw [index] at found
      exact Or.inr ⟨by omega, (Option.some.inj found).symm⟩

theorem Solo.step (idle : before.Idle) (solo : Solo before (visit.mission before) pool)
    {task : Nat} (next : pool.nextTask? = some task) :
    Solo before (visit.mission before) (pool.step task) := by
  rcases solo.leads with ⟨current, deliveries, tasks, delivered, leads⟩
  have others : ∀ other task, pool.tasks[task]? = some other → task ≠ before.tasks.length →
      other = ⟨[], .idle⟩ := by
    intro other task found different
    rw [tasks] at found
    rcases found_of_solo found with early | ⟨last, _⟩
    · exact idle.getElem? early
    · exact absurd last different
  have own : task = before.tasks.length := by
    have able := canStep_of_next next
    by_contra different
    cases found : pool.tasks[task]? with
    | none => simp [canStep, found] at able
    | some other =>
        have isDone := others other task found different
        simp [canStep, found, isDone] at able
  have alone : ∀ other, other ≠ before.tasks.length → pool.claim other = .none := by
    intro other different
    cases found : pool.tasks[other]? with
    | none => simp [claim, activity?, found]
    | some task =>
        rw [claim_of_found found, others task other found different]
        rfl
  subst own
  have turn := turn_step pool before.tasks.length
  have found : pool.tasks[before.tasks.length]? = some current := by simp [tasks]
  rcases leads.turned found solo.unarmed solo.sound.orderly alone turn with
    ⟨later, more, foundLater, deliveredMore, leadsOn⟩
  refine ⟨solo.sound.after (.step _), turn.unarmed solo.unarmed, later, deliveries ++ more, ?_, ?_,
    leadsOn⟩
  · apply List.ext_getElem?
    intro index
    by_cases same : index = before.tasks.length
    · subst same
      exact foundLater.trans (by simp)
    · rw [turn.tasks.2 index same, tasks, List.getElem?_append, List.getElem?_append]
      split
      · rfl
      · next beyond =>
          have behind : 1 ≤ index - before.tasks.length := by omega
          rw [List.getElem?_eq_none (by simpa using behind),
            List.getElem?_eq_none (by simpa using behind)]
  · rw [deliveredMore, delivered, List.append_assoc]

theorem holds_setOut (pool : Pool engine) (visit : Visit) :
    (pool.setOut visit).holds = pool.holds := by
  funext number
  simp [holds, setOut, spawn, Activity.handle?]

theorem setsOut_mission (pool : Pool engine) (visit : Visit) :
    (visit.mission pool).SetsOut (pool.setOut visit) visit.checker := by
  have sameHolders := holds_setOut pool visit
  have sameStore : (pool.setOut visit).store = pool.store := rfl
  have sameLog : (pool.setOut visit).log = pool.log := rfl
  unfold Mission.SetsOut
  change match Pass.arrive visit.files visit.checker visit.document with
    | .error outcome => _
    | .ok context => _
  cases arrived : Pass.arrive visit.files visit.checker visit.document with
  | error outcome =>
      constructor
      · simp [Visit.mission, Visit.opened, arrived, sameLog]
      · simp only [Visit.mission, Visit.finished, Pass.validate, arrived]
        rfl
  | ok context =>
      constructor
      case own => exact Pass.arrive_document arrived
      case site =>
        rw [request_number, sameHolders, sameStore]
        simp only [Visit.mission, Visit.site, arrived, request_number]
      case opened =>
        rw [request_log, sameHolders, sameStore, sameLog]
        simp only [Visit.mission, Visit.opened, arrived, request_log]
      case goal =>
        simp only [Visit.mission, Visit.finished, Pass.validate, arrived]
        rfl

/-- The start of a visit. -/
theorem Idle.solo (idle : before.Idle) (visit : Visit) :
    Solo before (visit.mission before) (before.setOut visit) where
  sound := (idle.sound.after (.change visit.files)).after
    (.spawn [.validate visit.checker visit.document])
  unarmed := idle.unarmed
  leads := ⟨_, [], rfl, by simp [setOut, spawn], .waiting (setsOut_mission before visit)⟩

theorem totalLabour_done {tasks : List (Task engine)} (done : ∀ task ∈ tasks, task = ⟨[], .idle⟩) :
    totalLabour tasks = 0 := by
  induction tasks with
  | nil => rfl
  | cons task tasks induction =>
      have first := done task List.mem_cons_self
      have rest := induction fun other member => done other (List.mem_cons_of_mem _ member)
      rw [totalLabour_cons, first, rest]
      rfl

theorem Idle.labour_setOut (idle : before.Idle) (visit : Visit) :
    (before.setOut visit).labour ≤ (before.setOut visit).stepBound := by
  have labour : (before.setOut visit).labour = totalLabour before.tasks + 28 :=
    totalLabour_append before.tasks _
  have bound : 48 ≤ (before.setOut visit).stepBound := by
    simp [stepBound, setOut, spawn, stepsPerJob, List.foldl_append]
  rw [totalLabour_done idle.done] at labour
  omega

/-- After a visit all tasks have done their jobs again, and the pass of the visit
is delivered. -/
theorem Idle.visited (idle : before.Idle) (visit : Visit) :
    (before.visit visit).Idle ∧
      (before.visit visit).deliveries = before.deliveries ++
        [⟨before.tasks.length, visit.document, (visit.finished before).outcome⟩] ∧
      (visit.mission before).Attained (before.visit visit) := by
  have start := idle.solo visit
  have ended : Solo before (visit.mission before) (before.visit visit) :=
    runFor_induction (Solo before (visit.mission before))
      (fun _ _ solo next => Solo.step idle solo next) _ start
  have unable := canStep_runFor start.sound.tidy start.sound.supplied (idle.labour_setOut visit)
  rcases ended.leads with ⟨current, deliveries, tasks, delivered, leads⟩
  have rest : (before.visit visit).AtRest := by
    refine ⟨unable, ?_⟩
    intro task pass runs
    rcases Option.map_eq_some_iff.mp runs with ⟨running, found, activity⟩
    rw [tasks] at found
    rcases found_of_solo found with early | ⟨_, last⟩
    · rw [idle.getElem? early] at activity
      cases activity
    · rw [last] at activity
      cases leads with
      | running carries =>
          cases activity
          exact carries.free
      | _ => cases activity
  have found : (before.visit visit).tasks[before.tasks.length]? = some current := by simp [tasks]
  have isDone : current = ⟨[], .idle⟩ := rest.done ended.sound.orderly found
  refine ⟨⟨ended.sound, ended.unarmed, ?_⟩, ?_⟩
  · intro task member
    rw [tasks, isDone] at member
    rcases List.mem_append.mp member with early | last
    · exact idle.done task early
    · exact List.mem_singleton.mp last
  · rw [isDone] at leads
    cases leads with
    | delivered attained => exact ⟨delivered, attained⟩

theorem visitAll_snoc (pool : Pool engine) (earlier : List Visit) (last : Visit) :
    pool.visitAll (earlier ++ [last]) = (pool.visitAll earlier).visit last := by
  simp [visitAll]

theorem Idle.visitAll (idle : before.Idle) (visits : List Visit) :
    (before.visitAll visits).Idle := by
  induction visits generalizing before with
  | nil => exact idle
  | cons visit visits induction => exact induction (idle.visited visit).1

end

end TemplateCheck.Pool
