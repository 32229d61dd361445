import TemplateCheck.Pool

/-! # Runs of a pool

A pool moves when a task makes a step, and when something happens to it from
outside: tasks are started, roots are evicted, tickets are taken, files change,
the engine's answers are held back or given. A run is any sequence of moves, so
what is said of all runs holds for every order of the steps of all tasks.

What passes do at their roots is told by deeds, each with the handle and the
ticket of its pass. A step of a task is one of few turns, and everything about
runs is derived from what a turn does.
-/

namespace TemplateCheck.Pool

open Roots (Ticket Handle Store)

variable {engine : Engine}

/-- One thing that can happen to a pool. -/
inductive Move where
  | spawn (jobs : List Job)
  | step (task : Nat)
  | evict (root : Path)
  | evictUnder (folder : Path)
  | ticket (root : Path) (document : Uri)
  | arm (point : Pass.Point)
  | release
  | change (files : FileSystem)

def after (pool : Pool engine) : Move → Pool engine
  | .spawn jobs => pool.spawn jobs
  | .step task => pool.step task
  | .evict root => (pool.evict root).1
  | .evictUnder folder => (pool.evictUnder folder).1
  | .ticket root document => (pool.requestTicket root document).1
  | .arm point => pool.arm point
  | .release => pool.release
  | .change files => { pool with files }

/-- The pool after a run. -/
def run (pool : Pool engine) (moves : List Move) : Pool engine :=
  moves.foldl after pool

/-- What a pass does at its root. A ticket is issued to a task, or to somebody
outside of all tasks. -/
inductive Deed (engine : Engine) where
  | issued (task : Option Nat) (handle : Nat) (ticket : Ticket)
  | checked (handle : Nat) (ticket : Ticket) (isCurrent : Bool)
  | started (handle : Nat) (ticket : Ticket) (stage : Stage)
  | did (handle : Nat) (ticket : Ticket) (action : Action engine.Template)
  | ended (handle : Nat) (ticket : Ticket) (outcome : Outcome)

def activity? (pool : Pool engine) (task : Nat) : Option (Activity engine) :=
  pool.tasks[task]?.map Task.activity

/-- What the log tells of a pass between two pools. -/
def workBetween (before next : Pool engine) (pass : Running engine) : List (Deed engine) :=
  (next.log.drop before.log.length).filterMap fun
    | .did _ action => some (.did pass.handle pass.ticket action)
    | .blocked _ _ => none

/-- The end of a pass that is leaving its root. -/
def endOf (next : Pool engine) (task : Nat) (pass : Running engine) : List (Deed engine) :=
  match next.activity? task with
  | some (.leaving _ _ outcome) => [.ended pass.handle pass.ticket outcome]
  | _ => []

/-- What a running pass is about to do. -/
def opening (pool : Pool engine) (pass : Running engine) : List (Deed engine) :=
  match pool.store.handle? pass.handle, pass.phase with
  | some handle, .check => [.checked pass.handle pass.ticket (handle.isCurrent pass.ticket)]
  | some _, .start => pass.remaining.head?.toList.map (.started pass.handle pass.ticket)
  | _, _ => []

/-- The deeds of one step of a task. -/
def deedsOfStep (pool : Pool engine) (task : Nat) : List (Deed engine) :=
  match pool.activity? task with
  | some (.admitted context handle) =>
      (pool.store.issue handle context.document.uri).2.toList.map (.issued (some task) handle)
  | some (.running pass) =>
      let next := pool.step task
      pool.opening pass ++ pool.workBetween next pass ++ next.endOf task pass
  | _ => []

/-- The deeds of a move. -/
def deedsOf (pool : Pool engine) : Move → List (Deed engine)
  | .step task => pool.deedsOfStep task
  | .ticket root document =>
      let (pool, handle) := pool.request none root
      (pool.store.issue handle document).2.toList.map (.issued none handle)
  | _ => []

/-- The deeds of a run, in their order. -/
def deeds (pool : Pool engine) : List Move → List (Deed engine)
  | [] => []
  | move :: moves => pool.deedsOf move ++ (pool.after move).deeds moves

/-- What holds at the start and is kept by every move of a run holds after it, of
the deeds so far and the pool. -/
theorem run_induction_of_mem (Holds : List (Deed engine) → Pool engine → Prop)
    {pool : Pool engine} (start : Holds [] pool) (moves : List Move)
    (moved : ∀ deeds pool move, move ∈ moves → Holds deeds pool →
      Holds (deeds ++ pool.deedsOf move) (pool.after move)) :
    Holds (pool.deeds moves) (pool.run moves) := by
  have general : ∀ (rest : List Move) (before : List (Deed engine)) (pool : Pool engine),
      (∀ move ∈ rest, move ∈ moves) → Holds before pool →
      Holds (before ++ pool.deeds rest) (pool.run rest) := by
    intro rest
    induction rest with
    | nil =>
        intro before pool _ holds
        simpa [deeds, run] using holds
    | cons move rest induction =>
        intro before pool within holds
        have later := induction (before ++ pool.deedsOf move) (pool.after move)
          (fun other member => within other (List.mem_cons_of_mem _ member))
          (moved before pool move (within move List.mem_cons_self) holds)
        simpa only [deeds, run, List.append_assoc, List.foldl_cons] using later
  simpa using general moves [] pool (fun _ member => member) start

theorem run_induction (Holds : List (Deed engine) → Pool engine → Prop) {pool : Pool engine}
    (start : Holds [] pool)
    (moved : ∀ deeds pool move, Holds deeds pool →
      Holds (deeds ++ pool.deedsOf move) (pool.after move))
    (moves : List Move) : Holds (pool.deeds moves) (pool.run moves) :=
  run_induction_of_mem Holds start moves fun deeds pool move _ => moved deeds pool move

/-! ## Turns -/

@[simp] theorem noteApproach_tasks (pool : Pool engine) (task : Nat) (manifests : List Path) :
    (pool.noteApproach task manifests).tasks = pool.tasks := rfl

@[simp] theorem noteApproach_deliveries (pool : Pool engine) (task : Nat)
    (manifests : List Path) :
    (pool.noteApproach task manifests).deliveries = pool.deliveries := rfl

@[simp] theorem noteApproach_nil (pool : Pool engine) (task : Nat) :
    pool.noteApproach task [] = pool := by
  simp [noteApproach]

/-- Put a task in the place of the one with its number. -/
def place (pool : Pool engine) (number : Nat) (task : Task engine) : Pool engine :=
  { pool with tasks := pool.tasks.set number task }

/-- What half a stage leaves: the work done, and the verdict if the stage is
over. -/
inductive HalfStage (files : FileSystem) (context : Pass.Context) (work : Pass.Work engine)
    (stage : Stage) : Phase → Pass.Work engine → Option Verdict → Prop
  | decided {result : Pass.Work engine} {verdict : Verdict}
      (equal : Pass.start files context work stage = (result, .over verdict)) :
      HalfStage files context work stage .start result (some verdict)
  | waiting {result : Pass.Work engine}
      (equal : Pass.start files context work stage = (result, .waiting)) :
      HalfStage files context work stage .start result none
  | finished {result : Pass.Work engine} {verdict : Verdict}
      (equal : Pass.finish files context work stage = (result, verdict)) :
      HalfStage files context work stage .finish result (some verdict)

/-- The outcome of a pass whose last stage has ended. -/
def outcomeOf (pass : Running engine) (stage : Stage) (report : Report) : Verdict → Outcome
  | .broken => .broken
  | verdict => .completed
      ⟨some pass.context.root, pass.stages ++ [⟨stage, verdict == .passed⟩], report⟩

/-- The registries of a handle after some work. -/
def withWork (work : Pass.Work engine) (handle : Handle engine) : Handle engine :=
  { handle with models := work.models, logic := work.logic }

/-- The pool after work on a handle, as far as all other tasks see it. -/
def worked (pool : Pool engine) (task : Nat) (number : Nat) (work : Pass.Work engine) :
    Pool engine :=
  { pool with
    store := pool.store.change number (withWork work)
    log := pool.log ++ work.actions.map (.did (some task)) }

/-- The registries of a handle go to the next task. -/
def unlock (pool : Pool engine) (number : Nat) : Pool engine :=
  { pool with store := pool.store.change number Handle.release }

/-- The points are armed anew and events are noted. -/
def rearm (pool : Pool engine) (armed : List Pass.Point) (events : List (Event engine)) :
    Pool engine :=
  { pool with armed, log := pool.log ++ events }

/-- The deeds of a pass in half a stage. -/
def workDeeds (pass : Running engine) (stage : Stage) (work : Pass.Work engine) :
    List (Deed engine) :=
  (if pass.phase = .start then [.started pass.handle pass.ticket stage] else []) ++
    work.actions.map (.did pass.handle pass.ticket)

/-- How a task waits for the engine: at an armed point, which it disarms, it is
held back. -/
inductive Reached (pool : Pool engine) (task : Nat) :
    Phase → List Pass.Point → List (Event engine) → Prop
  | free : Reached pool task .finish pool.armed []
  | held {point : Pass.Point} (armed : point ∈ pool.armed) :
      Reached pool task .blocked (pool.armed.erase point) [.blocked task point]

/-- A task that cannot move. -/
def Stuck (pool : Pool engine) (task : Nat) : Prop :=
  match pool.tasks[task]? with
  | none => True
  | some current =>
      match current.activity with
      | .idle => current.jobs = []
      | .admitted _ number => pool.store.handle? number = none
      | .ticketed _ number _ => pool.store.handle? number = none
      | .queued _ number _ =>
          ∀ handle, pool.store.handle? number = some handle → handle.owner ≠ some task
      | .running pass =>
          pool.store.handle? pass.handle = none ∨ pass.phase = .blocked ∨
            (pass.remaining = [] ∧ pass.phase ≠ .check)
      | _ => False

/-- The turns that a step of a task can be, each with its deeds and the pool
after it. -/
inductive Turn (pool : Pool engine) (task : Nat) : List (Deed engine) → Pool engine → Prop
  | halts (stuck : pool.Stuck task) : Turn pool task [] pool
  | takesUp {checker : Checker} {document : Document} {jobs : List Job}
      (found : pool.tasks[task]? = some ⟨.validate checker document :: jobs, .idle⟩) :
      Turn pool task [] (pool.place task ⟨jobs, .arriving checker document⟩)
  | evicts {folder : Path} {jobs : List Job}
      (found : pool.tasks[task]? = some ⟨.evictUnder folder :: jobs, .idle⟩) :
      Turn pool task []
        ({ pool with store := (pool.store.evictUnder pool.holds folder).1 }.place task ⟨jobs, .idle⟩)
  | turnsBack {checker : Checker} {document : Document} {jobs : List Job} {outcome : Outcome}
      (found : pool.tasks[task]? = some ⟨jobs, .arriving checker document⟩)
      (arrived : Pass.arrive pool.files checker document = .error outcome) :
      Turn pool task []
        ((pool.noteApproach task (Pass.manifestsRead pool.files checker document)).place task
          ⟨jobs, .returned document outcome⟩)
  | arrives {checker : Checker} {document : Document} {jobs : List Job} {context : Pass.Context}
      (found : pool.tasks[task]? = some ⟨jobs, .arriving checker document⟩)
      (arrived : Pass.arrive pool.files checker document = .ok context) :
      Turn pool task []
        ((pool.noteApproach task (Pass.manifestsRead pool.files checker document)).place task
          ⟨jobs, .rooted context⟩)
  | enters {context : Pass.Context} {jobs : List Job}
      (found : pool.tasks[task]? = some ⟨jobs, .rooted context⟩) :
      Turn pool task [] ((pool.request (some task) context.root).1.place task
        ⟨jobs, .admitted context (pool.request (some task) context.root).2⟩)
  | registers {context : Pass.Context} {jobs : List Job} {number : Nat} {handle : Handle engine}
      (found : pool.tasks[task]? = some ⟨jobs, .admitted context number⟩)
      (known : pool.store.handle? number = some handle) :
      Turn pool task [.issued (some task) number (handle.issue context.document.uri).2]
        ({ pool with
            store := pool.store.change number fun _ => (handle.issue context.document.uri).1 }.place
          task ⟨jobs, .ticketed context number (handle.issue context.document.uri).2⟩)
  | locks {context : Pass.Context} {jobs : List Job} {number : Nat} {ticket : Ticket}
      {handle : Handle engine}
      (found : pool.tasks[task]? = some ⟨jobs, .ticketed context number ticket⟩)
      (known : pool.store.handle? number = some handle) (isFree : handle.owner = none) :
      Turn pool task []
        ({ pool with
            store := pool.store.change number fun _ => { handle with owner := some task } }.place
          task ⟨jobs, .running
            { context, handle := number, ticket, remaining := stagesFor context.kind }⟩)
  | queues {context : Pass.Context} {jobs : List Job} {number : Nat} {ticket : Ticket}
      {handle : Handle engine} {other : Nat}
      (found : pool.tasks[task]? = some ⟨jobs, .ticketed context number ticket⟩)
      (known : pool.store.handle? number = some handle) (owned : handle.owner = some other) :
      Turn pool task []
        ({ pool with
            store := pool.store.change number fun _ =>
              { handle with waiting := handle.waiting ++ [task] } }.place
          task ⟨jobs, .queued context number ticket⟩)
  | resumes {context : Pass.Context} {jobs : List Job} {number : Nat} {ticket : Ticket}
      {handle : Handle engine}
      (found : pool.tasks[task]? = some ⟨jobs, .queued context number ticket⟩)
      (known : pool.store.handle? number = some handle) (owned : handle.owner = some task) :
      Turn pool task []
        (pool.place task ⟨jobs, .running
          { context, handle := number, ticket, remaining := stagesFor context.kind }⟩)
  | passes {pass : Running engine} {jobs : List Job} {handle : Handle engine}
      (found : pool.tasks[task]? = some ⟨jobs, .running pass⟩)
      (known : pool.store.handle? pass.handle = some handle) (phase : pass.phase = .check)
      (current : handle.isCurrent pass.ticket = true) :
      Turn pool task [.checked pass.handle pass.ticket true]
        (pool.place task ⟨jobs, .running { pass with phase := .start }⟩)
  | yields {pass : Running engine} {jobs : List Job} {handle : Handle engine}
      (found : pool.tasks[task]? = some ⟨jobs, .running pass⟩)
      (known : pool.store.handle? pass.handle = some handle) (phase : pass.phase = .check)
      (outdated : handle.isCurrent pass.ticket = false) :
      Turn pool task
        [.checked pass.handle pass.ticket false, .ended pass.handle pass.ticket .superseded]
        ((pool.unlock pass.handle).place task
          ⟨jobs, .leaving pass.handle pass.context.document .superseded⟩)
  | waits {pass : Running engine} {jobs : List Job} {handle : Handle engine} {stage : Stage}
      {rest : List Stage} {work : Pass.Work engine} {armed : List Pass.Point}
      {events : List (Event engine)} {phase : Phase}
      (found : pool.tasks[task]? = some ⟨jobs, .running pass⟩)
      (known : pool.store.handle? pass.handle = some handle)
      (remaining : pass.remaining = stage :: rest)
      (half : HalfStage pool.files pass.context (workOf handle pass) stage pass.phase work none)
      (reached : Reached pool task phase armed events) :
      Turn pool task (workDeeds pass stage work)
        (((pool.worked task pass.handle work).rearm armed events).place task
          ⟨jobs, .running
            { pass with template := work.template, report := work.report, phase }⟩)
  | proceeds {pass : Running engine} {jobs : List Job} {handle : Handle engine} {stage : Stage}
      {rest : List Stage} {work : Pass.Work engine}
      (found : pool.tasks[task]? = some ⟨jobs, .running pass⟩)
      (known : pool.store.handle? pass.handle = some handle)
      (remaining : pass.remaining = stage :: rest)
      (half : HalfStage pool.files pass.context (workOf handle pass) stage pass.phase work
        (some .passed)) (more : rest ≠ []) :
      Turn pool task (workDeeds pass stage work)
        ((pool.worked task pass.handle work).place task
          ⟨jobs, .running { pass with
            template := work.template
            report := work.report
            stages := pass.stages ++ [⟨stage, true⟩]
            remaining := rest
            phase := .check }⟩)
  | ends {pass : Running engine} {jobs : List Job} {handle : Handle engine} {stage : Stage}
      {rest : List Stage} {work : Pass.Work engine} {verdict : Verdict}
      (found : pool.tasks[task]? = some ⟨jobs, .running pass⟩)
      (known : pool.store.handle? pass.handle = some handle)
      (remaining : pass.remaining = stage :: rest)
      (half : HalfStage pool.files pass.context (workOf handle pass) stage pass.phase work
        (some verdict)) (last : verdict = .passed → rest = []) :
      Turn pool task
        (workDeeds pass stage work ++
          [.ended pass.handle pass.ticket (outcomeOf pass stage work.report verdict)])
        (((pool.worked task pass.handle work).unlock pass.handle).place task
          ⟨jobs, .leaving pass.handle pass.context.document
            (outcomeOf pass stage work.report verdict)⟩)
  | departs {number : Nat} {document : Document} {outcome : Outcome} {jobs : List Job}
      (found : pool.tasks[task]? = some ⟨jobs, .leaving number document outcome⟩) :
      Turn pool task [] (pool.place task ⟨jobs, .returned document outcome⟩)
  | delivers {document : Document} {outcome : Outcome} {jobs : List Job}
      (found : pool.tasks[task]? = some ⟨jobs, .returned document outcome⟩) :
      Turn pool task []
        ({ pool with deliveries := pool.deliveries ++ [Delivery.mk task document outcome] }.place task
          ⟨if outcome = Outcome.broken then [] else jobs, .idle⟩)

/-! Every step is one of these turns. -/

theorem modify_eq_set {item : Type} {items : List item} {index : Nat} {current : item}
    (found : items[index]? = some current) (edit : item → item) :
    items.modify index edit = items.set index (edit current) := by
  apply List.ext_getElem?
  intro other
  by_cases equal : index = other
  · subst equal
    rcases List.getElem?_eq_some_iff.mp found with ⟨inRange, value⟩
    simp [inRange, value]
  · simp [equal]

theorem modify_set {item : Type} (items : List item) (index : Nat) (new : item)
    (edit : item → item) : (items.set index new).modify index edit = items.set index (edit new) := by
  by_cases inRange : index < items.length
  · have placed : (items.set index new)[index]? = some new := by simp [inRange]
    rw [modify_eq_set placed, List.set_set]
  · have outside : items.length ≤ index := by omega
    simp [List.set_eq_of_length_le outside, List.modify_eq_self outside]

theorem setActivity_eq_place {pool next : Pool engine} {task : Nat} {jobs : List Job}
    {old : Activity engine} (found : pool.tasks[task]? = some ⟨jobs, old⟩)
    (sameTasks : next.tasks = pool.tasks) (activity : Activity engine) :
    next.setActivity task activity = next.place task ⟨jobs, activity⟩ := by
  rw [← sameTasks] at found
  simp [setActivity, place, modify_eq_set found]

theorem activity?_place {pool next : Pool engine} {task : Nat} {old : Task engine}
    (found : pool.tasks[task]? = some old) (sameTasks : next.tasks = pool.tasks)
    (new : Task engine) : (next.place task new).activity? task = some new.activity := by
  have inRange : task < pool.tasks.length := (List.getElem?_eq_some_iff.mp found).1
  simp [activity?, place, sameTasks, inRange]

theorem holds_iff {pool : Pool engine} {number : Nat} :
    pool.holds number = true ↔
      ∃ (task : Nat) (current : Task engine), pool.tasks[task]? = some current ∧
        current.activity.handle? = some number := by
  simp only [holds, List.any_eq_true, beq_iff_eq]
  constructor
  · rintro ⟨current, member, equal⟩
    rcases List.getElem?_of_mem member with ⟨task, found⟩
    exact ⟨task, current, found, equal⟩
  · rintro ⟨task, current, found, equal⟩
    exact ⟨current, List.mem_of_getElem? found, equal⟩

/-- A task that keeps its handle leaves the holders as they are. -/
theorem holds_place {pool : Pool engine} {task : Nat} {old new : Task engine}
    (found : pool.tasks[task]? = some old)
    (sameHandle : new.activity.handle? = old.activity.handle?) :
    (pool.place task new).holds = pool.holds := by
  funext number
  rw [Bool.eq_iff_iff, holds_iff, holds_iff]
  have inRange : task < pool.tasks.length := (List.getElem?_eq_some_iff.mp found).1
  constructor
  · rintro ⟨other, current, foundOther, equal⟩
    by_cases same : task = other
    · subst same
      have placed : new = current := by simpa [place, inRange] using foundOther
      exact ⟨task, old, found, by rw [← sameHandle, placed, equal]⟩
    · exact ⟨other, current, by simpa [place, same] using foundOther, equal⟩
  · rintro ⟨other, current, foundOther, equal⟩
    by_cases same : task = other
    · subst same
      have unchanged : old = current := by simpa [found] using foundOther
      exact ⟨task, new, by simp [place, inRange], by rw [sameHandle, unchanged, equal]⟩
    · exact ⟨other, current, by simpa [place, same] using foundOther, equal⟩

@[simp] theorem request_tasks (pool : Pool engine) (task : Option Nat) (root : Path) :
    (pool.request task root).1.tasks = pool.tasks := by
  simp only [request]
  split <;> rfl

theorem deedsOfStep_running {pool : Pool engine} {task : Nat} {jobs : List Job}
    {pass : Running engine} (found : pool.tasks[task]? = some ⟨jobs, .running pass⟩) :
    pool.deedsOfStep task =
      pool.opening pass ++ pool.workBetween (pool.step task) pass ++
        (pool.step task).endOf task pass := by
  simp [deedsOfStep, activity?, found]

/-- The log tells of the work and not of the points that hold it back. -/
theorem workBetween_append (pool next : Pool engine) (task : Nat)
    (actions : List (Action engine.Template)) (points : List (Nat × Pass.Point))
    (log : next.log = pool.log ++ actions.map (.did (some task)) ++
      points.map fun point => .blocked point.1 point.2) (pass : Running engine) :
    pool.workBetween next pass = actions.map (.did pass.handle pass.ticket) := by
  simp only [workBetween, log, List.append_assoc, List.drop_left, List.filterMap_append,
    List.filterMap_map]
  -- Each action is told of, and no point.
  change actions.filterMap (some ∘ Deed.did pass.handle pass.ticket) ++
    points.filterMap (fun _ => none) = _
  rw [List.filterMap_eq_map, List.filterMap_eq_nil_iff.mpr fun _ _ => rfl, List.append_nil]

private theorem turn_check {pool : Pool engine} {task : Nat} {jobs : List Job}
    {pass : Running engine} (found : pool.tasks[task]? = some ⟨jobs, .running pass⟩)
    {handle : Handle engine} (known : pool.store.handle? pass.handle = some handle)
    (phase : pass.phase = .check) : Turn pool task (pool.deedsOfStep task) (pool.step task) := by
  have opened : pool.opening pass =
      [.checked pass.handle pass.ticket (handle.isCurrent pass.ticket)] := by
    simp [opening, phase, known]
  cases current : handle.isCurrent pass.ticket with
  | true =>
      have stepped : pool.step task =
          pool.place task ⟨jobs, .running { pass with phase := .start }⟩ := by
        simp [step, found, stepRunning, known, phase, current, setActivity_eq_place found]
      have log : pool.workBetween (pool.step task) pass = [] := by
        simp [workBetween, stepped, place]
      have goesOn : (pool.step task).endOf task pass = [] := by
        simp [endOf, stepped, activity?_place found]
      rw [deedsOfStep_running found, log, goesOn, opened, stepped, current]
      exact .passes found known phase current
  | false =>
      have stepped : pool.step task =
          (pool.unlock pass.handle).place task
            ⟨jobs, .leaving pass.handle pass.context.document .superseded⟩ := by
        simp [step, found, stepRunning, known, phase, current, conclude, unlock,
          setActivity_eq_place found]
      have log : pool.workBetween (pool.step task) pass = [] := by
        simp [workBetween, stepped, place, unlock]
      have ended : (pool.step task).endOf task pass =
          [.ended pass.handle pass.ticket .superseded] := by
        simp [endOf, stepped, unlock, activity?_place found]
      rw [deedsOfStep_running found, log, ended, opened, stepped, current]
      exact .yields found known phase current

private theorem opening_of_work {pool : Pool engine} {pass : Running engine}
    {handle : Handle engine} (known : pool.store.handle? pass.handle = some handle)
    {stage : Stage} {rest : List Stage} (remaining : pass.remaining = stage :: rest)
    (phase : pass.phase = .start ∨ pass.phase = .finish) :
    pool.opening pass =
      if pass.phase = .start then [.started pass.handle pass.ticket stage] else [] := by
  rcases phase with phase | phase <;> simp [opening, known, phase, remaining]

/-- A stage that is over ends the pass or leads to the next check. -/
private theorem turn_record {pool : Pool engine} {task : Nat} {jobs : List Job}
    {pass : Running engine} (found : pool.tasks[task]? = some ⟨jobs, .running pass⟩)
    {handle : Handle engine} (known : pool.store.handle? pass.handle = some handle)
    {stage : Stage} {rest : List Stage} (remaining : pass.remaining = stage :: rest)
    {work : Pass.Work engine} {verdict : Verdict}
    (phase : pass.phase = .start ∨ pass.phase = .finish)
    (half : HalfStage pool.files pass.context (workOf handle pass) stage pass.phase work
      (some verdict))
    (stepped : pool.step task = (pool.worked task pass.handle work).record task
      { pass with template := work.template, report := work.report } stage rest verdict) :
    Turn pool task (pool.deedsOfStep task) (pool.step task) := by
  have opened := opening_of_work known remaining phase
  by_cases goesOn : verdict = .passed ∧ rest ≠ []
  · rcases goesOn with ⟨passed, more⟩
    subst passed
    have next : pool.step task = (pool.worked task pass.handle work).place task
        ⟨jobs, .running { pass with
          template := work.template
          report := work.report
          stages := pass.stages ++ [⟨stage, true⟩]
          remaining := rest
          phase := .check }⟩ := by
      simp [stepped, record, more, setActivity_eq_place found, worked]
    have log := workBetween_append pool (pool.step task) task work.actions []
      (by simp [next, place, worked]) pass
    have running : (pool.step task).endOf task pass = [] := by
      simp [endOf, next, activity?_place found, worked]
    rw [deedsOfStep_running found, log, running, opened, next, List.append_nil]
    exact .proceeds found known remaining half more
  · have last : verdict = .passed → rest = [] := by
      intro passed
      by_cases more : rest = []
      · exact more
      · exact absurd ⟨passed, more⟩ goesOn
    have next : pool.step task =
        ((pool.worked task pass.handle work).unlock pass.handle).place task
          ⟨jobs, .leaving pass.handle pass.context.document
            (outcomeOf pass stage work.report verdict)⟩ := by
      rw [stepped]
      cases verdict with
      | passed =>
          simp [record, last rfl, conclude, outcomeOf, setActivity_eq_place found, worked, unlock]
      | failed =>
          simp [record, conclude, outcomeOf, setActivity_eq_place found, worked, unlock]
      | aborted =>
          simp [record, conclude, outcomeOf, setActivity_eq_place found, worked, unlock]
      | broken =>
          simp [record, conclude, outcomeOf, setActivity_eq_place found, worked, unlock]
    have log := workBetween_append pool (pool.step task) task work.actions []
      (by simp [next, place, worked, unlock]) pass
    have ended : (pool.step task).endOf task pass =
        [.ended pass.handle pass.ticket (outcomeOf pass stage work.report verdict)] := by
      simp [endOf, next, activity?_place found, worked, unlock]
    rw [deedsOfStep_running found, log, ended, opened, next]
    exact .ends found known remaining half last

/-- A stage that waits for the engine is held back at an armed point. -/
private theorem turn_reach {pool : Pool engine} {task : Nat} {jobs : List Job}
    {pass : Running engine} (found : pool.tasks[task]? = some ⟨jobs, .running pass⟩)
    {handle : Handle engine} (known : pool.store.handle? pass.handle = some handle)
    {stage : Stage} {rest : List Stage} (remaining : pass.remaining = stage :: rest)
    {work : Pass.Work engine} (phase : pass.phase = .start)
    (half : HalfStage pool.files pass.context (workOf handle pass) stage pass.phase work none)
    (stepped : pool.step task = (pool.worked task pass.handle work).reach task
      { pass with template := work.template, report := work.report } stage) :
    Turn pool task (pool.deedsOfStep task) (pool.step task) := by
  have opened := opening_of_work known remaining (Or.inl phase)
  cases armed : (Pass.point? stage).filter pool.armed.contains with
  | none =>
      have next : pool.step task =
          ((pool.worked task pass.handle work).rearm pool.armed []).place task
          ⟨jobs, .running { pass with
            template := work.template
            report := work.report
            phase := .finish }⟩ := by
        simp [stepped, reach, armed, setActivity_eq_place found, worked, rearm]
      have log := workBetween_append pool (pool.step task) task work.actions []
        (by simp [next, place, worked, rearm]) pass
      have running : (pool.step task).endOf task pass = [] := by
        simp [endOf, next, activity?_place found, worked, rearm]
      rw [deedsOfStep_running found, log, running, opened, next, List.append_nil]
      exact .waits found known remaining half .free
  | some point =>
      have next : pool.step task =
          ((pool.worked task pass.handle work).rearm (pool.armed.erase point)
            [.blocked task point]).place task
          ⟨jobs, .running { pass with
            template := work.template
            report := work.report
            phase := .blocked }⟩ := by
        simp [stepped, reach, armed, setActivity_eq_place found, worked, note, rearm]
      have log := workBetween_append pool (pool.step task) task work.actions [(task, point)]
        (by simp [next, place, worked, rearm]) pass
      have running : (pool.step task).endOf task pass = [] := by
        simp [endOf, next, activity?_place found, worked, rearm]
      rw [deedsOfStep_running found, log, running, opened, next, List.append_nil]
      have isArmed : point ∈ pool.armed := by
        simpa using (Option.filter_eq_some_iff.mp armed).2
      exact .waits found known remaining half (.held isArmed)

private theorem turn_stuck {pool : Pool engine} {task : Nat} {jobs : List Job}
    {pass : Running engine} (found : pool.tasks[task]? = some ⟨jobs, .running pass⟩)
    (stepped : pool.step task = pool) (opened : pool.opening pass = [])
    (stuck : pool.Stuck task) : Turn pool task (pool.deedsOfStep task) (pool.step task) := by
  have log : pool.workBetween pool pass = [] := by simp [workBetween]
  have running : pool.endOf task pass = [] := by simp [endOf, activity?, found]
  rw [deedsOfStep_running found, stepped, opened, log, running]
  exact .halts stuck

private theorem turn_start {pool : Pool engine} {task : Nat} {jobs : List Job}
    {pass : Running engine} (found : pool.tasks[task]? = some ⟨jobs, .running pass⟩)
    {handle : Handle engine} (known : pool.store.handle? pass.handle = some handle)
    (phase : pass.phase = .start) {stage : Stage} {rest : List Stage}
    (remaining : pass.remaining = stage :: rest) :
    Turn pool task (pool.deedsOfStep task) (pool.step task) := by
  rcases equal : Pass.start pool.files pass.context (workOf handle pass) stage with
    ⟨work, verdict | _⟩
  · have half : HalfStage pool.files pass.context (workOf handle pass) stage pass.phase work
        (some verdict) := phase ▸ .decided equal
    refine turn_record found known remaining (Or.inl phase) half ?_
    simp [step, found, stepRunning, known, remaining, phase, equal, putBack, worked, note]
    rfl
  · have half : HalfStage pool.files pass.context (workOf handle pass) stage pass.phase work
        none := phase ▸ .waiting equal
    refine turn_reach found known remaining phase half ?_
    simp [step, found, stepRunning, known, remaining, phase, equal, putBack, worked, note]
    rfl

private theorem turn_finish {pool : Pool engine} {task : Nat} {jobs : List Job}
    {pass : Running engine} (found : pool.tasks[task]? = some ⟨jobs, .running pass⟩)
    {handle : Handle engine} (known : pool.store.handle? pass.handle = some handle)
    (phase : pass.phase = .finish) {stage : Stage} {rest : List Stage}
    (remaining : pass.remaining = stage :: rest) :
    Turn pool task (pool.deedsOfStep task) (pool.step task) := by
  rcases equal : Pass.finish pool.files pass.context (workOf handle pass) stage with
    ⟨work, verdict⟩
  have half : HalfStage pool.files pass.context (workOf handle pass) stage pass.phase work
      (some verdict) := phase ▸ .finished equal
  refine turn_record found known remaining (Or.inr phase) half ?_
  simp [step, found, stepRunning, known, remaining, phase, equal, putBack, worked, note]
  rfl

private theorem turn_running {pool : Pool engine} {task : Nat} {jobs : List Job}
    {pass : Running engine} (found : pool.tasks[task]? = some ⟨jobs, .running pass⟩) :
    Turn pool task (pool.deedsOfStep task) (pool.step task) := by
  cases known : pool.store.handle? pass.handle with
  | none =>
      exact turn_stuck found (by simp [step, found, stepRunning, known])
        (by simp [opening, known]) (by simp [Stuck, found, known])
  | some handle =>
      cases phase : pass.phase with
      | check => exact turn_check found known phase
      | blocked =>
          exact turn_stuck found (by simp [step, found, stepRunning, known, phase])
            (by simp [opening, phase]) (by simp [Stuck, found, phase])
      | start =>
          cases remaining : pass.remaining with
          | nil =>
              exact turn_stuck found (by simp [step, found, stepRunning, known, phase, remaining])
                (by simp [opening, known, phase, remaining]) (by simp [Stuck, found, phase, remaining])
          | cons stage rest => exact turn_start found known phase remaining
      | finish =>
          cases remaining : pass.remaining with
          | nil =>
              exact turn_stuck found (by simp [step, found, stepRunning, known, phase, remaining])
                (by simp [opening, phase]) (by simp [Stuck, found, phase, remaining])
          | cons stage rest => exact turn_finish found known phase remaining

/-- Outside of a root's registries a task does nothing but take tickets. -/
private theorem turn_quiet {pool next : Pool engine} {task : Nat}
    (quiet : pool.deedsOfStep task = []) (stepped : pool.step task = next)
    (turn : Turn pool task [] next) : Turn pool task (pool.deedsOfStep task) (pool.step task) := by
  rw [quiet, stepped]
  exact turn

private theorem turn_idle {pool : Pool engine} {task : Nat} {jobs : List Job}
    (found : pool.tasks[task]? = some ⟨jobs, .idle⟩) :
    Turn pool task (pool.deedsOfStep task) (pool.step task) := by
  have quiet : pool.deedsOfStep task = [] := by simp [deedsOfStep, activity?, found]
  rcases jobs with _ | ⟨job, rest⟩
  · exact turn_quiet quiet (by simp [step, found, takeJob]) (.halts (by simp [Stuck, found]))
  · cases job with
    | validate checker document =>
        refine turn_quiet quiet ?_ (.takesUp found)
        simp [step, found, takeJob, setActivity, place, modify_eq_set found, modify_set]
    | evictUnder folder =>
        have sameHolds : (pool.place task ⟨rest, .idle⟩).holds = pool.holds :=
          holds_place found rfl
        refine turn_quiet quiet ?_ (.evicts found)
        simp only [place] at sameHolds
        simp [step, found, takeJob, place, modify_eq_set found, evictUnder, sameHolds]

private theorem turn_ticketed {pool : Pool engine} {task : Nat} {jobs : List Job}
    {context : Pass.Context} {number : Nat} {ticket : Ticket}
    (found : pool.tasks[task]? = some ⟨jobs, .ticketed context number ticket⟩) :
    Turn pool task (pool.deedsOfStep task) (pool.step task) := by
  have quiet : pool.deedsOfStep task = [] := by simp [deedsOfStep, activity?, found]
  cases known : pool.store.handle? number with
  | none =>
      exact turn_quiet quiet (by simp [step, found, known]) (.halts (by simp [Stuck, found, known]))
  | some handle =>
      cases owned : handle.owner with
      | none =>
          refine turn_quiet quiet ?_ (.locks found known owned)
          simp [step, found, known, Handle.acquire, owned, begin, setActivity_eq_place found]
      | some other =>
          refine turn_quiet quiet ?_ (.queues found known owned)
          simp [step, found, known, Handle.acquire, owned, setActivity_eq_place found]

/-- A step of a task is one of its turns. -/
theorem turn_step (pool : Pool engine) (task : Nat) :
    Turn pool task (pool.deedsOfStep task) (pool.step task) := by
  rcases found : pool.tasks[task]? with _ | ⟨jobs, activity⟩
  · have quiet : pool.deedsOfStep task = [] := by simp [deedsOfStep, activity?, found]
    exact turn_quiet quiet (by simp [step, found]) (.halts (by simp [Stuck, found]))
  · cases activity with
    | idle => exact turn_idle found
    | arriving checker document =>
        have quiet : pool.deedsOfStep task = [] := by simp [deedsOfStep, activity?, found]
        cases arrived : Pass.arrive pool.files checker document with
        | error outcome =>
            refine turn_quiet quiet ?_ (.turnsBack found arrived)
            simp only [step, found, arrived]
            exact setActivity_eq_place found (noteApproach_tasks pool task _) _
        | ok context =>
            refine turn_quiet quiet ?_ (.arrives found arrived)
            simp only [step, found, arrived]
            exact setActivity_eq_place found (noteApproach_tasks pool task _) _
    | rooted context =>
        have quiet : pool.deedsOfStep task = [] := by simp [deedsOfStep, activity?, found]
        refine turn_quiet quiet ?_ (.enters found)
        simp only [step, found]
        exact setActivity_eq_place found (request_tasks _ _ _) _
    | admitted context number =>
        cases known : pool.store.handle? number with
        | none =>
            have quiet : pool.deedsOfStep task = [] := by
              simp [deedsOfStep, activity?, found, Store.issue, known]
            exact turn_quiet quiet (by simp [step, found, Store.issue, known])
              (.halts (by simp [Stuck, found, known]))
        | some handle =>
            have stepped : pool.step task =
                { pool with
                  store := pool.store.change number fun _ =>
                    (handle.issue context.document.uri).1 }.place task
                  ⟨jobs, .ticketed context number (handle.issue context.document.uri).2⟩ := by
              simp [step, found, Store.issue, known, setActivity_eq_place found]
            have done : pool.deedsOfStep task =
                [.issued (some task) number (handle.issue context.document.uri).2] := by
              simp [deedsOfStep, activity?, found, Store.issue, known]
            rw [stepped, done]
            exact .registers found known
    | ticketed context number ticket => exact turn_ticketed found
    | queued context number ticket =>
        have quiet : pool.deedsOfStep task = [] := by simp [deedsOfStep, activity?, found]
        cases known : pool.store.handle? number with
        | none =>
            exact turn_quiet quiet (by simp [step, found, known])
              (.halts (by simp [Stuck, found, known]))
        | some handle =>
            by_cases owned : handle.owner = some task
            · refine turn_quiet quiet ?_ (.resumes found known owned)
              simp [step, found, known, owned, begin, setActivity_eq_place found]
            · exact turn_quiet quiet (by simp [step, found, known, owned])
                (.halts (by simpa [Stuck, found, known] using owned))
    | running pass => exact turn_running found
    | leaving number document outcome =>
        have quiet : pool.deedsOfStep task = [] := by simp [deedsOfStep, activity?, found]
        refine turn_quiet quiet ?_ (.departs found)
        simp [step, found, setActivity_eq_place found]
    | returned document outcome =>
        have quiet : pool.deedsOfStep task = [] := by simp [deedsOfStep, activity?, found]
        refine turn_quiet quiet ?_ (.delivers found)
        by_cases broken : outcome = .broken
        · simp [step, found, deliver, broken, setActivity, place, modify_eq_set found, modify_set]
        · simp [step, found, deliver, broken, setActivity_eq_place found]

end TemplateCheck.Pool
