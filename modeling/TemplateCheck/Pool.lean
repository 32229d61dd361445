import TemplateCheck.Pass.Stages
import TemplateCheck.Roots.Handle

/-! # Passes that run side by side

A pool runs tasks, each of which works through a list of jobs. Every task moves
in atomic steps, and between its steps the other tasks may move, files may
change, and roots may be evicted. A pass asks for the handle of its root, takes a
ticket, waits for the registries, and then runs its stages; before each stage it
checks that its ticket is still current. At its end it gives the registries
back, lets go of its handle and returns, and its outcome is delivered, each in a
step of its own.

The engine's answer at a point can be held back: the first pass to reach an armed
point disarms it and stays blocked until the points are released.
-/

namespace TemplateCheck

inductive Job where
  | validate (checker : Checker) (document : Document)
  | evictUnder (folder : Path)
  deriving Repr, Inhabited

namespace Pool

open Roots (Ticket Handle Store)

/-- Where a running pass stands with regard to its next stage. -/
inductive Phase where
  | check
  | start
  | blocked
  | finish
  deriving Repr, DecidableEq

structure Running (engine : Engine) where
  context : Pass.Context
  handle : Nat
  ticket : Ticket
  remaining : List Stage
  phase : Phase := .check
  stages : List StageResult := []
  template : Option engine.Template := none
  report : Report := {}

/-- Where a task stands between two steps. -/
inductive Activity (engine : Engine) where
  | idle
  | arriving (checker : Checker) (document : Document)
  | rooted (context : Pass.Context)
  | admitted (context : Pass.Context) (handle : Nat)
  | ticketed (context : Pass.Context) (handle : Nat) (ticket : Ticket)
  | queued (context : Pass.Context) (handle : Nat) (ticket : Ticket)
  | running (pass : Running engine)
  | leaving (handle : Nat) (document : Document) (outcome : Outcome)
  | returned (document : Document) (outcome : Outcome)

def Activity.handle? {engine : Engine} : Activity engine → Option Nat
  | .admitted _ handle => some handle
  | .ticketed _ handle _ => some handle
  | .queued _ handle _ => some handle
  | .running pass => some pass.handle
  | .leaving handle _ _ => some handle
  | _ => none

structure Task (engine : Engine) where
  jobs : List Job
  activity : Activity engine := .idle

/-- What happened, and in which task. Requests from outside have no task. -/
inductive Event (engine : Engine) where
  | did (task : Option Nat) (action : Action engine.Template)
  | blocked (task : Nat) (point : Pass.Point)

/-- The outcome of a pass as its task delivers it. -/
structure Delivery where
  task : Nat
  document : Document
  outcome : Outcome
  deriving Repr, Inhabited

end Pool

/-- The log has what is done at the roots, and the approach what tasks read on the way there. -/
structure Pool (engine : Engine) where
  files : FileSystem
  store : Roots.Store engine
  tasks : List (Pool.Task engine) := []
  armed : List Pass.Point := []
  log : List (Pool.Event engine) := []
  approach : List (Pool.Event engine) := []
  deliveries : List Pool.Delivery := []

namespace Pool

open Roots (Ticket Handle Store)

variable {engine : Engine}

def empty (engine : Engine) (files : FileSystem) (capacity : Nat) : Pool engine where
  files := files
  store := .empty engine capacity

def holds (pool : Pool engine) (handle : Nat) : Bool :=
  pool.tasks.any fun task => task.activity.handle? == some handle

/-- Start a task with the given jobs; its number is the number of tasks before
it. -/
def spawn (pool : Pool engine) (jobs : List Job) : Pool engine :=
  { pool with tasks := pool.tasks ++ [{ jobs }] }

def setActivity (pool : Pool engine) (task : Nat) (activity : Activity engine) : Pool engine :=
  { pool with tasks := pool.tasks.modify task fun old => { old with activity } }

def note (pool : Pool engine) (events : List (Event engine)) : Pool engine :=
  { pool with log := pool.log ++ events }

/-- Note the manifests that a task reads to find its root. -/
def noteApproach (pool : Pool engine) (task : Nat) (manifests : List Path) : Pool engine :=
  { pool with
    approach := pool.approach ++ manifests.map fun manifest => .did (some task) (.read manifest) }

/-- Ask for the handle of a root. A new handle has new registries. -/
def request (pool : Pool engine) (task : Option Nat) (root : Path) : Pool engine × Nat :=
  let (store, handle, isNew) := pool.store.request pool.holds root
  let pool := { pool with store }
  if isNew then
    (pool.note [.did task (.call .newModels), .did task (.call .newLogic)], handle)
  else (pool, handle)

/-- Take a ticket for a document at a root, from outside of all tasks. -/
def requestTicket (pool : Pool engine) (root : Path) (document : Uri) : Pool engine × Nat :=
  let (pool, handle) := pool.request none root
  let (store, _) := pool.store.issue handle document
  ({ pool with store }, handle)

def evict (pool : Pool engine) (root : Path) : Pool engine × Bool :=
  let (store, found) := pool.store.evict pool.holds root
  ({ pool with store }, found)

def evictUnder (pool : Pool engine) (folder : Path) : Pool engine × Nat :=
  let (store, count) := pool.store.evictUnder pool.holds folder
  ({ pool with store }, count)

/-- Hold back the engine's answer at a point. -/
def arm (pool : Pool engine) (point : Pass.Point) : Pool engine :=
  if pool.armed.contains point then pool else { pool with armed := pool.armed ++ [point] }

def Activity.unblock : Activity engine → Activity engine
  | .running pass =>
      if pass.phase = .blocked then .running { pass with phase := .finish } else .running pass
  | other => other

/-- Release all points and all passes that are blocked at one. -/
def release (pool : Pool engine) : Pool engine :=
  { pool with
    armed := []
    tasks := pool.tasks.map fun task => { task with activity := task.activity.unblock } }

/-! The steps of a running pass. -/

/-- End a pass: its registries go to the next task. Its handle is still held. -/
def conclude (pool : Pool engine) (task : Nat) (pass : Running engine) (outcome : Outcome) :
    Pool engine :=
  { pool with store := pool.store.change pass.handle Handle.release }.setActivity task
    (.leaving pass.handle pass.context.document outcome)

/-- Record a stage and go on, or end the pass if it failed or was the last. -/
def record (pool : Pool engine) (task : Nat) (pass : Running engine) (stage : Stage)
    (rest : List Stage) (verdict : Verdict) : Pool engine :=
  let stages := pass.stages ++ [⟨stage, verdict == .passed⟩]
  if verdict == .passed && !rest.isEmpty then
    pool.setActivity task (.running { pass with stages, remaining := rest, phase := .check })
  else if verdict == .broken then pool.conclude task pass .broken
  else
    pool.conclude task pass (.completed ⟨some pass.context.root, stages, pass.report⟩)

def workOf (handle : Handle engine) (pass : Running engine) : Pass.Work engine where
  models := handle.models
  logic := handle.logic
  template := pass.template
  report := pass.report

/-- Put back what a stage has changed, and note what it did. -/
def putBack (pool : Pool engine) (task : Nat) (pass : Running engine) (work : Pass.Work engine) :
    Pool engine × Running engine :=
  let store := pool.store.change pass.handle fun handle =>
    { handle with models := work.models, logic := work.logic }
  ({ pool with store }.note (work.actions.map (.did (some task))),
    { pass with template := work.template, report := work.report })

/-- After the first half of a stage: block at an armed point, else go on. -/
def reach (pool : Pool engine) (task : Nat) (pass : Running engine) (stage : Stage) :
    Pool engine :=
  match (Pass.point? stage).filter pool.armed.contains with
  | some point =>
      { pool with armed := pool.armed.erase point }.note [.blocked task point]
        |>.setActivity task (.running { pass with phase := .blocked })
  | none => pool.setActivity task (.running { pass with phase := .finish })

def stepRunning (pool : Pool engine) (task : Nat) (pass : Running engine) : Pool engine :=
  match pool.store.handle? pass.handle, pass.remaining, pass.phase with
  | some handle, _, .check =>
      if handle.isCurrent pass.ticket then
        pool.setActivity task (.running { pass with phase := .start })
      else pool.conclude task pass .superseded
  | some handle, stage :: rest, .start =>
      let (work, half) := Pass.start pool.files pass.context (workOf handle pass) stage
      let (pool, pass) := pool.putBack task pass work
      match half with
      | .over verdict => pool.record task pass stage rest verdict
      | .waiting => pool.reach task pass stage
  | some handle, stage :: rest, .finish =>
      let (work, verdict) := Pass.finish pool.files pass.context (workOf handle pass) stage
      let (pool, pass) := pool.putBack task pass work
      pool.record task pass stage rest verdict
  | _, _, _ => pool

def begin (pool : Pool engine) (task : Nat) (context : Pass.Context) (handle : Nat)
    (ticket : Ticket) : Pool engine :=
  pool.setActivity task
    (.running { context, handle, ticket, remaining := stagesFor context.kind })

def takeJob (pool : Pool engine) (task : Nat) : List Job → Pool engine
  | [] => pool
  | job :: rest =>
      let pool := { pool with tasks := pool.tasks.modify task fun old => { old with jobs := rest } }
      match job with
      | .validate checker document => pool.setActivity task (.arriving checker document)
      | .evictUnder folder => (pool.evictUnder folder).1

/-- Deliver the outcome of a pass. A task whose engine broke down gives up the
rest of its jobs. -/
def deliver (pool : Pool engine) (task : Nat) (document : Document) (outcome : Outcome) :
    Pool engine :=
  let delivery : Delivery := ⟨task, document, outcome⟩
  let pool := { pool with deliveries := pool.deliveries ++ [delivery] }.setActivity task .idle
  if outcome = .broken then
    { pool with tasks := pool.tasks.modify task fun old => { old with jobs := [] } }
  else pool

/-- One atomic step of a task. A task that cannot move stays as it is. -/
def step (pool : Pool engine) (task : Nat) : Pool engine :=
  match pool.tasks[task]? with
  | none => pool
  | some current =>
      match current.activity with
      | .idle => pool.takeJob task current.jobs
      | .arriving checker document =>
          let next := pool.noteApproach task (Pass.manifestsRead pool.files checker document)
          match Pass.arrive pool.files checker document with
          | .error outcome => next.setActivity task (.returned document outcome)
          | .ok context => next.setActivity task (.rooted context)
      | .rooted context =>
          let (pool, handle) := pool.request (some task) context.root
          pool.setActivity task (.admitted context handle)
      | .admitted context handle =>
          match pool.store.issue handle context.document.uri with
          | (store, some ticket) =>
              { pool with store }.setActivity task (.ticketed context handle ticket)
          | (_, none) => pool
      | .ticketed context handle ticket =>
          match pool.store.handle? handle with
          | none => pool
          | some found =>
              let (changed, isFree) := found.acquire task
              let pool := { pool with store := pool.store.change handle fun _ => changed }
              if isFree then pool.begin task context handle ticket
              else pool.setActivity task (.queued context handle ticket)
      | .queued context handle ticket =>
          match pool.store.handle? handle with
          | none => pool
          | some found =>
              if found.owner = some task then pool.begin task context handle ticket else pool
      | .running pass => pool.stepRunning task pass
      | .leaving _ document outcome => pool.setActivity task (.returned document outcome)
      | .returned document outcome => pool.deliver task document outcome

def canStep (pool : Pool engine) (task : Nat) : Bool :=
  match pool.tasks[task]? with
  | none => false
  | some current =>
      match current.activity with
      | .idle => !current.jobs.isEmpty
      | .queued _ handle _ =>
          match pool.store.handle? handle with
          | some found => found.owner == some task
          | none => false
      | .running pass => pass.phase != .blocked
      | _ => true

def isDone (pool : Pool engine) (task : Nat) : Bool :=
  match pool.tasks[task]? with
  | none => true
  | some current =>
      match current.activity with
      | .idle => current.jobs.isEmpty
      | _ => false

/-- The task that was started first among those that can move. -/
def nextTask? (pool : Pool engine) : Option Nat :=
  (List.range pool.tasks.length).find? pool.canStep

/-- Let the tasks move, at most the given number of steps. -/
def runFor : Nat → Pool engine → Pool engine
  | 0, pool => pool
  | steps + 1, pool =>
      match pool.nextTask? with
      | none => pool
      | some task => runFor steps (pool.step task)

def stepsPerJob : Nat := 24

/-- A bound on the steps that all tasks together can still take. -/
def stepBound (pool : Pool engine) : Nat :=
  pool.tasks.foldl (fun total task => total + (task.jobs.length + 1) * stepsPerJob) 0

/-- Let the tasks move until none of them can. -/
def settle (pool : Pool engine) : Pool engine :=
  runFor pool.stepBound pool

def allDone (pool : Pool engine) : Bool :=
  (List.range pool.tasks.length).all pool.isDone

end Pool

end TemplateCheck
