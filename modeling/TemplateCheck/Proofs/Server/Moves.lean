import TemplateCheck.Proofs.Pool.Turns
import TemplateCheck.Proofs.Session.Conversation

/-! # Runs of a server

The reader, the tasks and the writer of a server move one at a time, in any order, and
from outside bytes arrive, the input is closed, files change and the engine's answers are
held back or given. A run is any sequence of such moves. What a run brings about is told
by events: a frame was heard, the outcome of a pass was delivered, a command was put into
the queue by the reader or by a task.
-/

namespace TemplateCheck.Server

variable {engine : Engine}

/-- One thing that can happen to a server. -/
inductive Move where
  | receive (chunks : List (List UInt8))
  | close
  | read
  | step (task : Nat)
  | finish
  | write
  | change (files : FileSystem)
  | arm (point : Pass.Point)
  | release

def after (server : Server engine) : Move → Server engine
  | .receive chunks => server.receive chunks
  | .close => server.closeInput
  | .read => if server.canRead then server.readFrame else server
  | .step task => server.move task
  | .finish => server.finish
  | .write => server.write
  | .change files => { server with pool := { server.pool with files } }
  | .arm point => { server with pool := server.pool.arm point }
  | .release => { server with pool := server.pool.release }

/-- The server after a run. -/
def follow (server : Server engine) (moves : List Move) : Server engine :=
  moves.foldl after server

/-- What happens in a run. A command is put into the queue by a task or by none. -/
inductive Event where
  | heard (frame : Json)
  | delivered (delivery : Pool.Delivery)
  | posted (author : Option Nat) (command : Command)

namespace Event

def heard? : Event → Option Json
  | .heard frame => some frame
  | _ => none

def delivery? : Event → Option Pool.Delivery
  | .delivered delivery => some delivery
  | _ => none

def command? : Event → Option Command
  | .posted _ command => some command
  | _ => none

/-- The frame that a command puts into the queue. -/
def frame? : Event → Option Json
  | .posted _ (.send frame) => some frame
  | _ => none

/-- The frame that a task, or none, puts into the queue. -/
def frameBy? (author : Option Nat) : Event → Option Json
  | .posted own (.send frame) => if own = author then some frame else none
  | _ => none

/-- What is told of a frame and of the answer to it. -/
def answered (frame : Json) (reply : Option Json) : List Event :=
  .heard frame :: reply.toList.map (.posted none ∘ .send)

section Answered

variable (frame : Json) (reply : Option Json)

@[simp] theorem heard?_answered : (answered frame reply).filterMap heard? = [frame] := by
  cases reply <;> rfl

@[simp] theorem delivery?_answered : (answered frame reply).filterMap delivery? = [] := by
  cases reply <;> rfl

@[simp] theorem command?_answered :
    (answered frame reply).filterMap command? = reply.toList.map .send := by
  cases reply <;> rfl

@[simp] theorem frame?_answered : (answered frame reply).filterMap frame? = reply.toList := by
  cases reply <;> rfl

@[simp] theorem frameBy?_answered (author : Option Nat) :
    (answered frame reply).filterMap (frameBy? author) =
      if author = none then reply.toList else [] := by
  cases reply <;> cases author <;> rfl

end Answered

/-- Who does not look at deliveries sees nothing of them. -/
theorem filterMap_delivered {content : Type} {see : Event → Option content}
    (blind : ∀ delivery, see (.delivered delivery) = none) (deliveries : List Pool.Delivery) :
    (deliveries.map Event.delivered).filterMap see = [] := by
  rw [List.filterMap_map, List.filterMap_eq_nil_iff]
  exact fun delivery _ => blind delivery

theorem delivery?_delivered (deliveries : List Pool.Delivery) :
    (deliveries.map Event.delivered).filterMap delivery? = deliveries := by
  rw [List.filterMap_map]
  exact List.filterMap_some

end Event

def Move.author? : Move → Option Nat
  | .step task => some task
  | _ => none

/-- What is heard and delivered in a move. -/
def news (server : Server engine) : Move → List Event
  | .read =>
      match server.canRead, (Frame.read server.source).1 with
      | true, .frame json => [.heard json]
      | _, _ => []
  | .step task =>
      if server.isPublishing task then []
      else (server.pool.step task).deliveries.map .delivered
  | _ => []

/-- The events of a move, with all that it puts behind the queue. -/
def eventsOf (server : Server engine) (move : Move) : List Event :=
  server.news move ++
    ((server.after move).queue.drop server.queue.length).map (.posted move.author?)

/-- The events of a run, in their order. -/
def events (server : Server engine) : List Move → List Event
  | [] => []
  | move :: moves => server.eventsOf move ++ (server.after move).events moves

/-- What holds at the start and is kept by every move holds after every run. -/
theorem follow_induction (Holds : List Event → Server engine → Prop) {server : Server engine}
    (start : Holds [] server)
    (moved : ∀ events server move, Holds events server →
      Holds (events ++ server.eventsOf move) (server.after move))
    (moves : List Move) : Holds (server.events moves) (server.follow moves) := by
  have general : ∀ (before : List Event) (server : Server engine), Holds before server →
      Holds (before ++ server.events moves) (server.follow moves) := by
    induction moves with
    | nil =>
        intro before server holds
        simpa [events, follow] using holds
    | cons move moves induction =>
        intro before server holds
        have later := induction (before ++ server.eventsOf move) (server.after move)
          (moved before server move holds)
        simpa only [events, follow, List.append_assoc, List.foldl_cons] using later
  simpa using general [] server start

/-! The order in which `run` lets the parts of a server move is one of many. -/

def Reaches (server next : Server engine) : Prop :=
  ∃ moves, server.follow moves = next

namespace Reaches

theorem refl (server : Server engine) : Reaches server server :=
  ⟨[], rfl⟩

theorem moved {server next : Server engine} (move : Move)
    (rest : Reaches (server.after move) next) : Reaches server next := by
  rcases rest with ⟨moves, reached⟩
  exact ⟨move :: moves, reached⟩

theorem trans {first second third : Server engine} (early : Reaches first second)
    (late : Reaches second third) : Reaches first third := by
  rcases early with ⟨moves, rfl⟩
  rcases late with ⟨more, rfl⟩
  exact ⟨moves ++ more, List.foldl_append⟩

theorem readAll (bound : Nat) (server : Server engine) : Reaches server (readAll bound server) := by
  induction bound generalizing server with
  | zero => exact .refl server
  | succ bound induction =>
      rw [Server.readAll]
      split
      · next readable =>
          refine .moved .read ?_
          rw [after, if_pos readable]
          exact induction server.readFrame
      · exact .refl server

theorem publishAll (bound : Nat) (server : Server engine) :
    Reaches server (publishAll bound server) := by
  induction bound generalizing server with
  | zero => exact .refl server
  | succ bound induction =>
      rw [Server.publishAll]
      split
      · exact .refl server
      · next task _ _ _ => exact .moved (.step task) (induction (server.move task))

theorem moveAll (steps : Nat) (server : Server engine) : Reaches server (moveAll steps server) := by
  induction steps generalizing server with
  | zero => exact .refl server
  | succ steps induction =>
      rw [Server.moveAll]
      split
      · exact .refl server
      · next task isNext =>
          exact .moved (.step task) ((publishAll _ _).trans (induction _))

theorem writeAll (bound : Nat) (server : Server engine) :
    Reaches server (writeAll bound server) := by
  induction bound generalizing server with
  | zero => exact .refl server
  | succ bound induction => exact .moved .write (induction server.write)

end Reaches

theorem reaches_run (server : Server engine) : server.Reaches server.run := by
  unfold run
  exact (Reaches.readAll _ server).trans
    ((Reaches.moveAll _ _).trans (.moved .finish (.writeAll _ _)))

/-! ## Acts -/

theorem pool_react (server : Server engine) (frame : Json) :
    (server.react frame).pool =
      let jobs := (server.session.exchange frame).reaction.jobs
      if jobs.isEmpty then server.pool else server.pool.spawn jobs := by
  unfold react
  dsimp only
  split
  · rfl
  · rfl

theorem writer_react (server : Server engine) (frame : Json) :
    (server.react frame).outbox = server.outbox ∧ (server.react frame).written = server.written ∧
      (server.react frame).isWriterDone = server.isWriterDone := by
  unfold react
  dsimp only
  split
  · exact ⟨rfl, rfl, rfl⟩
  · exact ⟨rfl, rfl, rfl⟩

/-- The acts that a move can be, each with its events and the server after it. -/
inductive Act (server : Server engine) : List Event → Server engine → Prop
  | rests {source : Frame.Source} {isClosed : Bool} {files : FileSystem}
      {armed : List Pass.Point} :
      Act server [] { server with source, isClosed, pool := { server.pool with files, armed } }
  | releases : Act server [] { server with pool := server.pool.release }
  | hears {source : Frame.Source} {frame : Json} (active : server.reading = .active) :
      Act server (Event.answered frame (server.session.exchange frame).reaction.reply)
        ({ server with source }.react frame)
  | ceases {source : Frame.Source} {ending : Ending} (active : server.reading = .active) :
      Act server [] { server with source, reading := .draining ending }
  | steps {task : Nat} (free : server.isPublishing task = false) :
      Act server ((server.pool.step task).deliveries.map .delivered)
        { server with pool := server.pool.step task }.collect
  | publishes {task : Nat} {frame : Json}
      (first : server.outbox.find? (·.1 == task) = some (task, frame)) :
      Act server [.posted (some task) (.send frame)]
        ({ server with outbox := server.outbox.eraseP (·.1 == task) }.enqueue [frame])
  | finishes {ending : Ending} (draining : server.reading = .draining ending)
      (allDone : server.allDone = true) :
      Act server [.posted none .stop]
        { server with reading := .over ending, queue := server.queue ++ [.stop] }
  | writes {frame : Json} {rest : List Command} (working : server.isWriterDone = false)
      (queue : server.queue = .send frame :: rest) :
      Act server [] { server with queue := rest, written := server.written ++ [frame] }
  | stops {rest : List Command} (working : server.isWriterDone = false)
      (queue : server.queue = .stop :: rest) :
      Act server [] { server with queue := rest, isWriterDone := true }

/-- A move whose commands are put behind the queue. -/
theorem eventsOf_of_queue {server : Server engine} {move : Move} {commands : List Command}
    (queue : (server.after move).queue = server.queue ++ commands) :
    server.eventsOf move = server.news move ++ commands.map (.posted move.author?) := by
  simp [eventsOf, queue]

/-- A move that puts nothing into the queue, and may take from it. -/
theorem eventsOf_of_length {server : Server engine} {move : Move}
    (shorter : (server.after move).queue.length ≤ server.queue.length) :
    server.eventsOf move = server.news move := by
  simp [eventsOf, List.drop_eq_nil_of_le shorter]

private theorem act_read (server : Server engine) :
    Act server (server.eventsOf .read) (server.after .read) := by
  cases readable : server.canRead with
  | false =>
      have next : server.after .read = server := by simp [after, readable]
      rw [eventsOf_of_length (Nat.le_of_eq (by rw [next])), next]
      simpa [news, readable] using Act.rests
  | true =>
      have active : server.reading = .active := by
        simp only [canRead, Bool.and_eq_true, beq_iff_eq] at readable
        exact readable.1
      rcases read : Frame.read server.source with ⟨result, source⟩
      cases result with
      | frame json =>
          have next : server.after .read = { server with source }.react json := by
            simp [after, readable, readFrame, active, read]
          rw [eventsOf_of_queue (by rw [next]; exact queue_react _ json), next]
          have act : Act server _ ({ server with source }.react json) := .hears active
          simpa [news, readable, read, Move.author?, Event.answered] using act
      | ended =>
          have next : server.after .read = { server with source, reading := .draining .clean } := by
            simp [after, readable, readFrame, active, read]
          rw [eventsOf_of_length (Nat.le_of_eq (by rw [next])), next]
          simpa [news, readable, read] using Act.ceases active
      | fault cause =>
          have next : server.after .read =
              { server with source, reading := .draining (.fault cause) } := by
            simp [after, readable, readFrame, active, read]
          rw [eventsOf_of_length (Nat.le_of_eq (by rw [next])), next]
          simpa [news, readable, read] using Act.ceases active

private theorem act_step (server : Server engine) (task : Nat) :
    Act server (server.eventsOf (.step task)) (server.after (.step task)) := by
  cases first : server.outbox.find? (·.1 == task) with
  | none =>
      have free : server.isPublishing task = false := by
        rw [isPublishing, ← List.isSome_find?, first]
        rfl
      have next : server.after (.step task) =
          { server with pool := server.pool.step task }.collect := by
        simp [after, move, first]
      rw [eventsOf_of_length (Nat.le_of_eq (by rw [next]; rfl)), next]
      simpa [news, free] using Act.steps free
  | some entry =>
      rcases entry with ⟨own, frame⟩
      have same : own = task := by simpa using List.find?_some first
      subst same
      have busy : server.isPublishing own = true := by
        rw [isPublishing, ← List.isSome_find?, first]
        rfl
      have next : server.after (.step own) =
          { server with outbox := server.outbox.eraseP (·.1 == own) }.enqueue [frame] := by
        simp [after, move, first]
      rw [eventsOf_of_queue (by rw [next]; rfl), next]
      simpa [news, busy, Move.author?] using Act.publishes first

private theorem act_finish (server : Server engine) :
    Act server (server.eventsOf .finish) (server.after .finish) := by
  by_cases ready : ∃ ending, server.reading = .draining ending ∧ server.allDone = true
  · rcases ready with ⟨ending, draining, allDone⟩
    have next : server.after .finish =
        { server with reading := .over ending, queue := server.queue ++ [.stop] } := by
      simp [after, finish, draining, allDone]
    rw [eventsOf_of_queue (by rw [next]), next]
    exact .finishes draining allDone
  · have next : server.after .finish = server := by
      simp only [after, finish]
      split
      · next ending draining =>
          rw [if_neg fun allDone => ready ⟨ending, draining, allDone⟩]
      · rfl
    rw [eventsOf_of_length (Nat.le_of_eq (by rw [next])), next]
    exact .rests

private theorem act_write (server : Server engine) :
    Act server (server.eventsOf .write) (server.after .write) := by
  have idle : server.after .write = server →
      Act server (server.eventsOf .write) (server.after .write) := by
    intro next
    rw [eventsOf_of_length (Nat.le_of_eq (by rw [next])), next]
    exact .rests
  cases working : server.isWriterDone with
  | true => exact idle (by simp [after, write, working])
  | false =>
      rcases queue : server.queue with _ | ⟨command, rest⟩
      · exact idle (by simp [after, write, working, queue])
      · cases command with
        | send frame =>
            have next : server.after .write =
                { server with queue := rest, written := server.written ++ [frame] } := by
              simp [after, write, working, queue]
            rw [eventsOf_of_length (by rw [next, queue]; simp), next]
            exact .writes working queue
        | stop =>
            have next : server.after .write =
                { server with queue := rest, isWriterDone := true } := by
              simp [after, write, working, queue]
            rw [eventsOf_of_length (by rw [next, queue]; simp), next]
            exact .stops working queue

private theorem act_arm (server : Server engine) (point : Pass.Point) :
    Act server [] (server.after (.arm point)) := by
  simp only [after, Pool.arm]
  split
  · exact .rests
  · exact .rests

/-- A move is one of the acts. -/
theorem act_after (server : Server engine) (move : Move) :
    Act server (server.eventsOf move) (server.after move) := by
  cases move with
  | read => exact act_read server
  | step task => exact act_step server task
  | finish => exact act_finish server
  | write => exact act_write server
  | receive chunks =>
      rw [eventsOf_of_length (Nat.le_refl _)]
      exact .rests
  | close =>
      rw [eventsOf_of_length (Nat.le_refl _)]
      exact .rests
  | change files =>
      rw [eventsOf_of_length (Nat.le_refl _)]
      exact .rests
  | arm point =>
      rw [eventsOf_of_length (Nat.le_refl _)]
      exact act_arm server point
  | release =>
      rw [eventsOf_of_length (Nat.le_refl _)]
      exact .releases

end TemplateCheck.Server
