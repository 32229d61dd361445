import TemplateCheck.Frame
import TemplateCheck.Session.Basic

/-! # The server

A server reads frames, lets its session react to them, runs the checks that the
session asks for, and writes answers and diagnostics in the order in which they
were put into its queue. Its parts move on their own: the reader takes a frame,
a task makes a step or publishes the diagnostics of one file, the writer takes a
command. When reading has ended the server waits for its tasks, and then tells
the writer to stop. -/

namespace TemplateCheck

namespace Server

inductive Ending where
  | clean
  | fault (cause : Frame.Fault)
  deriving Repr, DecidableEq

/-- Whether frames are read, tasks are waited for, or the writer was told to
stop. -/
inductive Reading where
  | active
  | draining (ending : Ending)
  | over (ending : Ending)
  deriving Repr, DecidableEq

inductive Command where
  | send (frame : Json)
  | stop
  deriving Repr, Inhabited

end Server

structure Server (engine : Engine) where
  session : Session
  pool : Pool engine
  source : Frame.Source := {}
  isClosed : Bool := false
  reading : Server.Reading := .active
  /-- What tasks have still to publish before they go on, with their numbers. -/
  outbox : List (Nat × Json) := []
  queue : List Server.Command := []
  written : List Json := []
  isWriterDone : Bool := false

namespace Server

variable {engine : Engine}

/-- A server that has read nothing yet. -/
def start (engine : Engine) (files : FileSystem) (settings : Settings) : Server engine where
  session := { settings }
  pool := .empty engine files settings.cache.capacity

def enqueue (server : Server engine) (frames : List Json) : Server engine :=
  { server with queue := server.queue ++ frames.map Command.send }

def react (server : Server engine) (frame : Json) : Server engine :=
  let (session, reaction) := server.session.handle frame
  let pool := if reaction.jobs.isEmpty then server.pool else server.pool.spawn reaction.jobs
  let server := { server with session, pool }.enqueue reaction.reply.toList
  if reaction.exits then { server with reading := .draining .clean } else server

def readFrame (server : Server engine) : Server engine :=
  match server.reading with
  | .active =>
      let (result, source) := Frame.read server.source
      let server := { server with source }
      match result with
      | .frame json => server.react json
      | .ended => { server with reading := .draining .clean }
      | .fault cause => { server with reading := .draining (.fault cause) }
  | _ => server

/-- Whether there is something to read, be it the end. -/
def canRead (server : Server engine) : Bool :=
  server.reading == .active && (server.isClosed || !server.source.isEmpty)

/-- The notifications that an outcome is published with. -/
def publications (delivery : Pool.Delivery) : List Json :=
  delivery.outcome.batches.map Session.publication

/-- Leave it to the tasks that have delivered outcomes to publish them. -/
def collect (server : Server engine) : Server engine :=
  { server with
    pool := { server.pool with deliveries := [] }
    outbox := server.outbox ++ server.pool.deliveries.flatMap fun delivery =>
      (publications delivery).map (delivery.task, ·) }

def isPublishing (server : Server engine) (task : Nat) : Bool :=
  server.outbox.any (·.1 == task)

/-- Let one task publish the diagnostics of one file, or else make a step. -/
def move (server : Server engine) (task : Nat) : Server engine :=
  match server.outbox.find? (·.1 == task) with
  | some (_, frame) =>
      { server with outbox := server.outbox.eraseP (·.1 == task) }.enqueue [frame]
  | none => { server with pool := server.pool.step task }.collect

/-- All tasks have come to their end. -/
def allDone (server : Server engine) : Bool :=
  server.pool.allDone && server.outbox.isEmpty

/-- Once all tasks are done after the last frame, tell the writer to stop. -/
def finish (server : Server engine) : Server engine :=
  match server.reading with
  | .draining ending =>
      if server.allDone then
        { server with reading := .over ending, queue := server.queue ++ [.stop] }
      else server
  | _ => server

def write (server : Server engine) : Server engine :=
  if server.isWriterDone then server
  else
    match server.queue with
    | [] => server
    | .send frame :: rest => { server with queue := rest, written := server.written ++ [frame] }
    | .stop :: rest => { server with queue := rest, isWriterDone := true }

/-- The bytes that the other side has been sent. -/
def output (server : Server engine) : List UInt8 :=
  server.written.flatMap Frame.write

def ending? (server : Server engine) : Option Ending :=
  match server.reading with
  | .over ending => if server.isWriterDone then some ending else none
  | _ => none

/-! One way to run a server: read all that is there, then let the tasks move
until none of them can, then write. -/

def readAll : Nat → Server engine → Server engine
  | 0, server => server
  | bound + 1, server => if server.canRead then readAll bound server.readFrame else server

def publishAll : Nat → Server engine → Server engine
  | 0, server => server
  | bound + 1, server =>
      match server.outbox with
      | [] => server
      | (task, _) :: _ => publishAll bound (server.move task)

def moveAll : Nat → Server engine → Server engine
  | 0, server => server
  | steps + 1, server =>
      match server.pool.nextTask? with
      | none => server
      | some task =>
          let server := server.move task
          moveAll steps (publishAll server.outbox.length server)

def writeAll : Nat → Server engine → Server engine
  | 0, server => server
  | bound + 1, server => writeAll bound server.write

/-- Run until the server is idle. Every frame takes at least one byte. -/
def run (server : Server engine) : Server engine :=
  let server := readAll (server.source.bytes.length + server.source.chunks.length + 2) server
  let server := moveAll server.pool.stepBound server
  let server := server.finish
  writeAll server.queue.length server

/-- Receive bytes. A chunk without bytes brings nothing. -/
def receive (server : Server engine) (chunks : List (List UInt8)) : Server engine :=
  { server with source := server.source.append (chunks.filter fun chunk => !chunk.isEmpty) }

def closeInput (server : Server engine) : Server engine :=
  { server with isClosed := true }

end Server

end TemplateCheck
