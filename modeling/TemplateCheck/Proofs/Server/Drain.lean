import TemplateCheck.Proofs.Pool.Ledger
import TemplateCheck.Proofs.Server.Moves

/-! # The end of a server

All that is put into the queue is written in its order, however the reader, the tasks and
the writer take turns. The reader puts in the answers to what it hears, a task the
diagnostics of the passes that it completes. The writer is told to stop once reading has
ended and every task has come to its end, so nothing is put into the queue behind that
command, and nothing is missing when the server is done.
-/

namespace TemplateCheck

namespace Session

/-- The jobs that a conversation starts tasks with, one list for each task. -/
def assignments (session : Session) (frames : List Json) : List (List Job) :=
  ((session.converse frames).map (·.reaction.jobs)).filter (!·.isEmpty)

section Concat

variable {session : Session} {frames : List Json}
  (stays : ∀ frame ∈ frames, isExit frame = false) (last : Json)

include stays

theorem reached_concat :
    session.reached (frames ++ [last]) = ((session.reached frames).exchange last).after := by
  rw [reached, converse_concat session frames stays]
  simp

theorem replies_concat :
    session.replies (frames ++ [last]) =
      session.replies frames ++ ((session.reached frames).exchange last).reaction.reply.toList := by
  rw [replies, converse_concat session frames stays, List.filterMap_append, replies]
  cases reply : ((session.reached frames).exchange last).reaction.reply <;> simp [reply]

theorem assignments_concat :
    session.assignments (frames ++ [last]) =
      let jobs := ((session.reached frames).exchange last).reaction.jobs
      session.assignments frames ++ if jobs.isEmpty then [] else [jobs] := by
  rw [assignments, converse_concat session frames stays, List.map_append, List.filter_append,
    assignments]
  cases none : ((session.reached frames).exchange last).reaction.jobs.isEmpty <;> simp_all

end Concat

end Session

namespace Server

open Pool (Delivery Ledgers deliveredBy)
open Session (isExit)

variable {engine : Engine}

/-! ## The queue -/

def Reading.isOver : Reading → Bool
  | .over _ => true
  | _ => false

/-- What was put into the queue, was written or is still there. Behind the command to
stop there is nothing, and no task is left that could add to it. -/
structure Queued (events : List Event) (server : Server engine) : Prop where
  conserved : server.written.map .send ++ (if server.isWriterDone then [.stop] else []) ++
    server.queue = events.filterMap Event.command?
  closed : events.filterMap Event.command? = (events.filterMap Event.frame?).map .send ++
    if server.reading.isOver then [.stop] else []
  quiet : server.reading.isOver = true → server.pool.AllEnded ∧ server.outbox = []

theorem Queued.acted {events more : List Event} {server next : Server engine}
    (queued : Queued events server) (cleared : server.pool.deliveries = [])
    (act : Act server more next) : Queued (events ++ more) next := by
  rcases queued with ⟨conserved, closed, quiet⟩
  cases act with
  | rests =>
      rw [List.append_nil]
      exact ⟨conserved, closed, quiet⟩
  | releases =>
      rw [List.append_nil]
      exact ⟨conserved, closed, fun isOver => ⟨(quiet isOver).1.release, (quiet isOver).2⟩⟩
  | @hears source frame active =>
      have going : server.reading.isOver = false := by rw [active]; rfl
      have goesOn : ({ server with source }.react frame).reading.isOver = false := by
        rw [reading_react]
        split
        · rfl
        · exact going
      rcases writer_react { server with source } frame with ⟨_, written, isWriterDone⟩
      refine ⟨?_, ?_, fun isOver => ?_⟩
      · rw [written, isWriterDone, queue_react]
        simp [← conserved]
      · simp [goesOn, closed, going]
      · rw [goesOn] at isOver
        cases isOver
  | ceases active =>
      have going : server.reading.isOver = false := by rw [active]; rfl
      rw [List.append_nil]
      refine ⟨conserved, ?_, fun isOver => by cases isOver⟩
      rw [closed, going]
      rfl
  | @steps task free =>
      refine ⟨?_, ?_, fun isOver => ?_⟩
      · rw [List.filterMap_append, Event.filterMap_delivered fun _ => rfl, List.append_nil]
        exact conserved
      · rw [List.filterMap_append, List.filterMap_append, Event.filterMap_delivered fun _ => rfl,
          Event.filterMap_delivered fun _ => rfl, List.append_nil, List.append_nil]
        exact closed
      · -- A task that has ended has no step to make, so nothing new is collected.
        rcases quiet isOver with ⟨ended, empty⟩
        simp only [collect, ended.step task, cleared]
        exact ⟨ended, by simp [empty]⟩
  | @publishes task frame first =>
      -- There is something in the outbox, so the writer has not been told to stop.
      have going : server.reading.isOver = false := by
        cases isOver : server.reading.isOver with
        | false => rfl
        | true => simp [(quiet isOver).2] at first
      refine ⟨?_, ?_, fun isOver => ?_⟩
      · simp [enqueue, Event.command?, ← conserved]
      · simp [enqueue, Event.command?, Event.frame?, closed, going]
      · exact absurd isOver (by simp [enqueue, going])
  | finishes draining allDone =>
      have going : server.reading.isOver = false := by rw [draining]; rfl
      simp only [Server.allDone, Bool.and_eq_true, List.isEmpty_iff] at allDone
      refine ⟨?_, ?_, fun _ => ⟨Pool.ended_of_allDone allDone.1, allDone.2⟩⟩
      · simp [Event.command?, ← conserved]
      · rw [List.filterMap_append, List.filterMap_append, closed, going]
        simp [Event.command?, Event.frame?, List.filterMap_cons, Reading.isOver]
  | writes working queue =>
      rw [List.append_nil]
      refine ⟨?_, closed, quiet⟩
      rw [← conserved]
      simp [working, queue]
  | stops working queue =>
      rw [List.append_nil]
      refine ⟨?_, closed, quiet⟩
      rw [← conserved]
      simp [working, queue]

/-! ## The reader -/

/-- The reader has conversed about what it has heard, and posted the answers. -/
structure Spoken (start : Session) (events : List Event) (server : Server engine) : Prop where
  session : server.session = start.reached (events.filterMap Event.heard?)
  listening : server.reading = .active →
    ∀ frame ∈ events.filterMap Event.heard?, isExit frame = false
  replies : events.filterMap (Event.frameBy? none) = start.replies (events.filterMap Event.heard?)

/-- Nothing is heard or answered. -/
theorem Spoken.unheard {start : Session} {events more : List Event} {server next : Server engine}
    (spoken : Spoken start events server) (unheard : more.filterMap Event.heard? = [])
    (unanswered : more.filterMap (Event.frameBy? none) = [])
    (session : next.session = server.session)
    (reading : next.reading = .active → server.reading = .active) :
    Spoken start (events ++ more) next where
  session := by rw [List.filterMap_append, unheard, List.append_nil, session, spoken.session]
  listening := by
    rw [List.filterMap_append, unheard, List.append_nil]
    exact spoken.listening ∘ reading
  replies := by
    rw [List.filterMap_append, List.filterMap_append, unheard, unanswered, List.append_nil,
      List.append_nil, spoken.replies]

theorem Spoken.acted {start : Session} {events more : List Event} {server next : Server engine}
    (spoken : Spoken start events server) (act : Act server more next) :
    Spoken start (events ++ more) next := by
  cases act with
  | rests => exact spoken.unheard rfl rfl rfl id
  | releases => exact spoken.unheard rfl rfl rfl id
  | @hears source frame active =>
      have stays := spoken.listening active
      refine ⟨?_, ?_, ?_⟩
      · rw [session_react, List.filterMap_append, Event.heard?_answered,
          Session.reached_concat stays, ← spoken.session]
      · intro goesOn other member
        rw [List.filterMap_append, Event.heard?_answered] at member
        rcases List.mem_append.mp member with early | late
        · exact stays other early
        · cases List.mem_singleton.mp late
          cases leaves : isExit frame with
          | false => rfl
          | true => simp [reading_react, leaves] at goesOn
      · rw [List.filterMap_append, List.filterMap_append, Event.heard?_answered,
          Session.replies_concat stays, ← spoken.session, spoken.replies]
        simp
  | ceases active => exact spoken.unheard rfl rfl rfl fun _ => active
  | steps free =>
      exact spoken.unheard (Event.filterMap_delivered (fun _ => rfl) _)
        (Event.filterMap_delivered (fun _ => rfl) _) rfl id
  | publishes first => exact spoken.unheard rfl rfl rfl id
  | finishes draining allDone =>
      exact spoken.unheard rfl rfl rfl fun reading => by cases reading
  | writes working queue => exact spoken.unheard rfl rfl rfl id
  | stops working queue => exact spoken.unheard rfl rfl rfl id

/-! ## The tasks -/

/-- What the tasks were assigned is in their books, and what they have delivered is
published or still to be published. -/
structure Worked (start : Session) (events : List Event) (server : Server engine) : Prop where
  cleared : server.pool.deliveries = []
  ledgers : Ledgers (start.assignments (events.filterMap Event.heard?)) server.pool.tasks
    (events.filterMap Event.delivery?)
  published : ∀ task, events.filterMap (Event.frameBy? (some task)) ++
      (server.outbox.filter (·.1 == task)).map Prod.snd =
    (deliveredBy (events.filterMap Event.delivery?) task).flatMap publications
  accounted : (events.filterMap Event.frame? ++ server.outbox.map Prod.snd).Perm
    (start.replies (events.filterMap Event.heard?) ++
      (events.filterMap Event.delivery?).flatMap publications)

/-- What is found first is what is taken out. -/
private theorem split_of_find? {item : Type} {test : item → Bool} {items : List item} {found : item}
    (first : items.find? test = some found) :
    ∃ front back, items = front ++ found :: back ∧ (∀ other ∈ front, test other = false) ∧
      items.eraseP test = front ++ back := by
  rcases List.find?_eq_some_iff_append.mp first with ⟨passes, front, back, split, fails⟩
  have others : ∀ other ∈ front, ¬ test other = true := by
    intro other member
    simpa using fails other member
  refine ⟨front, back, split, fun other member => by simpa using others other member, ?_⟩
  rw [split, List.eraseP_append_right _ others, List.eraseP_cons_of_pos passes]

/-- No task goes on. -/
theorem Worked.idle {start : Session} {events more : List Event} {server next : Server engine}
    (worked : Worked start events server) (unheard : more.filterMap Event.heard? = [])
    (undelivered : more.filterMap Event.delivery? = [])
    (unpublished : ∀ task, more.filterMap (Event.frameBy? (some task)) = [])
    (unposted : more.filterMap Event.frame? = [])
    (deliveries : next.pool.deliveries = server.pool.deliveries)
    (tasks : next.pool.tasks = server.pool.tasks) (outbox : next.outbox = server.outbox) :
    Worked start (events ++ more) next where
  cleared := deliveries.trans worked.cleared
  ledgers := by
    rw [List.filterMap_append, List.filterMap_append, unheard, undelivered, List.append_nil,
      List.append_nil, tasks]
    exact worked.ledgers
  published := by
    intro task
    rw [List.filterMap_append, List.filterMap_append, unpublished, undelivered, List.append_nil,
      List.append_nil, outbox]
    exact worked.published task
  accounted := by
    rw [List.filterMap_append, List.filterMap_append, List.filterMap_append, unheard, undelivered,
      unposted, List.append_nil, List.append_nil, List.append_nil, outbox]
    exact worked.accounted

private theorem perm_between {item : Type} {front back first second : List item}
    (perm : (front ++ back).Perm (first ++ second)) (middle : List item) :
    (front ++ middle ++ back).Perm (first ++ middle ++ second) := by
  have outside : (front ++ middle ++ back).Perm (middle ++ (front ++ back)) := by
    rw [← List.append_assoc]
    exact List.perm_append_comm.append_right back
  have inside : (middle ++ (first ++ second)).Perm (first ++ middle ++ second) := by
    rw [← List.append_assoc]
    exact List.perm_append_comm.append_right second
  exact (outside.trans (perm.append_left middle)).trans inside

theorem collected (deliveries : List Delivery) :
    (deliveries.flatMap fun delivery => (publications delivery).map (delivery.task, ·)).map
        Prod.snd = deliveries.flatMap publications := by
  rw [List.map_flatMap]
  congr 1
  funext delivery
  simp [Function.comp_def]

/-- What is collected for a task is what it has delivered. -/
theorem collected_by (deliveries : List Delivery) (task : Nat) :
    ((deliveries.flatMap fun delivery => (publications delivery).map (delivery.task, ·)).filter
        (·.1 == task)).map Prod.snd =
      (deliveredBy deliveries task).flatMap publications := by
  induction deliveries with
  | nil => rfl
  | cons delivery deliveries induction =>
      rw [List.flatMap_cons, List.filter_append, List.map_append, induction]
      by_cases own : delivery.task = task
      · simp [deliveredBy, own, List.filter_map, Function.comp_def]
      · simp [deliveredBy, own, List.filter_map, Function.comp_def]

section Worked

variable {start : Session} {events : List Event} {server : Server engine}

/-- A frame that asks for checks starts a task with an empty ledger. -/
theorem Worked.heard (worked : Worked start events server) (spoken : Spoken start events server)
    (active : server.reading = .active) (source : Frame.Source) (frame : Json) :
    Worked start
      (events ++ Event.answered frame (server.session.exchange frame).reaction.reply)
      ({ server with source }.react frame) := by
  have stays := spoken.listening active
  rcases writer_react { server with source } frame with ⟨outbox, _, _⟩
  refine ⟨?cleared, ?ledgers, ?published, ?accounted⟩
  case cleared =>
    rw [pool_react]
    dsimp only
    split
    · exact worked.cleared
    · exact worked.cleared
  case ledgers =>
    rw [List.filterMap_append, List.filterMap_append, Event.heard?_answered,
      Event.delivery?_answered, List.append_nil, Session.assignments_concat stays,
      ← spoken.session, pool_react]
    dsimp only
    split
    · rw [List.append_nil]
      exact worked.ledgers
    · exact worked.ledgers.spawned _
  case published =>
    intro task
    rw [List.filterMap_append, List.filterMap_append, Event.frameBy?_answered,
      Event.delivery?_answered, List.append_nil, outbox]
    simpa using worked.published task
  case accounted =>
    rw [List.filterMap_append, List.filterMap_append, List.filterMap_append,
      Event.frame?_answered, Event.heard?_answered, Event.delivery?_answered, List.append_nil,
      outbox, Session.replies_concat stays, ← spoken.session]
    exact perm_between worked.accounted _

/-- What a step delivers is entered into the ledger of its task, and waits in the outbox. -/
theorem Worked.stepped (worked : Worked start events server) (task : Nat) :
    Worked start (events ++ (server.pool.step task).deliveries.map .delivered)
      { server with pool := server.pool.step task }.collect := by
  have heard : (events ++ (server.pool.step task).deliveries.map Event.delivered).filterMap
      Event.heard? = events.filterMap Event.heard? := by
    rw [List.filterMap_append, Event.filterMap_delivered (fun _ => rfl), List.append_nil]
  have delivered : (events ++ (server.pool.step task).deliveries.map Event.delivered).filterMap
      Event.delivery? = events.filterMap Event.delivery? ++ (server.pool.step task).deliveries := by
    rw [List.filterMap_append, Event.delivery?_delivered]
  refine ⟨rfl, ?ledgers, ?published, ?accounted⟩
  case ledgers =>
    rw [heard, delivered]
    exact worked.ledgers.stepped worked.cleared task
  case published =>
    intro other
    rw [delivered, Pool.deliveredBy_append, List.flatMap_append, ← worked.published other,
      ← collected_by, collect, List.filter_append, List.map_append, List.append_assoc,
      List.filterMap_append, Event.filterMap_delivered (fun _ => rfl), List.append_nil]
  case accounted =>
    rw [heard, delivered, List.flatMap_append, ← List.append_assoc, collect, List.map_append,
      collected, List.filterMap_append, Event.filterMap_delivered (fun _ => rfl), List.append_nil,
      ← List.append_assoc]
    exact worked.accounted.append_right _

/-- What a task publishes is the first that waits for it in the outbox. -/
theorem Worked.publishes (worked : Worked start events server) {task : Nat} {frame : Json}
    (first : server.outbox.find? (·.1 == task) = some (task, frame)) :
    Worked start (events ++ [.posted (some task) (.send frame)])
      ({ server with outbox := server.outbox.eraseP (·.1 == task) }.enqueue [frame]) := by
  rcases split_of_find? first with ⟨front, back, outbox, others, erased⟩
  have heard : (events ++ [Event.posted (some task) (.send frame)]).filterMap Event.heard? =
      events.filterMap Event.heard? := by simp [Event.heard?, List.filterMap_cons]
  have delivered : (events ++ [Event.posted (some task) (.send frame)]).filterMap
      Event.delivery? = events.filterMap Event.delivery? := by
    simp [Event.delivery?, List.filterMap_cons]
  refine ⟨worked.cleared, ?ledgers, ?published, ?accounted⟩
  case ledgers =>
    rw [heard, delivered]
    exact worked.ledgers
  case published =>
    intro other
    rw [delivered, ← worked.published other, enqueue, erased, outbox, List.filterMap_append]
    by_cases own : task = other
    · subst own
      have none : front.filter (·.1 == task) = [] := by simpa using others
      simp [none, Event.frameBy?]
    · simp [own, Event.frameBy?]
  case accounted =>
    rw [heard, delivered, List.filterMap_append, enqueue, erased]
    refine List.Perm.trans ?_ worked.accounted
    rw [outbox]
    simpa [Event.frame?, List.filterMap_cons] using
      List.perm_middle.symm.append_left (events.filterMap Event.frame?)

theorem Worked.acted (worked : Worked start events server) (spoken : Spoken start events server)
    {more : List Event} {next : Server engine} (act : Act server more next) :
    Worked start (events ++ more) next := by
  cases act with
  | rests => exact worked.idle rfl rfl (fun _ => rfl) rfl rfl rfl rfl
  | releases =>
      rw [List.append_nil]
      exact ⟨worked.cleared, worked.ledgers.released, worked.published, worked.accounted⟩
  | hears active => exact worked.heard spoken active _ _
  | ceases active => exact worked.idle rfl rfl (fun _ => rfl) rfl rfl rfl rfl
  | steps free => exact worked.stepped _
  | publishes first => exact worked.publishes first
  | finishes draining allDone => exact worked.idle rfl rfl (fun _ => rfl) rfl rfl rfl rfl
  | writes working queue => exact worked.idle rfl rfl (fun _ => rfl) rfl rfl rfl rfl
  | stops working queue => exact worked.idle rfl rfl (fun _ => rfl) rfl rfl rfl rfl

end Worked

/-! ## The end -/

structure Account (start : Session) (events : List Event) (server : Server engine) : Prop where
  queued : Queued events server
  spoken : Spoken start events server
  worked : Worked start events server

theorem account_follow (engine : Engine) (files : FileSystem) (settings : Settings)
    (moves : List Move) :
    Account { settings } ((start engine files settings).events moves)
      ((start engine files settings).follow moves) := by
  apply follow_induction (Account { settings })
  · exact {
      queued := ⟨rfl, rfl, by simp [start, Reading.isOver]⟩
      spoken := ⟨rfl, by simp, rfl⟩
      worked := ⟨rfl, .empty, fun _ => rfl, .nil⟩ }
  · intro events server move account
    have act := act_after server move
    exact {
      queued := account.queued.acted account.worked.cleared act
      spoken := account.spoken.acted act
      worked := account.worked.acted account.spoken act }

/-- Up to the command to stop all is written, and behind it there is nothing. -/
theorem written_of_stopped {written frames : List Json} {queue : List Command}
    (same : written.map Command.send ++ [.stop] ++ queue = frames.map .send ++ [.stop]) :
    written = frames ∧ queue = [] := by
  induction written generalizing frames with
  | nil =>
      cases frames with
      | nil => exact ⟨rfl, by simpa using same⟩
      | cons frame frames => simp at same
  | cons head tail induction =>
      cases frames with
      | nil => simp at same
      | cons frame frames =>
          simp only [List.map_cons, List.cons_append, List.cons.injEq, Command.send.injEq] at same
          rcases induction same.2 with ⟨equal, empty⟩
          exact ⟨by rw [same.1, equal], empty⟩

/-- What a server leaves when it has ended. -/
structure Complete (start : Session) (events : List Event) (server : Server engine) : Prop where
  /-- The command to stop is the last one, so nothing is published behind it. -/
  stopLast : events.filterMap Event.command? =
    (events.filterMap Event.frame?).map .send ++ [.stop]
  /-- All that was put into the queue is written once, in its order. -/
  output : server.output = (events.filterMap Event.frame?).flatMap Frame.write
  drained : server.queue = []
  /-- These are the answers and the diagnostics of the passes, and nothing else. -/
  frames : (events.filterMap Event.frame?).Perm
    (start.replies (events.filterMap Event.heard?) ++
      (events.filterMap Event.delivery?).flatMap publications)
  replies : events.filterMap (Event.frameBy? none) = start.replies (events.filterMap Event.heard?)
  published : ∀ task, events.filterMap (Event.frameBy? (some task)) =
    (deliveredBy (events.filterMap Event.delivery?) task).flatMap publications
  /-- Every task that was started has ended, with an outcome for every document. -/
  started : server.pool.tasks.length =
    (start.assignments (events.filterMap Event.heard?)).length
  finished : ∀ task assigned,
    (start.assignments (events.filterMap Event.heard?))[task]? = some assigned →
      server.pool.tasks[task]? = some Pool.Task.ended ∧
        Pool.Ledger assigned (Pool.Task.ended : Pool.Task engine)
          (deliveredBy (events.filterMap Event.delivery?) task)

theorem Account.complete {start : Session} {events : List Event} {server : Server engine}
    (account : Account start events server) {ending : Ending}
    (ended : server.ending? = some ending) : Complete start events server := by
  have stopped : server.reading.isOver = true ∧ server.isWriterDone = true := by
    unfold ending? at ended
    split at ended
    · next reading =>
        split at ended
        · next done => exact ⟨by rw [reading]; rfl, done⟩
        · cases ended
    · cases ended
  have quiet := account.queued.quiet stopped.1
  have closed := account.queued.closed
  have conserved := account.queued.conserved
  rw [stopped.1, if_pos rfl] at closed
  rw [stopped.2, if_pos rfl, closed] at conserved
  rcases written_of_stopped conserved with ⟨written, drained⟩
  refine {
    stopLast := closed
    output := by rw [output, written]
    drained
    frames := by simpa [quiet.2] using account.worked.accounted
    replies := account.spoken.replies
    published := fun task => by simpa [quiet.2] using account.worked.published task
    started := account.worked.ledgers.count
    finished := ?_ }
  intro task assigned found
  rcases account.worked.ledgers.each task assigned found with ⟨current, present, ledger⟩
  have isEnded := quiet.1 current (List.mem_of_getElem? present)
  rw [isEnded] at present ledger
  exact ⟨present, ledger⟩

namespace Leaving

def frames : List Json :=
  [.obj [("id", .int 1), ("method", .str "initialize")],
    .obj [("method", .str "textDocument/didOpen"), ("params", .obj [("textDocument",
      .obj [("text", .str ""), ("uri", .str "file:///p/a.cto")])])],
    .obj [("method", .str "exit")]]

def moves : List Move :=
  [.receive (frames.map Frame.write), .read, .read, .step 0, .read, .finish, .step 0, .write,
    .step 0, .finish, .step 0, .finish, .write, .write]

def fresh : Server .lenient := start .lenient ⟨[], []⟩ {}

end Leaving

end Server

end TemplateCheck
