import Mathlib.Data.List.Forall2
import TemplateCheck.Proofs.Ordered
import TemplateCheck.Proofs.Pass.Steady
import TemplateCheck.Proofs.Session.Initialize
import TemplateCheck.Server

/-! # Conversations

A session handles frames one after the other until it is told to exit. A frame with an
identifier and a method is a request and is answered once; no other frame is. A session
is initialized at most once, and from the time it has agreed to shut down it refuses
every request and stays as it is.
-/

namespace TemplateCheck

namespace Json

theorem lookup_eq_find? (key : String) (entries : List (String × Json)) :
    entries.lookup key = Ordered.find? compare key entries := by
  induction entries with
  | nil => rfl
  | cons head tail induction =>
      rcases head with ⟨headName, headContent⟩
      by_cases equal : key = headName
      · simp [Ordered.find?, equal, Std.ReflCmp.compare_self]
      · have order : compare key headName ≠ .eq :=
          fun order => equal (Std.LawfulEqOrd.compare_eq_iff_eq.mp order)
        have differs : (key == headName) = false := beq_false_of_ne equal
        simp only [List.lookup_cons, differs, Ordered.find?, induction]

theorem lookup_put (name key : String) (content : Json) (entries : List (String × Json)) :
    (Ordered.put compare name content entries).lookup key =
      if key = name then some content else entries.lookup key := by
  have lawful : Ordered.Lawful (compare : String → String → Ordering) := by
    refine ⟨fun name => Std.ReflCmp.compare_self, ?_⟩
    intro left right equal
    rw [Std.LawfulEqOrd.compare_eq_iff_eq.mp equal]
  simp only [lookup_eq_find?, Ordered.find?_put lawful, Std.LawfulEqOrd.compare_eq_iff_eq]

/-- Of members with one name the last counts. -/
theorem get?_ofMembers (members : List (String × Json)) (key : String) :
    (ofMembers members).get? key = members.reverse.lookup key := by
  have general : ∀ (members entries : List (String × Json)),
      (members.foldl (fun sorted member => Ordered.put compare member.1 member.2 sorted)
        entries).lookup key = (members.reverse.lookup key).or (entries.lookup key) := by
    intro members
    induction members with
    | nil => exact fun entries => rfl
    | cons first rest induction =>
        intro entries
        rcases first with ⟨name, content⟩
        rw [List.foldl_cons, induction, lookup_put, List.reverse_cons, List.lookup_append,
          Option.or_assoc]
        by_cases equal : key = name
        · simp [equal]
        · have differs : (key == name) = false := beq_false_of_ne equal
          simp [equal, differs, List.lookup_cons]
  have all := general members []
  rw [List.lookup_nil, Option.or_none] at all
  exact all

end Json

namespace Session

/-! What a frame is, by its members. -/

/-- The identifier of a request, which may be any value. -/
def requestId? (frame : Json) : Option Json :=
  match frame.get? "id", frame.get? "method" with
  | some id, some (.str _) => some id
  | _, _ => none

def isExit (frame : Json) : Bool :=
  match frame.get? "id", frame.get? "method" with
  | none, some (.str method) => method == "exit"
  | _, _ => false

/-- The frames that a session gets to see. -/
def upToExit : List Json → List Json
  | [] => []
  | frame :: frames => frame :: if isExit frame then [] else upToExit frames

/-- An answer to the request with an identifier. -/
structure Response (id reply : Json) : Prop where
  version : reply.get? "jsonrpc" = some (.str "2.0")
  echo : reply.get? "id" = some id
  either : (reply.get? "result").isSome ≠ (reply.get? "error").isSome

theorem response_reply (id : Json) (answer : Except Refusal Json) :
    Response id (reply id answer) := by
  cases answer with
  | ok result => constructor <;> simp [reply, Json.get?_ofMembers, List.lookup_cons]
  | error refusal => constructor <;> simp [reply, Json.get?_ofMembers, List.lookup_cons]

theorem result_reply (id : Json) (answer : Except Refusal Json) :
    (reply id answer).get? "result" = answer.toOption := by
  cases answer with
  | ok result => simp [reply, Json.get?_ofMembers, Except.toOption]
  | error refusal => simp [reply, Json.get?_ofMembers, List.lookup_cons, Except.toOption]

theorem code_reply (id : Json) (refusal : Refusal) :
    ((reply id (.error refusal)).get? "error").bind (·.get? "code") =
      some (.int refusal.code) := by
  simp [reply, Json.get?_ofMembers, List.lookup_cons]

/-- A frame with the session that it found and what it brought about. -/
structure Exchange where
  before : Session
  frame : Json
  reaction : Reaction
  after : Session

def exchange (session : Session) (frame : Json) : Exchange where
  before := session
  frame
  reaction := (session.handle frame).2
  after := (session.handle frame).1

/-- Handle frames up to the first one that ends the session. -/
def converse (session : Session) : List Json → List Exchange
  | [] => []
  | frame :: frames =>
      let exchange := session.exchange frame
      exchange :: if exchange.reaction.exits then [] else exchange.after.converse frames

/-- The four ways to handle a frame. -/
inductive Handled : Exchange → Prop where
  | request (session : Session) (frame id : Json) (method : String)
      (isId : frame.get? "id" = some id) (isMethod : frame.get? "method" = some (.str method)) :
      Handled ⟨session, frame,
        { reply := some (reply id (session.handleRequest method (frame.get? "params")).2) },
        (session.handleRequest method (frame.get? "params")).1⟩
  | notification (session : Session) (frame : Json) (method : String)
      (noId : frame.get? "id" = none) (isMethod : frame.get? "method" = some (.str method))
      (stays : method ≠ "exit") :
      Handled ⟨session, frame,
        { jobs := (session.handleNotification method (frame.get? "params")).2 },
        (session.handleNotification method (frame.get? "params")).1⟩
  | exit (session : Session) (frame : Json) (noId : frame.get? "id" = none)
      (isMethod : frame.get? "method" = some (.str "exit")) :
      Handled ⟨session, frame, { exits := true }, session⟩
  | ignored (session : Session) (frame : Json)
      (noMethod : ∀ method, frame.get? "method" ≠ some (.str method)) :
      Handled ⟨session, frame, {}, session⟩

theorem text?_eq_some_iff {json : Json} {text : String} :
    json.text? = some text ↔ json = .str text := by
  cases json <;> simp [Json.text?]

theorem handled_exchange (session : Session) (frame : Json) :
    Handled (session.exchange frame) := by
  unfold exchange
  cases isMethod : (frame.get? "method").bind Json.text? with
  | none =>
      have unchanged : session.handle frame = (session, {}) := by
        cases isId : frame.get? "id" with
        | none => simp [handle, Incoming.of?, isId, isMethod]
        | some id =>
            simp only [handle, Incoming.of?, isId, isMethod]
            split <;> simp_all
      rw [unchanged]
      refine .ignored session frame fun method equal => ?_
      simp [equal, Json.text?] at isMethod
  | some method =>
      have member : frame.get? "method" = some (.str method) := by
        rcases Option.bind_eq_some_iff.mp isMethod with ⟨json, found, isText⟩
        rw [found, text?_eq_some_iff.mp isText]
      cases isId : frame.get? "id" with
      | some id =>
          simpa [handle, Incoming.of?, isId, isMethod] using
            Handled.request session frame id method isId member
      | none =>
          by_cases leaves : method = "exit"
          · subst leaves
            simpa [handle, Incoming.of?, isId, isMethod] using
              Handled.exit session frame isId member
          · simpa [handle, Incoming.of?, isId, isMethod, leaves] using
              Handled.notification session frame method isId member leaves

/-! The two marks of a session: that it is initialized and that it is shutting down. Once
it bears one it keeps it. -/

structure Later (before after : Session) : Prop where
  initialized : before.checker.isSome = true → after.checker.isSome = true
  shuttingDown : before.isShuttingDown = true → after.isShuttingDown = true

theorem Later.refl (session : Session) : Later session session :=
  ⟨id, id⟩

theorem Later.trans {first second third : Session} (early : Later first second)
    (late : Later second third) : Later first third :=
  ⟨late.initialized ∘ early.initialized, late.shuttingDown ∘ early.shuttingDown⟩

/-- An initialize request is refused, or it finds a session that was not initialized and
tries to equip it. -/
theorem setUp_cases (session : Session) (params : Option Json) :
    (∃ refusal, session.setUp params = (session, .error refusal)) ∨
      ∃ asked options, session.checker = none ∧
        session.setUp params = (session.adopt asked options).equip := by
  by_cases initialized : session.checker.isSome = true
  · exact Or.inl ⟨_, setUp_of_initialized initialized params⟩
  · have fresh : session.checker = none := by simpa using initialized
    cases isAsked : asked? params with
    | none => exact Or.inl (setUp_of_unread fresh isAsked)
    | some parts => exact Or.inr ⟨parts.1, parts.2, fresh, setUp_of_asked fresh isAsked⟩

theorem shuttingDown_equip (session : Session) :
    session.equip.1.isShuttingDown = session.isShuttingDown := by
  unfold equip
  split
  · rfl
  · rfl

theorem later_setUp (session : Session) (params : Option Json) :
    Later session (session.setUp params).1 := by
  rcases setUp_cases session params with ⟨refusal, refused⟩ | ⟨asked, options, fresh, tried⟩
  · rw [refused]
    exact .refl session
  · rw [tried]
    constructor
    · intro initialized
      simp [fresh] at initialized
    · intro shuttingDown
      rw [shuttingDown_equip]
      exact shuttingDown

theorem setUp_granted {session : Session} {params : Option Json} {result : Json}
    (granted : (session.setUp params).2 = .ok result) :
    session.checker = none ∧ (session.setUp params).1.checker.isSome = true := by
  rcases setUp_cases session params with ⟨refusal, refused⟩ | ⟨asked, options, fresh, tried⟩
  · rw [refused] at granted
    cases granted
  · refine ⟨fresh, ?_⟩
    rw [tried, equip] at granted ⊢
    cases made : Checker.ofLayout (session.adopt asked options).settings.layout with
    | error fault => simp [made] at granted
    | ok checker => rfl

theorem handleRequest_of_shuttingDown {session : Session}
    (shuttingDown : session.isShuttingDown = true) (method : String) (params : Option Json) :
    session.handleRequest method params =
      (session, .error (invalidRequest ("Server is shutting down, rejecting " ++ method))) := by
  rw [handleRequest, if_pos shuttingDown]

theorem later_handleRequest (session : Session) (method : String) (params : Option Json) :
    Later session (session.handleRequest method params).1 := by
  unfold handleRequest
  split
  · exact .refl session
  · split
    · exact later_setUp session params
    · split
      · exact ⟨id, fun _ => rfl⟩
      · exact .refl session

theorem later_handleNotification (session : Session) (method : String) (params : Option Json) :
    Later session (session.handleNotification method params).1 := by
  unfold handleNotification
  split
  · unfold edit
    dsimp only
    split
    · exact ⟨id, id⟩
    · exact ⟨id, id⟩
  · split
    · split
      · exact ⟨id, id⟩
      · exact .refl session
    · split
      · split
        · unfold changeFolders
          dsimp only
          split
          · exact ⟨id, id⟩
          · exact ⟨id, id⟩
        · exact .refl session
      · exact .refl session

namespace Exchange

/-- The result that a request was answered with. -/
def result? (exchange : Exchange) : Option Json :=
  exchange.reaction.reply.bind (·.get? "result")

/-- The code of the error that a request was answered with. -/
def errorCode? (exchange : Exchange) : Option Json :=
  (exchange.reaction.reply.bind (·.get? "error")).bind (·.get? "code")

/-- The frame asked for something and was answered with a result. -/
def Grants (exchange : Exchange) (method : String) : Prop :=
  exchange.frame.get? "method" = some (.str method) ∧ exchange.result?.isSome = true

end Exchange

/-! What one exchange does. -/

namespace Handled

variable {exchange : Exchange}

theorem later (handled : Handled exchange) : Later exchange.before exchange.after := by
  cases handled with
  | request session frame id method isId isMethod => exact later_handleRequest session method _
  | notification session frame method noId isMethod stays =>
      exact later_handleNotification session method _
  | exit session frame noId isMethod => exact .refl session
  | ignored session frame noMethod => exact .refl session

theorem exits (handled : Handled exchange) : exchange.reaction.exits = isExit exchange.frame := by
  cases handled with
  | request session frame id method isId isMethod => simp [isExit, isId]
  | notification session frame method noId isMethod stays =>
      simp [isExit, noId, isMethod, stays]
  | exit session frame noId isMethod => simp [isExit, noId, isMethod]
  | ignored session frame noMethod => simp [isExit, noMethod]

/-- A request is answered, and nothing else is. -/
theorem replies (handled : Handled exchange) :
    Option.Rel Response (requestId? exchange.frame) exchange.reaction.reply := by
  cases handled with
  | request session frame id method isId isMethod =>
      simp only [requestId?, isId, isMethod]
      exact .some (response_reply id _)
  | notification session frame method noId isMethod stays =>
      simp only [requestId?, noId]
      exact .none
  | exit session frame noId isMethod =>
      simp only [requestId?, noId]
      exact .none
  | ignored session frame noMethod =>
      have noRequest : requestId? frame = none := by simp [requestId?, noMethod]
      rw [noRequest]
      exact .none

/-- A result is what the method of the request gave. -/
theorem granted (handled : Handled exchange) {method : String}
    (grants : exchange.Grants method) :
    ∃ params result,
      exchange.before.handleRequest method params = (exchange.after, .ok result) := by
  rcases grants with ⟨asks, isSome⟩
  cases handled with
  | request session frame id own isId isMethod =>
      cases isMethod.symm.trans asks
      simp only [Exchange.result?, Option.bind_some, result_reply] at isSome
      cases answer : (session.handleRequest method (frame.get? "params")).2 with
      | ok result => exact ⟨frame.get? "params", result, Prod.ext rfl answer⟩
      | error refusal => simp [answer, Except.toOption] at isSome
  | notification session frame method noId isMethod stays => cases isSome
  | exit session frame noId isMethod => cases isSome
  | ignored session frame noMethod => cases isSome

theorem initializes (handled : Handled exchange) (grants : exchange.Grants "initialize") :
    exchange.before.checker = none ∧ exchange.after.checker.isSome = true := by
  rcases handled.granted grants with ⟨params, result, handles⟩
  cases running : exchange.before.isShuttingDown with
  | true =>
      rw [handleRequest_of_shuttingDown running] at handles
      cases congrArg Prod.snd handles
  | false =>
      rw [handleRequest_of_running running] at handles
      have isGranted := setUp_granted (congrArg Prod.snd handles)
      rw [handles] at isGranted
      exact isGranted

theorem shutsDown (handled : Handled exchange) (grants : exchange.Grants "shutdown") :
    exchange.after.isShuttingDown = true := by
  rcases handled.granted grants with ⟨params, result, handles⟩
  cases running : exchange.before.isShuttingDown with
  | true =>
      rw [handleRequest_of_shuttingDown running] at handles
      cases congrArg Prod.snd handles
  | false =>
      have isAfter : { exchange.before with isShuttingDown := true } = exchange.after := by
        simpa [handleRequest, running] using congrArg Prod.fst handles
      rw [← isAfter]

/-- A session that is shutting down refuses every request and stays as it is. -/
theorem refuses (handled : Handled exchange)
    (shuttingDown : exchange.before.isShuttingDown = true)
    (isRequest : (requestId? exchange.frame).isSome = true) :
    exchange.errorCode? = some (.int (-32600)) ∧ exchange.after = exchange.before ∧
      exchange.reaction.jobs = [] := by
  cases handled with
  | request session frame id method isId isMethod =>
      simp only at shuttingDown
      simp only [Exchange.errorCode?, handleRequest_of_shuttingDown shuttingDown, Option.bind_some,
        code_reply]
      simp [invalidRequest]
  | notification session frame method noId isMethod stays => simp [requestId?, noId] at isRequest
  | exit session frame noId isMethod => simp [requestId?, noId] at isRequest
  | ignored session frame noMethod => simp [requestId?, noMethod] at isRequest

end Handled

/-! What a whole conversation does. -/

section Converse

variable (session : Session) (frames : List Json)

theorem converse_cons (frame : Json) :
    session.converse (frame :: frames) = session.exchange frame ::
      if isExit frame then [] else (session.exchange frame).after.converse frames := by
  have exits : (session.exchange frame).reaction.exits = isExit frame :=
    (handled_exchange session frame).exits
  rw [converse, exits]

/-- Every exchange handles its frame, and finds what the session was or what it has become. -/
theorem mem_converse {exchange : Exchange} (member : exchange ∈ session.converse frames) :
    Handled exchange ∧ Later session exchange.before := by
  induction frames generalizing session with
  | nil => cases member
  | cons frame frames induction =>
      rw [converse_cons] at member
      rcases List.mem_cons.mp member with rfl | rest
      · exact ⟨handled_exchange session frame, .refl session⟩
      · cases leaves : isExit frame with
        | true => simp [leaves] at rest
        | false =>
            rw [leaves] at rest
            rcases induction _ rest with ⟨handled, later⟩
            exact ⟨handled, (handled_exchange session frame).later.trans later⟩

/-- What an exchange leaves is kept until every later one. -/
theorem pairwise_later_converse :
    (session.converse frames).Pairwise fun early late => Later early.after late.before := by
  induction frames generalizing session with
  | nil => exact .nil
  | cons frame frames induction =>
      rw [converse_cons]
      cases leaves : isExit frame with
      | true => exact List.pairwise_singleton _ _
      | false => exact .cons (fun _ member => (mem_converse _ frames member).2) (induction _)

theorem frames_converse : (session.converse frames).map Exchange.frame = upToExit frames := by
  induction frames generalizing session with
  | nil => rfl
  | cons frame frames induction =>
      rw [converse_cons, upToExit]
      cases leaves : isExit frame with
      | true => rfl
      | false => simp [induction, exchange]

/-- The session that a conversation leads to. -/
def reached : Session :=
  ((session.converse frames).getLast?.map Exchange.after).getD session

theorem reached_cons (frame : Json) :
    session.reached (frame :: frames) =
      if isExit frame then (session.exchange frame).after
      else (session.exchange frame).after.reached frames := by
  rw [reached, converse_cons, List.getLast?_cons]
  cases leaves : isExit frame with
  | true => rfl
  | false => simp [reached]

/-- One more frame is handled by the session that the frames before it lead to. -/
theorem converse_concat (stays : ∀ frame ∈ frames, isExit frame = false) (last : Json) :
    session.converse (frames ++ [last]) =
      session.converse frames ++ [(session.reached frames).exchange last] := by
  induction frames generalizing session with
  | nil => simp [converse, reached]
  | cons frame frames induction =>
      have first : isExit frame = false := stays frame List.mem_cons_self
      have rest := induction (session.exchange frame).after
        fun other member => stays other (List.mem_cons_of_mem _ member)
      rw [List.cons_append, converse_cons, converse_cons, reached_cons, first]
      simp [rest]

/-- The answers of a conversation. -/
def replies : List Json :=
  (session.converse frames).filterMap (·.reaction.reply)

theorem replies_cons (frame : Json) :
    session.replies (frame :: frames) = (session.exchange frame).reaction.reply.toList ++
      if isExit frame then [] else (session.exchange frame).after.replies frames := by
  rw [replies, converse_cons, List.filterMap_cons]
  cases leaves : isExit frame with
  | true => cases (session.exchange frame).reaction.reply <;> rfl
  | false => cases (session.exchange frame).reaction.reply <;> rfl

theorem responses_replies :
    List.Forall₂ Response ((upToExit frames).filterMap requestId?) (session.replies frames) := by
  have general : ∀ exchanges : List Exchange, (∀ exchange ∈ exchanges, Handled exchange) →
      List.Forall₂ Response ((exchanges.map Exchange.frame).filterMap requestId?)
        (exchanges.filterMap (·.reaction.reply)) := by
    intro exchanges
    induction exchanges with
    | nil => exact fun _ => .nil
    | cons exchange exchanges induction =>
        intro handled
        have rest := induction fun other member => handled other (List.mem_cons_of_mem _ member)
        have first := (handled exchange List.mem_cons_self).replies
        rw [List.map_cons, List.filterMap_cons, List.filterMap_cons]
        revert first
        generalize requestId? exchange.frame = id?, exchange.reaction.reply = reply?
        intro first
        cases first with
        | none => exact rest
        | some response => exact .cons response rest
  rw [← frames_converse session frames]
  exact general _ fun _ member => (mem_converse session frames member).1

theorem initializes_once :
    (session.converse frames).Pairwise fun early late =>
      early.Grants "initialize" → ¬ late.Grants "initialize" := by
  refine (pairwise_later_converse session frames).imp_of_mem ?_
  intro early late earlyMember lateMember later grants again
  have initialized := (mem_converse session frames earlyMember).1.initializes grants
  have fresh := (mem_converse session frames lateMember).1.initializes again
  have still := later.initialized initialized.2
  simp [fresh.1] at still

/-- Once a shutdown was granted every request is refused and changes nothing. -/
theorem refuses_after_shutdown :
    (session.converse frames).Pairwise fun early late =>
      early.Grants "shutdown" → (requestId? late.frame).isSome = true →
        late.errorCode? = some (.int (-32600)) ∧ late.after = late.before ∧
          late.reaction.jobs = [] := by
  refine (pairwise_later_converse session frames).imp_of_mem ?_
  intro early late earlyMember lateMember later grants
  have shuttingDown := (mem_converse session frames earlyMember).1.shutsDown grants
  exact (mem_converse session frames lateMember).1.refuses (later.shuttingDown shuttingDown)

end Converse

end Session

namespace Server

open Session (Exchange Response isExit requestId? upToExit)

variable {engine : Engine} (server : Server engine)

/-- React to frames as long as frames are read. -/
def hear (server : Server engine) : List Json → Server engine
  | [] => server
  | frame :: frames =>
      if server.reading = .active then (server.react frame).hear frames else server

theorem session_react (frame : Json) :
    (server.react frame).session = (server.session.exchange frame).after := by
  unfold react
  dsimp only
  split
  · rfl
  · rfl

theorem queue_react (frame : Json) :
    (server.react frame).queue = server.queue ++
      (server.session.exchange frame).reaction.reply.toList.map .send := by
  unfold react
  dsimp only
  split
  · rfl
  · rfl

theorem reading_react (frame : Json) :
    (server.react frame).reading = if isExit frame then .draining .clean else server.reading := by
  have exits : (server.session.handle frame).2.exits = isExit frame :=
    (Session.handled_exchange server.session frame).exits
  unfold react
  dsimp only
  rw [exits]
  split
  · rfl
  · rfl

theorem hear_of_ne {frames : List Json} (ended : server.reading ≠ .active) :
    server.hear frames = server := by
  cases frames with
  | nil => rfl
  | cons frame frames => rw [hear, if_neg ended]

theorem hear_cons {frame : Json} {frames : List Json} (active : server.reading = .active) :
    server.hear (frame :: frames) =
      if isExit frame then server.react frame else (server.react frame).hear frames := by
  rw [hear, if_pos active]
  cases leaves : isExit frame with
  | true =>
      apply hear_of_ne
      simp [reading_react, leaves]
  | false => rfl

/-- Hearing frames is conversing with the session and putting the answers into the queue. -/
theorem hear_eq {frames : List Json} (active : server.reading = .active) :
    (server.hear frames).reading = (if frames.any isExit then .draining .clean else .active) ∧
      (server.hear frames).session = server.session.reached frames ∧
      (server.hear frames).queue =
        server.queue ++ (server.session.replies frames).map .send := by
  induction frames generalizing server with
  | nil => simp [hear, active, Session.reached, Session.converse, Session.replies]
  | cons frame frames induction =>
      rw [hear_cons server active, Session.replies_cons, Session.reached_cons]
      cases leaves : isExit frame with
      | true => simp [reading_react, session_react, queue_react, leaves]
      | false =>
          have stays : (server.react frame).reading = .active := by
            simp [reading_react, leaves, active]
          rcases induction (server.react frame) stays with ⟨reading, session, queue⟩
          rw [session_react] at session queue
          rw [queue_react] at queue
          refine ⟨?_, ?_, ?_⟩
          · simpa [leaves] using reading
          · simp [session]
          · simp [queue]

/-- What a server that reads frames makes of them. -/
structure Conversation (server : Server engine) (frames : List Json) : Prop where
  /-- No frame but an exit notification ends the reading. -/
  heard : (server.session.converse frames).map Exchange.frame = upToExit frames
  reading : (server.hear frames).reading =
    if frames.any isExit then .draining .clean else .active
  session : (server.hear frames).session = server.session.reached frames
  enqueued : (server.hear frames).queue =
    server.queue ++ (server.session.replies frames).map .send
  /-- There is one answer for every request, in their order. -/
  answered : List.Forall₂ Response ((upToExit frames).filterMap requestId?)
    (server.session.replies frames)
  unanswered : ∀ exchange ∈ server.session.converse frames,
    requestId? exchange.frame = none → exchange.reaction.reply = none
  initializesOnce : (server.session.converse frames).Pairwise fun early late =>
    early.Grants "initialize" → ¬ late.Grants "initialize"
  refusesAfterShutdown : (server.session.converse frames).Pairwise fun early late =>
    early.Grants "shutdown" → (requestId? late.frame).isSome = true →
      late.errorCode? = some (.int (-32600)) ∧ late.after = late.before ∧
        late.reaction.jobs = []

/-- Every request is answered once and in its turn, nothing else is answered, and a server
that has agreed to initialize or to shut down does not do so again. -/
theorem conversation_hear (active : server.reading = .active) (frames : List Json) :
    server.Conversation frames := by
  rcases server.hear_eq active with ⟨reading, session, queue⟩
  refine {
    heard := Session.frames_converse server.session frames
    reading
    session
    enqueued := queue
    answered := Session.responses_replies server.session frames
    unanswered := ?_
    initializesOnce := Session.initializes_once server.session frames
    refusesAfterShutdown := Session.refuses_after_shutdown server.session frames }
  intro exchange member noRequest
  have replies := (Session.mem_converse server.session frames member).1.replies
  rw [noRequest] at replies
  cases reply : exchange.reaction.reply with
  | none => rfl
  | some answer =>
      rw [reply] at replies
      cases replies

/-! An initialization with a null identifier, one that comes too late, a shutdown, a
request after it, a response, and an exit with a request behind it. -/

namespace Farewell

def request (id : Json) (method : String) : Json :=
  .obj [("id", id), ("method", .str method)]

def frames : List Json :=
  [request .null "initialize", request (.arr [.int 1]) "initialize", request (.str "s") "shutdown",
    request (.bool false) "initialize", .obj [("id", .int 7), ("result", .null)],
    .obj [("method", .str "exit")], request (.int 8) "shutdown"]

def fresh : Server .lenient := start .lenient ⟨[], []⟩ {}

theorem conversation_farewell :
    fresh.reading = .active ∧ fresh.Conversation frames ∧
      (upToExit frames).length = 6 ∧ (fresh.session.replies frames).length = 4 :=
  ⟨rfl, conversation_hear fresh rfl frames, by decide +kernel, by decide +kernel⟩

end Farewell

end Server

end TemplateCheck
