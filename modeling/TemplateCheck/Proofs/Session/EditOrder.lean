import TemplateCheck.Proofs.Pool.Errands
import TemplateCheck.Proofs.Pool.Supersession
import TemplateCheck.Session.Basic

/-! # The order of edits

An editor edits one document again and again, and every edit starts a task. A
task takes its ticket on its own time, after it has looked for the root, and it
publishes on its own time, after it has left the root. So it is not the order of
the edits that decides which text is published last, but the order in which
their tasks take tickets and publish. The last edit has the last word exactly
when no earlier one overtakes it at either of the two.
-/

namespace TemplateCheck

open Roots (Ticket)

/-- What happens while an editor is at work: it sends a notification, or a task
makes a step. -/
inductive Stroke where
  | notify (method : String) (params : Option Json)
  | step (task : Nat)

namespace Session

/-- The moves of the pool behind a session. -/
def play (session : Session) : List Stroke → List Pool.Move
  | [] => []
  | .notify method params :: strokes =>
      let (session, jobs) := session.handleNotification method params
      if jobs.isEmpty then session.play strokes else .spawn jobs :: session.play strokes
  | .step task :: strokes => .step task :: session.play strokes

/-- The texts that the notifications bring, in their order. -/
def edits (strokes : List Stroke) : List Document :=
  strokes.filterMap fun
    | .notify method params => (edited? method params).map fun edit => ⟨edit.1, edit.2⟩
    | .step _ => none

/-- All notifications edit one document. -/
def EditsOnly (uri : Uri) (strokes : List Stroke) : Prop :=
  ∀ method params, .notify method params ∈ strokes →
    ∃ own text, edited? method params = some (own, text) ∧ own.same uri = true

/-- A session that is initialized and checks only what is edited. -/
structure ChecksEdits (session : Session) (checker : Checker) : Prop where
  initialized : session.checker = some checker
  alone : session.settings.session.revalidatesOpenDocuments = false

theorem ChecksEdits.edit {session : Session} {checker : Checker}
    (checks : ChecksEdits session checker) (uri : Uri) (text : String) :
    ChecksEdits (session.edit uri text).1 checker ∧
      (session.edit uri text).2 = [.validate checker ⟨uri, text⟩] := by
  have found : Ordered.find? Uri.compare uri
      (Ordered.put Uri.compare uri text session.documents) = some text := by
    rw [Uri.find?_put, if_pos (Uri.same_refl uri)]
  constructor
  · constructor
    · simp [Session.edit, checks.initialized]
    · simp [Session.edit, checks.initialized, checks.alone]
  · simp [Session.edit, checks.initialized, toCheck, checks.alone, text?, found]

/-- Every edit starts the task with its number. -/
theorem errands_play {engine : Engine} {session : Session} {checker : Checker} {uri : Uri}
    (checks : ChecksEdits session checker) {strokes : List Stroke}
    (edits' : EditsOnly uri strokes) {deeds : List (Pool.Deed engine)} {pool : Pool engine}
    {documents : List Document} (errands : Pool.Errands deeds pool checker documents) :
    Pool.Errands (deeds ++ pool.deeds (session.play strokes)) (pool.run (session.play strokes))
      checker (documents ++ edits strokes) := by
  induction strokes generalizing session deeds pool documents with
  | nil => simpa [play, edits, Pool.deeds, Pool.run] using errands
  | cons stroke strokes induction =>
      have others : EditsOnly uri strokes := by
        intro method params member
        exact edits' method params (List.mem_cons_of_mem _ member)
      cases stroke with
      | notify method params =>
          rcases edits' method params List.mem_cons_self with ⟨own, text, edited, _⟩
          rcases checks.edit own text with ⟨later, jobs⟩
          have played : session.play (.notify method params :: strokes) =
              .spawn [.validate checker ⟨own, text⟩] :: (session.edit own text).1.play strokes := by
            simp [play, handleNotification, edited, jobs]
          have listed : edits (.notify method params :: strokes) =
              ⟨own, text⟩ :: edits strokes := by
            simp [edits, edited]
          have rest := induction later others (errands.spawned ⟨own, text⟩)
          rw [played, listed]
          simpa [Pool.deeds, Pool.run, Pool.deedsOf, Pool.after] using rest
      | step task =>
          have rest := induction checks others (errands.stepped task)
          have listed : edits (.step task :: strokes) = edits strokes := rfl
          rw [listed]
          simpa [play, Pool.deeds, Pool.run, Pool.deedsOf, Pool.after] using rest

theorem uri_of_edits {uri : Uri} {strokes : List Stroke} (edits' : EditsOnly uri strokes)
    {document : Document} (member : document ∈ edits strokes) :
    document.uri.same uri = true := by
  rcases List.mem_filterMap.mp member with ⟨stroke, inStrokes, equal⟩
  cases stroke with
  | notify method params =>
      rcases edits' method params inStrokes with ⟨own, text, edited, same⟩
      have document' : document = ⟨own, text⟩ := by simpa [edited] using equal.symm
      rw [document']
      exact same
  | step task => cases equal

end Session

namespace Pool

variable {engine : Engine}

/-- A ticket was issued to another task after a task had taken its own, and
before one of the checks of that. -/
def Overtaken (deeds : List (Deed engine)) (task other : Nat) : Prop :=
  ∃ number ticket newer isCurrent first second third rest,
    deeds = first ++ .issued (some task) number ticket ::
      (second ++ .issued (some other) number newer ::
        (third ++ .checked number ticket isCurrent :: rest))

def Delivery.isFlush (delivery : Delivery) : Bool :=
  match delivery.outcome with
  | .completed _ => true
  | _ => false

/-- Another task publishes diagnostics after a task has delivered its outcome. -/
def FlushedAfter (deliveries : List Delivery) (task other : Nat) : Prop :=
  ∃ first own second late third, deliveries = first ++ own :: (second ++ late :: third) ∧
    own.task = task ∧ late.task = other ∧ late.isFlush = true

/-- The delivery whose diagnostics are published last. -/
def lastFlush? (deliveries : List Delivery) : Option Delivery :=
  (deliveries.filter Delivery.isFlush).getLast?

namespace Lawabiding

variable {deeds : List (Deed engine)} {number : Nat}

/-- A later ticket stands later. -/
theorem issued_before (lawabiding : Lawabiding deeds) {early late : Option Nat}
    {older newer : Ticket} (olderIssued : .issued early number older ∈ deeds)
    (newerIssued : .issued late number newer ∈ deeds) (less : older.generation < newer.generation) :
    ∃ first second third, deeds = first ++ .issued early number older ::
      (second ++ .issued late number newer :: third) := by
  rcases List.append_of_mem newerIssued with ⟨past, future, split⟩
  rcases List.append_of_mem olderIssued with ⟨before, behind, splitOlder⟩
  rcases places_compare (splitOlder.symm.trans split) with member | ⟨_, same⟩ | ⟨gap, later⟩
  · rcases List.append_of_mem member with ⟨first, second, splitPast⟩
    exact ⟨first, second, future, by rw [split, splitPast]; simp⟩
  · cases same
    omega
  · have upwards := lawabiding before _ behind splitOlder newer
      (mem_tickets.mpr ⟨late, by simp [later]⟩)
    omega

theorem issued_unique (lawabiding : Lawabiding deeds) {early late : Option Nat} {ticket : Ticket}
    (first : .issued early number ticket ∈ deeds) (second : .issued late number ticket ∈ deeds) :
    early = late := by
  rcases List.append_of_mem first with ⟨past, future, split⟩
  rcases List.append_of_mem second with ⟨past', future', split'⟩
  rcases places_compare (split.symm.trans split') with member | ⟨_, same⟩ | ⟨gap, later⟩
  · have upwards := lawabiding past' _ future' split' ticket (mem_tickets.mpr ⟨early, member⟩)
    omega
  · cases same
    rfl
  · have upwards := lawabiding past _ future split ticket
      (mem_tickets.mpr ⟨late, by simp [later]⟩)
    omega

theorem ended_unique (lawabiding : Lawabiding deeds) {ticket : Ticket} {left right : Outcome}
    (first : .ended number ticket left ∈ deeds) (second : .ended number ticket right ∈ deeds) :
    left = right := by
  rcases List.append_of_mem first with ⟨past, future, split⟩
  rcases List.append_of_mem second with ⟨past', future', split'⟩
  rcases places_compare (split.symm.trans split') with member | ⟨_, same⟩ | ⟨gap, later⟩
  · exact absurd member ((lawabiding past' _ future' split').1 left)
  · cases same
    rfl
  · exact absurd (by simp [later]) ((lawabiding past _ future split).1 right)

end Lawabiding

theorem arrive_error {files : FileSystem} {checker : Checker} {document : Document}
    {outcome : Outcome} (arrived : Pass.arrive files checker document = .error outcome) :
    (document.uri.toPath? = none ∧ outcome = .notAFile document.uri) ∨
      ∃ result, outcome = .completed result := by
  unfold Pass.arrive at arrived
  split at arrived
  · next missing =>
      cases arrived
      exact Or.inl ⟨missing, rfl⟩
  · split at arrived
    · cases arrived
      exact Or.inr ⟨_, rfl⟩
    · cases arrived

section

variable {deeds : List (Deed engine)} {pool : Pool engine} {checker : Checker}
  {documents : List Document} {uri : Uri} {task : Nat} {document : Document} {outcome : Outcome}

/-- A pass that was superseded had been overtaken. -/
private theorem overtaken_of_superseded (lawabiding : Lawabiding deeds)
    (errands : Errands deeds pool checker documents)
    (settled : Settled deeds checker document task .superseded) :
    ∃ other, Overtaken deeds task other := by
  rcases settled with ⟨number, ticket, issued, ended⟩ | ⟨_, files, arrived⟩
  · rcases List.append_of_mem ended with ⟨past, future, split⟩
    have refused := (lawabiding past _ future split).2.1
    rcases List.append_of_mem refused with ⟨before, since, splitPast⟩
    have splitCheck : deeds = before ++ .checked number ticket false ::
        (since ++ .ended number ticket .superseded :: future) := by
      rw [split, splitPast]
      simp
    rcases lawabiding before _ _ splitCheck with ⟨known, current⟩
    have outdated : Outdated before number ticket := by
      by_contra newest
      cases current.mpr newest
    rcases outdated with ⟨newer, newerKnown, _, later⟩
    rcases mem_tickets.mp known with ⟨asker, ownIssued⟩
    rcases mem_tickets.mp newerKnown with ⟨late, newerIssued⟩
    have within : ∀ deed ∈ before, deed ∈ deeds := by
      intro deed member
      rw [splitCheck]
      exact List.mem_append_left _ member
    have isTask : asker = some task := by
      apply lawabiding.issued_unique (within _ ownIssued)
      exact mem_issuedTo.mp (by rw [issued]; exact List.mem_cons_self)
    rcases errands.issuers late number newer (within _ newerIssued) with ⟨other, _, isOther, _, _⟩
    rw [isTask] at ownIssued
    rw [isOther] at newerIssued
    have lawfulBefore : Lawabiding before := by
      intro earlier deed rest splitBefore
      apply lawabiding earlier deed (rest ++ .checked number ticket false ::
        (since ++ .ended number ticket .superseded :: future))
      rw [splitCheck, splitBefore]
      simp
    rcases lawfulBefore.issued_before ownIssued newerIssued later with ⟨first, second, third, order⟩
    refine ⟨other, number, ticket, newer, false, first, second, third,
      since ++ .ended number ticket .superseded :: future, ?_⟩
    rw [splitCheck, order]
    simp
  · rcases arrive_error arrived with ⟨_, notAFile⟩ | ⟨result, completed⟩
    · cases notAFile
    · cases completed

/-- A pass that was overtaken is superseded. -/
private theorem superseded_of_overtaken (told : Told deeds pool)
    (errands : Errands deeds pool checker documents)
    (oneDocument : ∀ document ∈ documents, document.uri.same uri = true)
    (settled : Settled deeds checker document task outcome) {other : Nat}
    (overtaken : Overtaken deeds task other) : outcome = .superseded := by
  rcases overtaken with ⟨number, ticket, newer, isCurrent, first, second, third, rest, split⟩
  have ownIssued : .issued (some task) number ticket ∈ deeds := by simp [split]
  have newerIssued : .issued (some other) number newer ∈ deeds := by simp [split]
  have ofDocument : ∀ asker issued, .issued asker number issued ∈ deeds →
      issued.document.same uri = true := by
    intro asker issued member
    rcases errands.issuers asker number issued member with ⟨_, own, _, found, equal⟩
    rw [equal]
    exact oneDocument own (List.mem_of_getElem? found)
  have later : ticket.generation < newer.generation := by
    have lawful := told.lawabiding (first ++ .issued (some task) number ticket :: second)
      (.issued (some other) number newer) (third ++ .checked number ticket isCurrent :: rest)
      (split.trans (by simp))
    exact lawful ticket (mem_tickets.mpr ⟨some task, by simp⟩)
  have lawful := told.lawabiding
    (first ++ .issued (some task) number ticket ::
      (second ++ .issued (some other) number newer :: third))
    (.checked number ticket isCurrent) rest (split.trans (by simp))
  have outdated : Outdated (first ++ .issued (some task) number ticket ::
      (second ++ .issued (some other) number newer :: third)) number ticket := by
    refine ⟨newer, mem_tickets.mpr ⟨some other, by simp⟩, ?_, later⟩
    exact Uri.same_trans (ofDocument _ newer newerIssued)
      (Uri.same_symm (ofDocument _ ticket ownIssued))
  have refused : isCurrent = false := by
    cases isCurrent with
    | false => rfl
    | true => exact absurd outdated (lawful.2.mp rfl)
  have ended : .ended number ticket .superseded ∈ deeds := by
    apply told.concluded
    rw [split, refused]
    simp
  have own := mem_issuedTo.mpr ownIssued
  rcases settled with ⟨number', ticket', issued, ended'⟩ | ⟨unissued, _⟩
  · rw [issued] at own
    cases List.mem_singleton.mp own
    exact told.lawabiding.ended_unique ended' ended
  · rw [unissued] at own
    cases own

theorem superseded_iff_overtaken (told : Told deeds pool)
    (errands : Errands deeds pool checker documents)
    (oneDocument : ∀ document ∈ documents, document.uri.same uri = true)
    (settled : Settled deeds checker document task outcome) :
    outcome = .superseded ↔ ∃ other, Overtaken deeds task other := by
  constructor
  · intro superseded
    rw [superseded] at settled
    exact overtaken_of_superseded told.lawabiding errands settled
  · rintro ⟨other, overtaken⟩
    exact superseded_of_overtaken told errands oneDocument settled overtaken

/-- Where the engine does not break down, the pass of a file completes unless it
is superseded. -/
theorem completed_or_superseded (lawabiding : Lawabiding deeds) (steady : engine.Steady)
    (isFile : document.uri.toPath? ≠ none)
    (settled : Settled deeds checker document task outcome) :
    (∃ result, outcome = .completed result) ∨ outcome = .superseded := by
  rcases settled with ⟨number, ticket, _, ended⟩ | ⟨_, files, arrived⟩
  · rcases List.append_of_mem ended with ⟨past, future, split⟩
    have lawful := (lawabiding past _ future split).2
    cases outcome with
    | completed result => exact Or.inl ⟨result, rfl⟩
    | superseded => exact Or.inr rfl
    | notAFile uri => exact lawful.elim
    | broken => exact absurd steady lawful
  · rcases arrive_error arrived with ⟨missing, _⟩ | completed
    · exact absurd missing isFile
    · exact Or.inl completed

/-- Only the task of an earlier edit can overtake that of the last one. -/
private theorem earlier_of_overtaken (lawabiding : Lawabiding deeds)
    (errands : Errands deeds pool checker documents) {last other : Nat}
    (count : documents.length = last + 1) (settled : Settled deeds checker document last outcome)
    (overtaken : Overtaken deeds last other) : other < last := by
  rcases overtaken with ⟨number, ticket, newer, isCurrent, first, second, third, rest, split⟩
  have ownIssued : .issued (some last) number ticket ∈ deeds := by simp [split]
  have newerIssued : .issued (some other) number newer ∈ deeds := by simp [split]
  have later : ticket.generation < newer.generation := by
    have lawful := lawabiding (first ++ .issued (some last) number ticket :: second)
      (.issued (some other) number newer) (third ++ .checked number ticket isCurrent :: rest)
      (split.trans (by simp))
    exact lawful ticket (mem_tickets.mpr ⟨some last, by simp⟩)
  rcases errands.issuers _ number newer newerIssued with ⟨asker, _, isAsker, found, _⟩
  cases isAsker
  have inRange := (List.getElem?_eq_some_iff.mp found).1
  have different : other ≠ last := by
    intro same
    rw [same] at newerIssued
    have own := mem_issuedTo.mpr ownIssued
    have second := mem_issuedTo.mpr newerIssued
    rcases settled with ⟨number', ticket', issued, _⟩ | ⟨unissued, _⟩
    · rw [issued] at own second
      cases List.mem_singleton.mp own
      cases List.mem_singleton.mp second
      omega
    · rw [unissued] at own
      cases own
  omega

/-- Once a task has delivered, all that comes before and after is from others. -/
private theorem others_of_single {deliveries : List Delivery} {first rest : List Delivery}
    {own : Delivery} (single : deliveries.filter (fun delivery => delivery.task == task) = [own])
    (split : deliveries = first ++ own :: rest) :
    ∀ delivery ∈ rest, delivery.task ≠ task := by
  have ownTask : own.task = task := by
    have member : own ∈ deliveries.filter fun delivery => delivery.task == task := by
      rw [single]
      exact List.mem_cons_self
    simpa using (List.mem_filter.mp member).2
  intro delivery member same
  have twice : (deliveries.filter fun delivery => delivery.task == task).length ≥ 2 := by
    have present : delivery ∈ rest.filter fun delivery => delivery.task == task :=
      List.mem_filter.mpr ⟨member, by simpa using same⟩
    have some := List.length_pos_of_mem present
    rw [split]
    simp only [List.filter_append, List.filter_cons, ownTask, beq_self_eq_true, if_true,
      List.length_append, List.length_cons]
    omega
  rw [single] at twice
  simp at twice

/-- The last flush is that of a task which no flush of another follows. -/
private theorem lastFlush?_iff {deliveries : List Delivery} {own : Delivery}
    (single : deliveries.filter (fun delivery => delivery.task == task) = [own]) :
    lastFlush? deliveries = some own ↔
      own.isFlush = true ∧ ∀ other, ¬ FlushedAfter deliveries task other := by
  have listed : own ∈ deliveries.filter fun delivery => delivery.task == task := by
    rw [single]
    exact List.mem_cons_self
  have ownTask : own.task = task := by simpa using (List.mem_filter.mp listed).2
  constructor
  · intro isLast
    have flushed := List.mem_of_getLast? isLast
    refine ⟨(List.mem_filter.mp flushed).2, ?_⟩
    rintro other ⟨first, own', second, late, third, split, ownTask', lateTask, lateFlush⟩
    have same : own' = own := by
      have member : own' ∈ deliveries.filter fun delivery => delivery.task == task :=
        List.mem_filter.mpr ⟨by simp [split], by simpa using ownTask'⟩
      rw [single] at member
      exact List.mem_singleton.mp member
    subst same
    have others := others_of_single single split
    -- What comes last among the flushes comes no sooner than the late one.
    have behind : ∃ flush ∈ late :: third, lastFlush? deliveries = some flush := by
      have kept : (late :: third).filter Delivery.isFlush ≠ [] := by
        simp [lateFlush]
      refine ⟨_, List.mem_of_mem_filter (List.getLast_mem kept), ?_⟩
      rw [lastFlush?, split, ← List.cons_append, ← List.append_assoc, List.filter_append,
        List.getLast?_append_of_ne_nil _ kept, List.getLast?_eq_some_getLast kept]
    rcases behind with ⟨flush, member, flushLast⟩
    rw [isLast] at flushLast
    cases flushLast
    exact others own' (List.mem_append_right _ member) ownTask
  · rintro ⟨isFlush, alone⟩
    rcases List.append_of_mem (List.mem_of_mem_filter listed) with ⟨first, rest, split⟩
    have none : rest.filter Delivery.isFlush = [] := by
      apply List.filter_eq_nil_iff.mpr
      intro late member lateFlush
      rcases List.append_of_mem member with ⟨second, third, splitRest⟩
      apply alone late.task
      exact ⟨first, own, second, late, third, by rw [split, splitRest], ownTask, rfl, lateFlush⟩
    rw [lastFlush?, split, List.filter_append, List.filter_cons, if_pos isFlush, none]
    exact List.getLast?_concat

end

/-- What the order of the steps makes of the edits of one document, told by the
deeds of a run and the pool that it has reached. -/
structure EditOrder (deeds : List (Deed engine)) (pool : Pool engine)
    (documents : List Document) : Prop where
  /-- Every edit is checked once, with its own text. -/
  delivered : ∀ task document, documents[task]? = some document → pool.isDone task = true →
    ∃ outcome, pool.deliveriesOf task = [⟨task, document, outcome⟩]
  superseded : ∀ delivery ∈ pool.deliveries,
    (delivery.outcome = .superseded ↔ ∃ other, Overtaken deeds delivery.task other)
  /-- The last text is published last unless the task of an earlier edit takes its
  ticket too late or publishes too late. -/
  lastWord : engine.Steady → pool.allDone = true → ∀ last document,
    documents.length = last + 1 → documents[last]? = some document →
    document.uri.toPath? ≠ none →
    ((∃ result, lastFlush? pool.deliveries = some ⟨last, document, .completed result⟩) ↔
      (∀ other < last, ¬ Overtaken deeds last other) ∧
        ∀ other < last, ¬ FlushedAfter pool.deliveries last other)

theorem isDone_of_allDone {pool : Pool engine} (allDone : pool.allDone = true) (task : Nat) :
    pool.isDone task = true := by
  by_cases inRange : task < pool.tasks.length
  · exact List.all_eq_true.mp allDone task (List.mem_range.mpr inRange)
  · have absent : pool.tasks[task]? = none := List.getElem?_eq_none (Nat.le_of_not_lt inRange)
    simp [isDone, absent]

/-- Only the task of an earlier edit can publish after that of the last one. -/
theorem earlier_of_flushed {deeds : List (Deed engine)} {pool : Pool engine} {checker : Checker}
    {documents : List Document} (errands : Errands deeds pool checker documents)
    {last other : Nat} (count : documents.length = last + 1) {own : Delivery}
    (single : pool.deliveriesOf last = [own])
    (flushed : FlushedAfter pool.deliveries last other) : other < last := by
  rcases flushed with ⟨first, own', second, late, third, split, ownTask, lateTask, _⟩
  have same : own' = own := by
    have member : own' ∈ pool.deliveriesOf last :=
      List.mem_filter.mpr ⟨by simp [split], by simpa using ownTask⟩
    rw [single] at member
    exact List.mem_singleton.mp member
  rw [same] at split
  have different := others_of_single single split late (by simp)
  have found := (errands.settled_of_delivered late (by simp [split])).1
  have inRange := (List.getElem?_eq_some_iff.mp found).1
  rw [lateTask] at different inRange
  omega

theorem editOrder_of_errands {deeds : List (Deed engine)} {pool : Pool engine} {checker : Checker}
    {documents : List Document} {uri : Uri} (told : Told deeds pool)
    (errands : Errands deeds pool checker documents)
    (oneDocument : ∀ document ∈ documents, document.uri.same uri = true) :
    EditOrder deeds pool documents := by
  constructor
  case delivered =>
    intro task document found done
    rcases errands.delivered_of_done found done with ⟨outcome, delivered, _⟩
    exact ⟨outcome, delivered⟩
  case superseded =>
    intro delivery member
    have settled := (errands.settled_of_delivered delivery member).2
    exact superseded_iff_overtaken told errands oneDocument settled
  case lastWord =>
    intro steady allDone last document count found isFile
    rcases errands.delivered_of_done found (isDone_of_allDone allDone last) with
      ⟨outcome, single, settled⟩
    have overtaken := superseded_iff_overtaken told errands oneDocument settled
    have flush := lastFlush?_iff single
    constructor
    · rintro ⟨result, isLast⟩
      have same : outcome = .completed result := by
        have member : (⟨last, document, .completed result⟩ : Delivery) ∈ pool.deliveriesOf last :=
          List.mem_filter.mpr ⟨List.mem_of_mem_filter (List.mem_of_getLast? isLast), by simp⟩
        rw [single] at member
        cases List.mem_singleton.mp member
        rfl
      rw [← same] at isLast
      constructor
      · intro other _ behind
        rw [overtaken.mpr ⟨other, behind⟩] at same
        cases same
      · intro other _
        exact (flush.mp isLast).2 other
    · rintro ⟨notOvertaken, notFlushed⟩
      rcases completed_or_superseded told.lawabiding steady isFile settled with
        ⟨result, completed⟩ | superseded
      · subst completed
        refine ⟨result, flush.mpr ⟨rfl, ?_⟩⟩
        intro other flushed
        exact notFlushed other (earlier_of_flushed errands count single flushed) flushed
      · rcases overtaken.mp superseded with ⟨other, behind⟩
        have earlier := earlier_of_overtaken told.lawabiding errands count settled behind
        exact absurd behind (notOvertaken other earlier)

end Pool

namespace Session

/-- For every sequence of edits of one document and every order of the steps of
their tasks. -/
theorem editOrder_play (engine : Engine) (files : FileSystem) (capacity : Nat)
    {session : Session} {checker : Checker} (checks : ChecksEdits session checker) {uri : Uri}
    {strokes : List Stroke} (editsOnly : EditsOnly uri strokes) :
    Pool.EditOrder ((Pool.empty engine files capacity).deeds (session.play strokes))
      ((Pool.empty engine files capacity).run (session.play strokes)) (edits strokes) := by
  have told := Pool.told_run engine files capacity (session.play strokes)
  have errands := errands_play checks editsOnly (Pool.Errands.empty engine files capacity checker)
  rw [List.nil_append, List.nil_append] at errands
  exact Pool.editOrder_of_errands told errands fun document member => uri_of_edits editsOnly member

/-! Two edits of a logic file, and two orders in which the first one gets the
last word: its ticket is issued late, or its diagnostics are published late. -/

namespace TwoEdits

def package : FileSystem where
  entries := [("p", .directory
    [("package.json", .file (Text.Utf8.encodeChars "\x7b\"accordproject\":true\x7d".toList))])]
  workingDirectory := []

def document : Uri where
  scheme := "file"
  authority := some ⟨"", "", none⟩
  path := "/p/a.ergo"
  query := none
  fragment := none

def initialized : Session := (({} : Session).setUp none).1

def opens : Stroke :=
  .notify "textDocument/didOpen" (some (.obj [("textDocument",
    .obj [("text", .str "old"), ("uri", .str "file:///p/a.ergo")])]))

def changes : Stroke :=
  .notify "textDocument/didChange" (some (.obj [
    ("contentChanges", .arr [.obj [("text", .str "new")]]),
    ("textDocument", .obj [("uri", .str "file:///p/a.ergo")])]))

def lateTicket : List Stroke :=
  [opens, changes] ++
    (List.replicate 4 1 ++ List.replicate 16 0 ++ List.replicate 16 1).map Stroke.step

def lateFlush : List Stroke :=
  [opens, changes] ++ (List.replicate 12 0 ++ List.replicate 16 1 ++ [0]).map Stroke.step

theorem checksEdits : ChecksEdits initialized (initialized.checker.get (by decide +kernel)) where
  initialized := by rw [Option.some_get]
  alone := by decide +kernel

theorem editsOnly_of_two (tasks : List Nat) :
    EditsOnly document ([opens, changes] ++ tasks.map Stroke.step) := by
  intro method params member
  rcases List.mem_append.mp member with edit | step
  · rcases List.mem_cons.mp edit with isOpen | isChange
    · cases isOpen
      exact ⟨document, "old", by decide +kernel, by decide +kernel⟩
    · cases List.mem_singleton.mp isChange
      exact ⟨document, "new", by decide +kernel, by decide +kernel⟩
  · rcases List.mem_map.mp step with ⟨task, _, equal⟩
    cases equal

/-- The pass of the last edit is superseded by that of the first. -/
theorem editOrder_lateTicket :
    Pool.EditOrder
        ((Pool.empty .lenient package 16).deeds (initialized.play lateTicket))
        ((Pool.empty .lenient package 16).run (initialized.play lateTicket)) (edits lateTicket) ∧
      ((Pool.empty .lenient package 16).run (initialized.play lateTicket)).allDone = true ∧
      ((Pool.empty .lenient package 16).run (initialized.play lateTicket)).deliveries.map
          (fun delivery => (delivery.document.text, delivery.outcome == .superseded)) =
        [("old", false), ("new", true)] :=
  ⟨editOrder_play .lenient package 16 checksEdits (editsOnly_of_two _), by decide +kernel,
    by decide +kernel⟩

/-- Both edits are checked, and the diagnostics of the first are published last. -/
theorem lateFlush_publishes_old :
    (edits lateFlush).map Document.text = ["old", "new"] ∧
      ((Pool.empty .lenient package 16).run (initialized.play lateFlush)).allDone = true ∧
      (Pool.lastFlush? ((Pool.empty .lenient package 16).run
        (initialized.play lateFlush)).deliveries).map
          (fun delivery => (delivery.task, delivery.document.text)) = some (0, "old") := by
  decide +kernel

end TwoEdits

end Session

end TemplateCheck
