import TemplateCheck.Proofs.Pool.Reports
import TemplateCheck.Proofs.Uri.Places

/-! # Documents without a place

A document whose URI has no place on this machine is refused before anything is looked up: in
whatever state a pool is, its task takes up the document, turns back and delivers the refusal, and
leaves nothing else changed. No other document is refused. The scheme of a URI plays no part in
this, so the documents of other schemes are refused only where they have no place.
-/

namespace TemplateCheck

/-- The answer of a pass is that its document is no file just where the document has no place. -/
def Document.AnsweredBy (document : Document) (outcome : Outcome) : Prop :=
  ∀ uri, outcome = .notAFile uri ↔ uri = document.uri ∧ ¬ document.uri.Placed

theorem Document.AnsweredBy.of_placed {document : Document} (placed : document.uri.Placed)
    {outcome : Outcome} (goesOn : ∀ uri, outcome ≠ .notAFile uri) : document.AnsweredBy outcome :=
  fun uri => iff_of_false (goesOn uri) fun refused => refused.2 placed

theorem Document.answeredBy_refusal {document : Document} (placeless : ¬ document.uri.Placed) :
    document.AnsweredBy (.notAFile document.uri) := by
  intro uri
  rw [Outcome.notAFile.injEq, and_iff_left placeless]
  exact eq_comm

namespace Pass

variable {engine : Engine} {files : FileSystem} {checker : Checker} {document : Document}

theorem arrive_placeless (placeless : ¬ document.uri.Placed) :
    arrive files checker document = .error (.notAFile document.uri) := by
  simp only [arrive, Uri.not_placed_iff.mp placeless]

theorem manifestsRead_placeless (placeless : ¬ document.uri.Placed) :
    manifestsRead files checker document = [] := by
  simp only [manifestsRead, Uri.not_placed_iff.mp placeless]

theorem placed_of_arrive {context : Context}
    (arrived : arrive files checker document = .ok context) :
    context.document.uri.Placed := by
  by_contra placeless
  rw [arrive_document arrived] at placeless
  rw [arrive_placeless placeless] at arrived
  cases arrived

theorem answeredBy_of_arrive {outcome : Outcome}
    (turned : arrive files checker document = .error outcome) : document.AnsweredBy outcome := by
  by_cases placed : document.uri.Placed
  · refine .of_placed placed ?_
    rintro uri rfl
    rcases Uri.placed_iff.mp placed with ⟨path, isPath⟩
    simp only [arrive, isPath] at turned
    split at turned <;> cases turned
  · rw [arrive_placeless placed] at turned
    cases turned
    exact Document.answeredBy_refusal placed

theorem validate_placeless (placeless : ¬ document.uri.Placed)
    (registries : Registries engine) :
    validate files checker document registries = ⟨.notAFile document.uri, registries, []⟩ := by
  simp only [validate, arrive_placeless placeless]

theorem answeredBy_validate (registries : Registries engine) :
    document.AnsweredBy (validate files checker document registries).outcome := by
  unfold validate
  split
  · next turned => exact answeredBy_of_arrive turned
  · next context arrived =>
      have placed := placed_of_arrive arrived
      rw [arrive_document arrived] at placed
      refine .of_placed placed ?_
      intro uri
      unfold run
      dsimp only
      split <;> nofun

end Pass

namespace Pool

open Roots (Ticket Handle Store)

variable {engine : Engine}

/-! ## Documents that have got past their arrival -/

/-- Past its arrival a document has a place, and at its end it has its answer. -/
def Activity.Sifted : Activity engine → Prop
  | .idle => True
  | .arriving _ _ => True
  | .rooted context => context.document.uri.Placed
  | .admitted context _ => context.document.uri.Placed
  | .ticketed context _ _ => context.document.uri.Placed
  | .queued context _ _ => context.document.uri.Placed
  | .running pass => pass.context.document.uri.Placed
  | .leaving _ document outcome => document.AnsweredBy outcome
  | .returned document outcome => document.AnsweredBy outcome

theorem Activity.Sifted.unblock {activity : Activity engine} (sifted : activity.Sifted) :
    activity.unblock.Sifted := by
  cases activity with
  | running pass =>
      simp only [Activity.unblock]
      split
      · exact sifted
      · exact sifted
  | _ => exact sifted

/-- Only documents with a place get tickets, and only documents without one are refused. -/
structure Sifted (deeds : List (Deed engine)) (pool : Pool engine) : Prop where
  tasks : ∀ task ∈ pool.tasks, task.activity.Sifted
  deliveries : ∀ delivery ∈ pool.deliveries, delivery.document.AnsweredBy delivery.outcome
  tickets : ∀ task number ticket, .issued (some task) number ticket ∈ deeds →
    ticket.document.Placed

theorem Sifted.append {deeds more : List (Deed engine)} {pool : Pool engine}
    (sifted : Sifted deeds pool)
    (unissued : ∀ task number ticket, .issued (some task) number ticket ∈ more →
      ticket.document.Placed) : Sifted (deeds ++ more) pool where
  tasks := sifted.tasks
  deliveries := sifted.deliveries
  tickets := by
    intro task number ticket member
    rcases List.mem_append.mp member with early | late
    · exact sifted.tickets task number ticket early
    · exact unissued task number ticket late

theorem Sifted.place {deeds : List (Deed engine)} {pool next : Pool engine}
    (sifted : Sifted deeds pool) {task : Nat} {new : Task engine} (tasks : next.tasks = pool.tasks)
    (deliveries : next.deliveries = pool.deliveries) (newSifted : new.activity.Sifted) :
    Sifted deeds (next.place task new) where
  tasks := by
    intro other member
    rcases List.mem_or_eq_of_mem_set member with old | rfl
    · exact sifted.tasks other (tasks ▸ old)
    · exact newSifted
  deliveries := deliveries ▸ sifted.deliveries
  tickets := sifted.tickets

theorem outcomeOf_ne_notAFile (pass : Running engine) (stage : Stage) (report : Report)
    (verdict : Verdict) (uri : Uri) : outcomeOf pass stage report verdict ≠ .notAFile uri := by
  cases verdict <;> nofun

theorem Sifted.turned {deeds new : List (Deed engine)} {pool next : Pool engine} {task : Nat}
    (sifted : Sifted deeds pool) (turn : Turn pool task new next) : Sifted (deeds ++ new) next := by
  have old : ∀ {current : Task engine}, pool.tasks[task]? = some current →
      current.activity.Sifted := fun found => sifted.tasks _ (List.mem_of_getElem? found)
  have after : Sifted (deeds ++ new) pool := by
    refine sifted.append ?_
    intro asker number ticket issued
    rcases turn.issued issued with ⟨-, jobs, context, found, own⟩
    rw [own]
    exact old found
  cases turn with
  | halts stuck => exact after
  | takesUp found => exact after.place rfl rfl trivial
  | evicts found => exact after.place rfl rfl trivial
  | turnsBack found arrived => exact after.place rfl rfl (Pass.answeredBy_of_arrive arrived)
  | arrives found arrived => exact after.place rfl rfl (Pass.placed_of_arrive arrived)
  | enters found =>
      exact after.place (request_tasks _ _ _) (request_deliveries _ _ _) (old found :)
  | registers found known => exact after.place rfl rfl (old found :)
  | locks found known isFree => exact after.place rfl rfl (old found :)
  | queues found known owned => exact after.place rfl rfl (old found :)
  | resumes found known owned => exact after.place rfl rfl (old found :)
  | passes found known phase current => exact after.place rfl rfl (old found :)
  | yields found known phase outdated => exact after.place rfl rfl (.of_placed (old found) nofun)
  | waits found known remaining half reached => exact after.place rfl rfl (old found :)
  | proceeds found known remaining half more => exact after.place rfl rfl (old found :)
  | ends found known remaining half last =>
      exact after.place rfl rfl (.of_placed (old found) (outcomeOf_ne_notAFile _ _ _ _))
  | departs found => exact after.place rfl rfl (old found :)
  | @delivers document outcome jobs found =>
      have delivered : Sifted (deeds ++ [])
          { pool with deliveries := pool.deliveries ++ [⟨task, document, outcome⟩] } := by
        refine ⟨after.tasks, ?_, after.tickets⟩
        intro delivery member
        rcases List.mem_append.mp member with earlier | last
        · exact after.deliveries delivery earlier
        · exact List.mem_singleton.mp last ▸ old found
      exact delivered.place rfl rfl trivial

theorem Sifted.after {deeds : List (Deed engine)} {pool : Pool engine} (sifted : Sifted deeds pool)
    (move : Move) : Sifted (deeds ++ pool.deedsOf move) (pool.after move) := by
  have unmoved : Sifted (deeds ++ []) pool := (List.append_nil deeds).symm ▸ sifted
  cases move with
  | step task => exact sifted.turned (turn_step pool task)
  | spawn jobs =>
      refine ⟨?_, unmoved.deliveries, unmoved.tickets⟩
      intro task member
      rcases List.mem_append.mp member with old | new
      · exact unmoved.tasks task old
      · exact List.mem_singleton.mp new ▸ trivial
  | evict root => exact ⟨unmoved.tasks, unmoved.deliveries, unmoved.tickets⟩
  | evictUnder folder => exact ⟨unmoved.tasks, unmoved.deliveries, unmoved.tickets⟩
  | ticket root document =>
      have quiet : Sifted (deeds ++ pool.deedsOf (.ticket root document)) pool := by
        refine sifted.append ?_
        intro task number ticket issued
        simp [deedsOf] at issued
      exact ⟨request_tasks pool none root ▸ quiet.tasks,
        request_deliveries pool none root ▸ quiet.deliveries, quiet.tickets⟩
  | arm point =>
      simp only [Pool.after, arm]
      split
      · exact unmoved
      · exact ⟨unmoved.tasks, unmoved.deliveries, unmoved.tickets⟩
  | release =>
      refine ⟨?_, unmoved.deliveries, unmoved.tickets⟩
      intro task member
      rcases List.mem_map.mp member with ⟨before, inside, rfl⟩
      exact (unmoved.tasks before inside).unblock
  | change files => exact ⟨unmoved.tasks, unmoved.deliveries, unmoved.tickets⟩

theorem sifted_run (engine : Engine) (files : FileSystem) (capacity : Nat) (moves : List Move) :
    Sifted ((Pool.empty engine files capacity).deeds moves)
      ((Pool.empty engine files capacity).run moves) := by
  have start : Sifted [] (Pool.empty engine files capacity) :=
    ⟨by simp [empty], by simp [empty], by simp⟩
  exact run_induction Sifted start (fun _ _ move sifted => sifted.after move) moves

/-! ## Tasks that get no other documents -/

/-- Where a task can stand with a document without a place. -/
def Activity.Placeless : Activity engine → Prop
  | .idle => True
  | .arriving _ document => ¬ document.uri.Placed
  | .returned document outcome => outcome = .notAFile document.uri
  | _ => False

theorem Activity.Placeless.unblock {activity : Activity engine} (placeless : activity.Placeless) :
    activity.unblock.Placeless := by
  cases activity with
  | running pass => exact placeless.elim
  | _ => exact placeless

/-- A task that is to check documents without a place, and nothing else. -/
structure Task.Placeless (task : Task engine) : Prop where
  jobs : ∀ job ∈ task.jobs, ∃ checker document,
    job = .validate checker document ∧ ¬ document.uri.Placed
  activity : task.activity.Placeless

/-- Between two pools one task has moved, and has at most delivered that its document is no
file. -/
structure Aside (pool next : Pool engine) (task : Nat) : Prop where
  store : next.store = pool.store
  files : next.files = pool.files
  log : next.log = pool.log
  approach : next.approach = pool.approach
  armed : next.armed = pool.armed
  others : ∀ other, other ≠ task → next.tasks[other]? = pool.tasks[other]?
  stands : ∃ later, next.tasks[task]? = some later ∧ later.Placeless
  deliveries : next.deliveries = pool.deliveries ∨
    ∃ document : Document, next.deliveries =
      pool.deliveries ++ [⟨task, document, .notAFile document.uri⟩]

/-- A task moves aside by its new place, and by at most one delivery. -/
theorem aside_place {pool : Pool engine} {task : Nat} {current later : Task engine}
    (found : pool.tasks[task]? = some current) (placeless : later.Placeless)
    {deliveries : List Delivery}
    (told : deliveries = pool.deliveries ∨ ∃ document : Document,
      deliveries = pool.deliveries ++ [⟨task, document, .notAFile document.uri⟩]) :
    Aside pool ({ pool with deliveries }.place task later) task where
  store := rfl
  files := rfl
  log := rfl
  approach := rfl
  armed := rfl
  others _ apart := List.getElem?_set_ne apart.symm
  stands := ⟨later, tasks_place_self found rfl later, placeless⟩
  deliveries := told

theorem Task.Placeless.turned {pool next : Pool engine} {task : Nat} {current : Task engine}
    {deeds : List (Deed engine)} (found : pool.tasks[task]? = some current)
    (placeless : current.Placeless) (turn : Turn pool task deeds next) :
    deeds = [] ∧ Aside pool next task := by
  cases turn with
  | halts stuck =>
      exact ⟨rfl, rfl, rfl, rfl, rfl, rfl, fun _ _ => rfl, ⟨current, found, placeless⟩, .inl rfl⟩
  | takesUp found' =>
      cases found.symm.trans found'
      rcases placeless.jobs _ List.mem_cons_self with ⟨checker, document, isJob, noPlace⟩
      cases isJob
      refine ⟨rfl, aside_place found' ?_ (.inl rfl)⟩
      exact ⟨fun job later => placeless.jobs job (List.mem_cons_of_mem _ later), noPlace⟩
  | evicts found' =>
      cases found.symm.trans found'
      rcases placeless.jobs _ List.mem_cons_self with ⟨checker, document, isJob, -⟩
      cases isJob
  | turnsBack found' arrived =>
      cases found.symm.trans found'
      rw [Pass.arrive_placeless placeless.activity] at arrived
      cases arrived
      rw [Pass.manifestsRead_placeless placeless.activity, noteApproach_nil]
      refine ⟨rfl, aside_place found' ?_ (.inl rfl)⟩
      exact ⟨placeless.jobs, rfl⟩
  | arrives found' arrived =>
      cases found.symm.trans found'
      rw [Pass.arrive_placeless placeless.activity] at arrived
      cases arrived
  | @delivers document outcome jobs found' =>
      cases found.symm.trans found'
      have refused : outcome = .notAFile document.uri := placeless.activity
      subst refused
      refine ⟨rfl, aside_place found' ?_ (.inr ⟨document, rfl⟩)⟩
      exact ⟨placeless.jobs, trivial⟩
  | enters found' | registers found' | locks found' | queues found' | resumes found'
  | passes found' | yields found' | waits found' | proceeds found' | ends found'
  | departs found' =>
      cases found.symm.trans found'
      exact placeless.activity.elim

theorem Task.Placeless.step {pool : Pool engine} {task : Nat} {current : Task engine}
    (found : pool.tasks[task]? = some current) (placeless : current.Placeless) :
    pool.deedsOf (.step task) = [] ∧ Aside pool (pool.step task) task :=
  placeless.turned found (turn_step pool task)

section Steps

variable {pool : Pool engine} {task : Nat} {checker : Checker} {document : Document}
  {jobs : List Job}

theorem step_validate
    (found : pool.tasks[task]? = some ⟨.validate checker document :: jobs, .idle⟩) :
    pool.step task = pool.place task ⟨jobs, .arriving checker document⟩ := by
  simp [step, found, takeJob, setActivity, place, modify_eq_set found, modify_set]

theorem step_placeless (found : pool.tasks[task]? = some ⟨jobs, .arriving checker document⟩)
    (placeless : ¬ document.uri.Placed) :
    pool.step task = pool.place task ⟨jobs, .returned document (.notAFile document.uri)⟩ := by
  simp [step, found, Pass.arrive_placeless placeless, Pass.manifestsRead_placeless placeless,
    setActivity_eq_place found]

theorem step_refused {uri : Uri}
    (found : pool.tasks[task]? = some ⟨jobs, .returned document (.notAFile uri)⟩) :
    pool.step task =
      { pool with
        deliveries := pool.deliveries ++ [Delivery.mk task document (.notAFile uri)] }.place task
        ⟨jobs, .idle⟩ := by
  simp [step, found, deliver, setActivity_eq_place found]

/-- In three steps a document without a place is refused, and nothing else has changed. -/
theorem run_placeless
    (found : pool.tasks[task]? = some ⟨.validate checker document :: jobs, .idle⟩)
    (placeless : ¬ document.uri.Placed) :
    pool.run [.step task, .step task, .step task] =
      { pool with
        deliveries := pool.deliveries ++
          [Delivery.mk task document (.notAFile document.uri)] }.place task ⟨jobs, .idle⟩ := by
  have arriving := tasks_place_self found rfl ⟨jobs, .arriving checker document⟩
  have returned := tasks_place_self arriving rfl
    ⟨jobs, .returned document (.notAFile document.uri)⟩
  simp only [run, List.foldl_cons, List.foldl_nil, Pool.after, step_validate found,
    step_placeless arriving placeless, step_refused returned]
  simp [place]

end Steps

/-! ## Traces in a run -/

/-- The task that an event is told of. -/
def Event.task? : Event engine → Option Nat
  | .did task _ => task
  | .blocked task _ => some task

def eventsOf (pool : Pool engine) (task : Nat) : List (Event engine) :=
  pool.log.filter fun event => event.task? == some task

theorem eventsOf_append {pool next : Pool engine} {events : List (Event engine)}
    (log : next.log = pool.log ++ events) {task : Nat}
    (others : ∀ event ∈ events, event.task? ≠ some task) :
    next.eventsOf task = pool.eventsOf task := by
  have none : events.filter (fun event => event.task? == some task) = [] := by
    rw [List.filter_eq_nil_iff]
    intro event member
    simpa using others event member
  rw [eventsOf, log, List.filter_append, none, List.append_nil, eventsOf]

theorem eventsOf_request (pool : Pool engine) {asker : Option Nat} {task : Nat}
    (other : asker ≠ some task) (root : Path) :
    (pool.request asker root).1.eventsOf task = pool.eventsOf task := by
  refine eventsOf_append (request_log pool asker root) ?_
  intro event member
  split at member
  · simp only [List.mem_cons, List.not_mem_nil, or_false] at member
    rcases member with rfl | rfl
    · exact other
    · exact other
  · cases member

theorem Turn.eventsOf_of_ne {pool next : Pool engine} {task : Nat} {deeds : List (Deed engine)}
    (turn : Turn pool task deeds next) {other : Nat} (different : other ≠ task) :
    next.eventsOf other = pool.eventsOf other := by
  have apart : some task ≠ some other := fun same => different (Option.some.inj same).symm
  have did : ∀ actions : List (Action engine.Template),
      ∀ event ∈ actions.map (Event.did (some task)), event.task? ≠ some other := by
    intro actions event member
    rcases List.mem_map.mp member with ⟨action, -, rfl⟩
    exact apart
  cases turn with
  | enters found => exact eventsOf_request pool apart _
  | @waits pass jobs handle stage rest work armed events phase found known remaining half reached =>
      refine @eventsOf_append _ pool _ (work.actions.map (.did (some task)) ++ events)
        (by simp [place, rearm, Pool.worked]) _ ?_
      intro event member
      rcases List.mem_append.mp member with worked | held
      · exact did _ event worked
      · cases reached with
        | free => cases held
        | held armed =>
            rw [List.mem_singleton.mp held]
            exact apart
  | proceeds found known remaining half more => exact eventsOf_append rfl (did _)
  | ends found known remaining half last => exact eventsOf_append rfl (did _)
  | _ => rfl

/-- Since a start a task has left no trace but refusals. -/
structure Untraced (start : Pool engine) (task : Nat) (deeds : List (Deed engine))
    (pool : Pool engine) : Prop where
  stands : ∃ current, pool.tasks[task]? = some current ∧ current.Placeless
  unissued : issuedTo deeds task = []
  events : pool.eventsOf task = start.eventsOf task
  refused : ∃ more, pool.deliveriesOf task = start.deliveriesOf task ++ more ∧
    ∀ delivery ∈ more, delivery.outcome = .notAFile delivery.document.uri

namespace Untraced

variable {start pool : Pool engine} {task : Nat} {deeds : List (Deed engine)}

/-- What others do does not matter. -/
theorem others (untraced : Untraced start task deeds pool) {new : List (Deed engine)}
    {next : Pool engine}
    (stands : ∃ current, next.tasks[task]? = some current ∧ current.Placeless)
    (unissued : issuedTo new task = []) (events : next.eventsOf task = pool.eventsOf task)
    (deliveries : next.deliveriesOf task = pool.deliveriesOf task) :
    Untraced start task (deeds ++ new) next where
  stands := stands
  unissued := by simp [untraced.unissued, unissued]
  events := events.trans untraced.events
  refused := deliveries ▸ untraced.refused

theorem stepped (untraced : Untraced start task deeds pool) :
    Untraced start task (deeds ++ pool.deedsOf (.step task)) (pool.step task) := by
  rcases untraced.stands with ⟨current, found, placeless⟩
  rcases placeless.step found with ⟨quiet, aside⟩
  have events : (pool.step task).eventsOf task = pool.eventsOf task := by
    rw [eventsOf, aside.log, eventsOf]
  refine ⟨aside.stands, by simp [quiet, untraced.unissued], events.trans untraced.events, ?_⟩
  rcases untraced.refused with ⟨more, delivered, refused⟩
  rcases aside.deliveries with same | ⟨document, last⟩
  · exact ⟨more, by rw [deliveriesOf, same]; exact delivered, refused⟩
  · refine ⟨more ++ [Delivery.mk task document (.notAFile document.uri)], ?_, ?_⟩
    · rw [deliveriesOf, last, List.filter_append]
      rw [deliveriesOf] at delivered
      simp [delivered]
    · intro delivery member
      rcases List.mem_append.mp member with earlier | isLast
      · exact refused delivery earlier
      · rw [List.mem_singleton.mp isLast]

theorem after (untraced : Untraced start task deeds pool) (move : Move) :
    Untraced start task (deeds ++ pool.deedsOf move) (pool.after move) := by
  rcases untraced.stands with ⟨current, found, placeless⟩
  cases move with
  | step other =>
      by_cases same : task = other
      · subst same
        exact untraced.stepped
      · have turn := turn_step pool other
        exact untraced.others ⟨current, (turn.tasks.2 task same).trans found, placeless⟩
          (turn.issuedTo_of_ne same) (turn.eventsOf_of_ne same) (turn.deliveriesOf_of_ne same)
  | spawn jobs =>
      have early := (List.getElem?_eq_some_iff.mp found).1
      have foundStill : (pool.spawn jobs).tasks[task]? = some current := by
        rw [spawn, List.getElem?_append_left early]
        exact found
      exact untraced.others ⟨current, foundStill, placeless⟩ rfl rfl rfl
  | evict root => exact untraced.others ⟨current, found, placeless⟩ rfl rfl rfl
  | evictUnder folder => exact untraced.others ⟨current, found, placeless⟩ rfl rfl rfl
  | ticket root document =>
      refine untraced.others
        ⟨current, (congrArg (·[task]?) (request_tasks pool none root)).trans found, placeless⟩ ?_
        (eventsOf_request pool (Option.some_ne_none task).symm root) ?_
      · apply List.eq_nil_iff_forall_not_mem.mpr
        rintro ⟨number, ticket⟩ member
        simp [deedsOf, mem_issuedTo] at member
      · exact congrArg (List.filter _) (request_deliveries pool none root)
  | arm point =>
      simp only [Pool.after, arm]
      split
      · exact untraced.others ⟨current, found, placeless⟩ rfl rfl rfl
      · exact untraced.others ⟨current, found, placeless⟩ rfl rfl rfl
  | release =>
      have released : (pool.release).tasks[task]? =
          some { current with activity := current.activity.unblock } := by
        simp [release, found]
      exact untraced.others ⟨_, released, placeless.jobs, placeless.activity.unblock⟩ rfl rfl rfl
  | change files => exact untraced.others ⟨current, found, placeless⟩ rfl rfl rfl

end Untraced

/-- In every run from any state of a pool. -/
theorem untraced_run {pool : Pool engine} {task : Nat} {current : Task engine}
    (found : pool.tasks[task]? = some current) (placeless : current.Placeless)
    (moves : List Move) : Untraced pool task (pool.deeds moves) (pool.run moves) :=
  run_induction (Untraced pool task)
    ⟨⟨current, found, placeless⟩, rfl, rfl, [], (List.append_nil _).symm, nofun⟩
    (fun _ _ move untraced => untraced.after move) moves

/-! ## What is refused -/

/-- Which documents are refused, and what that does to a pool. Nothing here depends on the scheme
of a URI, except that a file URI is without a place only on another machine. -/
structure Refusals (engine : Engine) : Prop where
  placed : ∀ uri : Uri, uri.Placed ↔ ∃ path, uri.toPath? = some path
  anyScheme : ∀ (uri : Uri) (scheme : String), ({ uri with scheme } : Uri).Placed ↔ uri.Placed
  file : ∀ uri : Uri, uri.Given → uri.scheme = "file" → (uri.Placed ↔ uri.isLocal = true)
  /-- Passes on their own. -/
  alone : ∀ (files : FileSystem) (checker : Checker) (document : Document)
      (registries : Pass.Registries engine),
    document.AnsweredBy (Pass.validate files checker document registries).outcome ∧
      (¬ document.uri.Placed → Pass.validate files checker document registries =
        ⟨.notAFile document.uri, registries, []⟩)
  /-- In any state of a pool, steps of the task alone. -/
  refused : ∀ (pool : Pool engine) (task : Nat) (checker : Checker) (document : Document)
      (jobs : List Job),
    pool.tasks[task]? = some ⟨.validate checker document :: jobs, .idle⟩ →
    ¬ document.uri.Placed →
    pool.run [.step task, .step task, .step task] =
      { pool with
        deliveries := pool.deliveries ++
          [Delivery.mk task document (.notAFile document.uri)] }.place task ⟨jobs, .idle⟩
  /-- In any state of a pool, a step between those of others. -/
  aside : ∀ (pool : Pool engine) (task : Nat) (current : Task engine),
    pool.tasks[task]? = some current → current.Placeless →
    pool.deedsOf (.step task) = [] ∧ Aside pool (pool.step task) task
  /-- From any state of a pool on, in every order of steps. -/
  untraced : ∀ (pool : Pool engine) (task : Nat) (current : Task engine),
    pool.tasks[task]? = some current → current.Placeless →
    ∀ moves, Untraced pool task (pool.deeds moves) (pool.run moves)
  /-- The answers that pools deliver, and the tickets that they issue to passes. -/
  sifted : ∀ (files : FileSystem) (capacity : Nat) (moves : List Move),
    Sifted ((Pool.empty engine files capacity).deeds moves)
      ((Pool.empty engine files capacity).run moves)

theorem refusals (engine : Engine) : Refusals engine where
  placed _ := Uri.placed_iff
  anyScheme := Uri.placed_scheme
  file _ := Uri.Given.placed_iff_isLocal
  alone _ _ _ registries :=
    ⟨Pass.answeredBy_validate registries,
      fun placeless => Pass.validate_placeless placeless registries⟩
  refused _ _ _ _ _ := run_placeless
  aside _ _ _ found placeless := placeless.step found
  untraced _ _ _ := untraced_run
  sifted := sifted_run engine

/-! A document that was never saved, opened while another one is checked. -/

namespace Unsaved

def document : Document := ⟨⟨"untitled", none, "Untitled-1", none, none⟩, ""⟩

def busy : Pool Scripted.engine :=
  (Pool.empty Scripted.engine LateEdit.package 1).run
    (.spawn [.validate LateEdit.checker ⟨LateEdit.uri "/p/lib/a.ergo", "new"⟩] ::
      List.replicate 8 (.step 0))

def opened : Pool Scripted.engine := busy.spawn [.validate LateEdit.checker document]

theorem tasks_opened :
    opened.tasks[1]? = some ⟨[.validate LateEdit.checker document], .idle⟩ := by
  have one : busy.tasks.length = 1 := by decide +kernel
  simp [opened, spawn, one]

theorem refusals_unsaved :
    Uri.parse "untitled:Untitled-1" = some document.uri ∧ ¬ document.uri.Placed ∧
      busy.store.handles.map Handle.owner = [some 0] ∧
      opened.run [.step 1, .step 1, .step 1] =
        { opened with
          deliveries := opened.deliveries ++
            [Delivery.mk 1 document (.notAFile document.uri)] }.place 1 ⟨[], .idle⟩ :=
  ⟨by decide +kernel, by decide +kernel, by decide +kernel,
    (refusals Scripted.engine).refused opened 1 LateEdit.checker document [] tasks_opened
      (by decide +kernel)⟩

end Unsaved

/-! A document of version control, which stands where a file of a package could stand. -/

namespace OtherScheme

def uri : Uri where
  scheme := "git"
  authority := none
  path := "/p/lib/a.ergo"
  query := none
  fragment := none

def validated : Pool Scripted.engine :=
  (Pool.empty Scripted.engine LateEdit.package 1).run
    (.spawn [.validate LateEdit.checker ⟨uri, "new"⟩] :: List.replicate 20 (.step 0))

/-- It is checked as if it were that file: its package is cached, a ticket is issued for it, and
the engine is asked. -/
theorem otherScheme_validated :
    Uri.parse "git:/p/lib/a.ergo" = some uri ∧ uri.scheme ≠ "file" ∧
      validated.deliveries.map Delivery.outcome =
        [.completed ⟨some ⟨"/p"⟩, [⟨.model, true⟩, ⟨.logic, false⟩],
          ⟨[(LateEdit.uri "/p/lib/b.ergo", []), (LateEdit.uri "/p/models/m.cto", []),
            (uri, [.error .documentStart "bad" .logic])]⟩⟩] ∧
      validated.store.cache.cached = [(⟨"/p"⟩, 0)] ∧
      validated.store.handles.map Handle.latest = [[(uri, 1)]] ∧
      (validated.eventsOf 0).length = 15 :=
  ⟨by decide +kernel, by decide, by decide +kernel⟩

end OtherScheme

end Pool

end TemplateCheck
