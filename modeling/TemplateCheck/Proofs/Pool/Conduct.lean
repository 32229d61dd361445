import TemplateCheck.Proofs.Pass.Course
import TemplateCheck.Proofs.Pool.Alone

/-! # Passes in company

As long as no file changes, a pass does in company what it does on its own. From
its first stage to its last the registries of its root are its own, so it goes as
a pass goes that starts on the registries it was given. A pass that a newer edit
has overtaken did the first stages of such a pass, and nothing of the others.
-/

namespace TemplateCheck.Pool

open Roots (Ticket Handle Store)

variable {engine : Engine}

/-! ## What a pass did -/

/-- The actions of a pass, in their order. -/
def actionsOf (deeds : List (Deed engine)) (number : Nat) (ticket : Ticket) :
    List (Action engine.Template) :=
  deeds.filterMap fun
    | .did other own action => if other = number ∧ own = ticket then some action else none
    | _ => none

theorem actionsOf_append (deeds more : List (Deed engine)) (number : Nat) (ticket : Ticket) :
    actionsOf (deeds ++ more) number ticket =
      actionsOf deeds number ticket ++ actionsOf more number ticket :=
  List.filterMap_append

theorem actionsOf_of_apart {deeds : List (Deed engine)} {number : Nat} {ticket : Ticket}
    (apart : ∀ deed ∈ deeds, deed.pass? ≠ some (number, ticket)) :
    actionsOf deeds number ticket = [] := by
  apply List.filterMap_eq_nil_iff.mpr
  intro deed member
  cases deed with
  | did other own action =>
      have different : ¬ (other = number ∧ own = ticket) := by
        rintro ⟨rfl, rfl⟩
        exact apart _ member rfl
      simp [different]
  | _ => rfl

theorem actionsOf_append_of_apart {more : List (Deed engine)} {number : Nat} {ticket : Ticket}
    (apart : ∀ deed ∈ more, deed.pass? ≠ some (number, ticket)) (deeds : List (Deed engine)) :
    actionsOf (deeds ++ more) number ticket = actionsOf deeds number ticket := by
  rw [actionsOf_append, actionsOf_of_apart apart, List.append_nil]

theorem actionsOf_workDeeds (pass : Running engine) (stage : Stage) (work : Pass.Work engine) :
    actionsOf (workDeeds pass stage work) pass.handle pass.ticket = work.actions := by
  have opened : actionsOf (if pass.phase = .start then
      [(.started pass.handle pass.ticket stage : Deed engine)] else []) pass.handle pass.ticket =
      [] := by
    split
    · rfl
    · rfl
  rw [workDeeds, actionsOf_append, opened]
  simp [actionsOf, List.filterMap_map]

/-! ## Running passes -/

/-- The work of a running pass on the registries of its root, with its record. -/
def Running.workOn (pass : Running engine) (registries : Pass.Registries engine)
    (done : List (Action engine.Template)) : Pass.Work engine where
  models := registries.models
  logic := registries.logic
  template := pass.template
  report := pass.report
  actions := done

theorem workOf_following (handle : Handle engine) (pass : Running engine)
    (done : List (Action engine.Template)) :
    (workOf handle pass).following done = pass.workOn ⟨handle.models, handle.logic⟩ done := by
  simp [workOf, Pass.Work.following, Running.workOn]

/-- How far a running pass is from the end of its last stage: it is there, or the
next stage has come to its question. -/
def Running.Reaches (files : FileSystem) (pass : Running engine)
    (work current : Pass.Work engine) : Prop :=
  match pass.phase, pass.remaining with
  | .check, _ => current = work
  | .start, _ => current = work
  | _, [] => False
  | _, stage :: _ => Pass.start files pass.context work stage = (current, .waiting)

/-- A running pass goes as one on its own that started on the given registries:
its first stages have passed and left the given work. -/
structure Running.Follows (files : FileSystem) (pass : Running engine)
    (registries : Pass.Registries engine) (past : List Stage) (work current : Pass.Work engine) :
    Prop where
  split : stagesFor pass.context.kind = past ++ pass.remaining
  more : pass.remaining ≠ []
  stages : pass.stages = past.map (⟨·, true⟩)
  passed : Pass.Passed files pass.context registries.fresh past work
  reached : pass.Reaches files work current

/-- What became of a pass that started on the given registries, and what it did. -/
inductive Fate (files : FileSystem) (context : Pass.Context) (registries : Pass.Registries engine)
    (actions : List (Action engine.Template)) : Outcome → Prop
  | finished {outcome : Outcome} {left : Pass.Registries engine}
      (ran : Pass.run files context registries = ⟨outcome, left, actions⟩) :
      Fate files context registries actions outcome
  | superseded {past rest : List Stage} {work : Pass.Work engine}
      (split : stagesFor context.kind = past ++ rest) (more : rest ≠ [])
      (passed : Pass.Passed files context registries.fresh past work)
      (did : work.actions = actions) : Fate files context registries actions .superseded

namespace Running.Follows

variable {files : FileSystem} {pass : Running engine} {registries : Pass.Registries engine}
  {past : List Stage} {work : Pass.Work engine} {handle : Handle engine}
  {done : List (Action engine.Template)}

theorem begins (files : FileSystem) (context : Pass.Context) (number : Nat) (ticket : Ticket)
    (registries : Pass.Registries engine) :
    Follows files
      { context, handle := number, ticket, remaining := stagesFor context.kind }
      registries [] registries.fresh registries.fresh where
  split := rfl
  more := Pass.stagesFor_ne_nil context.kind
  stages := rfl
  passed := rfl
  reached := rfl

theorem waits (follows : pass.Follows files registries past work
      (pass.workOn ⟨handle.models, handle.logic⟩ done))
    {stage : Stage} {rest : List Stage} (remaining : pass.remaining = stage :: rest)
    {result : Pass.Work engine}
    (half : HalfStage files pass.context (workOf handle pass) stage pass.phase result none)
    {phase : Phase} (waiting : phase = .finish ∨ phase = .blocked) :
    Follows files { pass with template := result.template, report := result.report, phase }
      registries past work (result.following done) where
  split := follows.split
  more := follows.more
  stages := follows.stages
  passed := follows.passed
  reached := by
    have reached := follows.reached
    generalize found : pass.phase = before at half
    cases half with
    | waiting equal =>
        simp only [Reaches, found] at reached
        have started := Pass.start_following done files pass.context (workOf handle pass) stage
        rw [workOf_following, equal, reached] at started
        simp only [Pass.followingBoth] at started
        rcases waiting with rfl | rfl
        · simpa only [Reaches, remaining] using started
        · simpa only [Reaches, remaining] using started

/-- A stage that is over went as it goes for a pass on its own. -/
theorem ran (follows : pass.Follows files registries past work
      (pass.workOn ⟨handle.models, handle.logic⟩ done))
    {stage : Stage} {rest : List Stage} (remaining : pass.remaining = stage :: rest)
    {result : Pass.Work engine} {verdict : Verdict}
    (half : HalfStage files pass.context (workOf handle pass) stage pass.phase result
      (some verdict)) :
    Pass.runStage files pass.context work stage = (result.following done, verdict) := by
  have reached := follows.reached
  generalize found : pass.phase = before at half
  cases half with
  | decided equal =>
      simp only [Reaches, found] at reached
      have started := Pass.start_following done files pass.context (workOf handle pass) stage
      rw [workOf_following, equal, reached] at started
      simp only [Pass.runStage, started, Pass.followingBoth]
  | finished equal =>
      simp only [Reaches, found, remaining] at reached
      have ended := Pass.finish_following done files pass.context (workOf handle pass) stage
      rw [workOf_following, equal] at ended
      simp only [Pass.runStage, reached, ended, Pass.followingBoth]

theorem proceeds (follows : pass.Follows files registries past work
      (pass.workOn ⟨handle.models, handle.logic⟩ done))
    {stage : Stage} {rest : List Stage} (remaining : pass.remaining = stage :: rest)
    {result : Pass.Work engine}
    (half : HalfStage files pass.context (workOf handle pass) stage pass.phase result
      (some .passed)) (more : rest ≠ []) :
    Follows files
      { pass with
        template := result.template
        report := result.report
        stages := pass.stages ++ [⟨stage, true⟩]
        remaining := rest
        phase := .check }
      registries (past ++ [stage]) (result.following done) (result.following done) where
  split := by simp [follows.split, remaining]
  more := more
  stages := by simp [follows.stages]
  passed := follows.passed.snoc (follows.ran remaining half)
  reached := rfl

theorem ends (follows : pass.Follows files registries past work
      (pass.workOn ⟨handle.models, handle.logic⟩ done))
    {stage : Stage} {rest : List Stage} (remaining : pass.remaining = stage :: rest)
    {result : Pass.Work engine} {verdict : Verdict}
    (half : HalfStage files pass.context (workOf handle pass) stage pass.phase result
      (some verdict)) (last : verdict = .passed → rest = []) :
    Fate files pass.context registries (done ++ result.actions)
      (outcomeOf pass stage result.report verdict) := by
  have resumed := follows.passed.resume [] (stage :: rest)
  rw [← remaining, ← follows.split, remaining, List.nil_append, Pass.resume_cons,
    follows.ran remaining half, ← follows.stages] at resumed
  apply Fate.finished
  rw [Pass.run_eq_resume]
  refine resumed.trans ?_
  cases verdict with
  | passed =>
      rw [last rfl, Pass.proceed, Pass.resume_nil]
      rfl
  | failed => rfl
  | aborted => rfl
  | broken => rfl

theorem yields (follows : pass.Follows files registries past work
      (pass.workOn ⟨handle.models, handle.logic⟩ done)) (phase : pass.phase = .check) :
    Fate files pass.context registries done .superseded := by
  have reached := follows.reached
  simp only [Reaches, phase] at reached
  exact .superseded follows.split follows.more follows.passed (by rw [← reached]; rfl)

end Running.Follows

/-! ## Tasks -/

/-- A job that a task was started with. -/
def Asked (moves : List Move) (job : Job) : Prop :=
  ∃ jobs, .spawn jobs ∈ moves ∧ job ∈ jobs

/-- A pass that was asked for and has found its package. -/
structure Sent (files : FileSystem) (moves : List Move) (context : Pass.Context) : Prop where
  asked : Asked moves (.validate context.checker context.document)
  arrived : Pass.arrive files context.checker context.document = .ok context

/-- A pass that has taken a ticket and done what it did. -/
structure Ended (files : FileSystem) (moves : List Move) (ticket : Ticket)
    (actions : List (Action engine.Template)) (outcome : Outcome) (context : Pass.Context)
    (registries : Pass.Registries engine) : Prop where
  sent : Sent files moves context
  own : ticket.document = context.document.uri
  fate : Fate files context registries actions outcome

/-- An outcome that a task may deliver for a document: that of a pass on its own,
unless a newer edit took over. -/
def Due (engine : Engine) (files : FileSystem) (moves : List Move) (document : Document)
    (outcome : Outcome) : Prop :=
  ∃ checker, Asked moves (.validate checker document) ∧
    (outcome = .superseded ∨
      ∃ registries : Pass.Registries engine,
        (Pass.validate files checker document registries).outcome = outcome)

theorem Ended.due {files : FileSystem} {moves : List Move} {ticket : Ticket}
    {actions : List (Action engine.Template)} {outcome : Outcome} {context : Pass.Context}
    {registries : Pass.Registries engine}
    (ended : Ended files moves ticket actions outcome context registries) :
    Due engine files moves context.document outcome := by
  refine ⟨context.checker, ended.sent.asked, ?_⟩
  cases ended.fate with
  | finished ran =>
      refine Or.inr ⟨registries, ?_⟩
      simp only [Pass.validate, ended.sent.arrived, ran]
  | superseded split more passed did => exact Or.inl rfl

/-- A task that does what it was asked to do, as a pass on its own would. -/
def Activity.Faithful (files : FileSystem) (moves : List Move)
    (registries : Nat → Pass.Registries engine)
    (done : Nat → Ticket → List (Action engine.Template)) : Activity engine → Prop
  | .idle => True
  | .arriving checker document => Asked moves (.validate checker document)
  | .rooted context => Sent files moves context
  | .admitted context _ => Sent files moves context
  | .ticketed context number ticket =>
      Sent files moves context ∧ ticket.document = context.document.uri ∧ done number ticket = []
  | .queued context number ticket =>
      Sent files moves context ∧ ticket.document = context.document.uri ∧ done number ticket = []
  | .running pass =>
      Sent files moves pass.context ∧ pass.ticket.document = pass.context.document.uri ∧
        ∃ begun past work, pass.Follows files begun past work
          (pass.workOn (registries pass.handle) (done pass.handle pass.ticket))
  | .leaving _ document outcome => Due engine files moves document outcome
  | .returned document outcome => Due engine files moves document outcome

/-- A task is faithful whatever others do to other registries. -/
theorem Activity.Faithful.congr {files : FileSystem} {moves : List Move}
    {registries later : Nat → Pass.Registries engine}
    {done more : Nat → Ticket → List (Action engine.Template)} {activity : Activity engine}
    (faithful : activity.Faithful files moves registries done)
    (sameRegistries : ∀ number, activity.claim = .uses number → later number = registries number)
    (sameDone : ∀ stand, activity.stand? = some stand →
      more stand.number stand.ticket = done stand.number stand.ticket) :
    activity.Faithful files moves later more := by
  cases activity with
  | ticketed context number ticket =>
      simp only [Faithful, sameDone _ rfl]
      exact faithful
  | queued context number ticket =>
      simp only [Faithful, sameDone _ rfl]
      exact faithful
  | running pass =>
      simp only [Faithful, sameDone _ rfl, sameRegistries _ rfl]
      exact faithful
  | _ => exact faithful

/-! ## Turns -/

/-- The deeds of a turn are those of its own pass. -/
theorem Turn.deeds_own {pool next : Pool engine} {task : Nat} {deeds : List (Deed engine)}
    (turn : Turn pool task deeds next) {deed : Deed engine} (member : deed ∈ deeds) {number : Nat}
    {ticket : Ticket} (pass : deed.pass? = some (number, ticket)) :
    ∃ footing, pool.stand task = some ⟨number, ticket, footing⟩ := by
  have inStage : ∀ {own : Running engine} {jobs : List Job} {stage : Stage}
      {work : Pass.Work engine}, pool.tasks[task]? = some ⟨jobs, .running own⟩ →
      (own.phase.footing = .cleared ∨ own.phase.footing = .engaged) →
      deed ∈ workDeeds own stage work → ∃ footing, pool.stand task = some ⟨number, ticket, footing⟩ := by
    intro own jobs stage work found inside within
    rw [workDeeds_eq_stageDeeds inside] at within
    rw [stageDeeds_pass within] at pass
    cases pass
    exact ⟨_, stand_of_found found⟩
  cases turn with
  | registers found known =>
      rw [List.mem_singleton.mp member] at pass
      cases pass
  | passes found known phase current =>
      rw [List.mem_singleton.mp member] at pass
      cases pass
      exact ⟨_, stand_of_found found⟩
  | yields found known phase outdated =>
      rcases List.mem_pair.mp member with equal | equal
      · rw [equal] at pass
        cases pass
        exact ⟨_, stand_of_found found⟩
      · rw [equal] at pass
        cases pass
        exact ⟨_, stand_of_found found⟩
  | waits found known remaining half reached => exact inStage found half.phase member
  | proceeds found known remaining half more => exact inStage found half.phase member
  | ends found known remaining half last =>
      rcases List.mem_append.mp member with within | isLast
      · exact inStage found half.phase within
      · rw [List.mem_singleton.mp isLast] at pass
        cases pass
        exact ⟨_, stand_of_found found⟩
  | _ => cases member

theorem Turn.files {pool next : Pool engine} {task : Nat} {deeds : List (Deed engine)}
    (turn : Turn pool task deeds next) : next.files = pool.files := by
  cases turn with
  | enters found => exact request_files _ _ _
  | _ => rfl

theorem registries_worked {pool : Pool engine} {task number : Nat} {work : Pass.Work engine}
    {handle : Handle engine} (known : pool.store.handle? number = some handle) :
    (pool.worked task number work).registries =
      Function.update pool.registries number ⟨work.models, work.logic⟩ := by
  have changed : (pool.worked task number work).store =
      pool.store.change number (withWork work) := rfl
  exact view_change pool known changed

/-- A turn changes no registries but those that its task uses. -/
theorem Turn.registries_of_ne {pool next : Pool engine} {task : Nat} {deeds : List (Deed engine)}
    (turn : Turn pool task deeds next) {number : Nat} (apart : pool.claim task ≠ .uses number) :
    next.registries number = pool.registries number := by
  have elsewhere : ∀ {pass : Running engine} {jobs : List Job},
      pool.tasks[task]? = some ⟨jobs, .running pass⟩ → number ≠ pass.handle := by
    rintro pass jobs found rfl
    exact apart (claim_of_found found)
  cases turn with
  | enters found => rw [registries_place, registries_request]
  | @registers context jobs own handle found known =>
      exact congrFun (registries_replace known (handle.issue context.document.uri).1 rfl) number
  | @locks context jobs own ticket handle found known isFree =>
      exact congrFun (registries_replace known { handle with owner := some task } rfl) number
  | @queues context jobs own ticket handle other found known owned =>
      exact congrFun (registries_replace known
        { handle with waiting := handle.waiting ++ [task] } rfl) number
  | yields found known phase outdated => rw [registries_place, registries_unlock]
  | @waits pass jobs handle stage rest work armed events phase found known remaining half reached =>
      have worked := @registries_worked _ pool task _ work _ known
      exact (congrFun worked number).trans (Function.update_of_ne (elsewhere found) _ _)
  | @proceeds pass jobs handle stage rest work found known remaining half more =>
      have worked := @registries_worked _ pool task _ work _ known
      exact (congrFun worked number).trans (Function.update_of_ne (elsewhere found) _ _)
  | ends found known remaining half last =>
      rw [registries_place, registries_unlock, registries_worked known,
        Function.update_of_ne (elsewhere found)]
  | _ => rfl

/-! ## Faithful tasks -/

structure Task.Faithful (files : FileSystem) (moves : List Move)
    (registries : Nat → Pass.Registries engine)
    (done : Nat → Ticket → List (Action engine.Template)) (task : Task engine) : Prop where
  jobs : ∀ job ∈ task.jobs, Asked moves job
  activity : task.activity.Faithful files moves registries done

section

variable {moves : List Move} {deeds new : List (Deed engine)} {pool next : Pool engine} {task : Nat}

/-- A pass in the middle of its stages, on the handle of its root. -/
theorem Task.Faithful.running {jobs : List Job} {pass : Running engine} {handle : Handle engine}
    (faithful : Task.Faithful pool.files moves pool.registries (actionsOf deeds)
      ⟨jobs, .running pass⟩) (known : pool.store.handle? pass.handle = some handle) :
    Sent pool.files moves pass.context ∧ pass.ticket.document = pass.context.document.uri ∧
      ∃ begun past work, pass.Follows pool.files begun past work
        (pass.workOn ⟨handle.models, handle.logic⟩ (actionsOf deeds pass.handle pass.ticket)) := by
  have activity := faithful.activity
  simp only [Activity.Faithful, registries_of_known known] at activity
  exact activity

/-- Nothing was done yet with a ticket that was not issued before. -/
theorem Told.actionsOf_issued {number : Nat} {handle : Handle engine} (told : Told deeds pool)
    (known : pool.store.handle? number = some handle) (document : Uri) (asker : Option Nat) :
    actionsOf (deeds ++ [.issued asker number (handle.issue document).2]) number
      (handle.issue document).2 = [] := by
  have fresh : (handle.issue document).2 ∉ tickets deeds number := by
    have next := @Booked.next_fresh _ _ _ number told.booked document
    rw [book_of_known known] at next
    exact next
  apply actionsOf_of_apart
  intro deed member pass
  rcases List.mem_append.mp member with early | late
  · exact fresh (told.attended.known deed number _ early pass)
  · rw [List.mem_singleton.mp late] at pass
    cases pass

/-- A faithful task stays so with each of its turns. -/
theorem Task.Faithful.turned {current : Task engine} (told : Told deeds pool)
    (found : pool.tasks[task]? = some current)
    (faithful : current.Faithful pool.files moves pool.registries (actionsOf deeds))
    (turn : Turn pool task new next) :
    ∃ later, next.tasks[task]? = some later ∧
      later.Faithful next.files moves next.registries (actionsOf (deeds ++ new)) := by
  rw [turn.files]
  cases turn with
  | halts stuck =>
      rw [List.append_nil]
      exact ⟨current, found, faithful⟩
  | takesUp found' =>
      rw [found'] at found
      cases found
      refine ⟨_, tasks_place_self found' rfl _, ?_, faithful.jobs _ List.mem_cons_self⟩
      exact fun job member => faithful.jobs job (List.mem_cons_of_mem _ member)
  | evicts found' =>
      rw [found'] at found
      cases found
      refine ⟨_, tasks_place_self found' rfl _, ?_, trivial⟩
      exact fun job member => faithful.jobs job (List.mem_cons_of_mem _ member)
  | @turnsBack checker document jobs outcome found' arrived =>
      rw [found'] at found
      cases found
      refine ⟨_, tasks_place_self found' rfl _, faithful.jobs, ⟨checker, faithful.activity, ?_⟩⟩
      exact Or.inr ⟨⟨engine.newModels, engine.newLogic⟩, by simp only [Pass.validate, arrived]⟩
  | @arrives checker document jobs context found' arrived =>
      rw [found'] at found
      cases found
      rcases Pass.sited_of_arrive arrived with ⟨_, rfl, rfl⟩
      exact ⟨_, tasks_place_self found' rfl _, faithful.jobs, faithful.activity, arrived⟩
  | enters found' =>
      rw [found'] at found
      cases found
      exact ⟨_, tasks_place_self found' (request_tasks _ _ _) _, faithful.jobs, faithful.activity⟩
  | @registers context jobs number handle found' known =>
      rw [found'] at found
      cases found
      exact ⟨_, tasks_place_self found' rfl _, faithful.jobs, faithful.activity, rfl,
        told.actionsOf_issued known context.document.uri (some task)⟩
  | @locks context jobs number ticket handle found' known isFree =>
      rw [found'] at found
      cases found
      rcases faithful.activity with ⟨sent, own, untouched⟩
      refine ⟨_, tasks_place_self found' rfl _, faithful.jobs, sent, own, ?_⟩
      rw [List.append_nil]
      simp only [untouched]
      exact ⟨_, [], _, .begins pool.files context number ticket _⟩
  | queues found' known owned =>
      rw [found'] at found
      cases found
      rw [List.append_nil]
      exact ⟨_, tasks_place_self found' rfl _, faithful.jobs, faithful.activity⟩
  | @resumes context jobs number ticket handle found' known owned =>
      rw [found'] at found
      cases found
      rcases faithful.activity with ⟨sent, own, untouched⟩
      refine ⟨_, tasks_place_self found' rfl _, faithful.jobs, sent, own, ?_⟩
      rw [List.append_nil]
      simp only [untouched]
      exact ⟨_, [], _, .begins pool.files context number ticket _⟩
  | @passes pass jobs handle found' known phase current =>
      rw [found'] at found
      cases found
      rcases faithful.activity with ⟨sent, own, begun, past, work, follows⟩
      refine ⟨_, tasks_place_self found' rfl _, faithful.jobs, sent, own, begun, past, work, ?_⟩
      have reached := follows.reached
      simp only [Running.Reaches, phase] at reached
      have sameDone : actionsOf (deeds ++ [.checked pass.handle pass.ticket true]) pass.handle
          pass.ticket = actionsOf deeds pass.handle pass.ticket := by
        simp [actionsOf]
      rw [sameDone]
      exact ⟨follows.split, follows.more, follows.stages, follows.passed, reached⟩
  | @yields pass jobs handle found' known phase outdated =>
      rw [found'] at found
      cases found
      rcases faithful.running known with ⟨sent, own, begun, past, work, follows⟩
      have ended : Ended pool.files moves pass.ticket _ .superseded pass.context begun :=
        ⟨sent, own, follows.yields phase⟩
      exact ⟨_, tasks_place_self found' rfl _, faithful.jobs, ended.due⟩
  | @waits pass jobs handle stage rest work armed events phase found' known remaining half reached =>
      rw [found'] at found
      cases found
      rcases faithful.running known with ⟨sent, own, begun, past, before, follows⟩
      have waiting : phase = .finish ∨ phase = .blocked := by
        cases reached with
        | free => exact Or.inl rfl
        | held armed => exact Or.inr rfl
      refine ⟨_, tasks_place_self found' rfl _, faithful.jobs, sent, own, begun, past, before, ?_⟩
      have worked := registries_of_known (@handle?_worked _ pool task _ work _ known)
      have kept := follows.waits remaining half waiting
      rw [actionsOf_append, actionsOf_workDeeds]
      exact worked ▸ kept
  | @proceeds pass jobs handle stage rest work found' known remaining half more =>
      rw [found'] at found
      cases found
      rcases faithful.running known with ⟨sent, own, begun, past, before, follows⟩
      refine ⟨_, tasks_place_self found' rfl _, faithful.jobs, sent, own, begun, past ++ [stage],
        work.following (actionsOf deeds pass.handle pass.ticket), ?_⟩
      have worked := registries_of_known (@handle?_worked _ pool task _ work _ known)
      have kept := follows.proceeds remaining half more
      rw [actionsOf_append, actionsOf_workDeeds]
      exact worked ▸ kept
  | @ends pass jobs handle stage rest work verdict found' known remaining half last =>
      rw [found'] at found
      cases found
      rcases faithful.running known with ⟨sent, own, begun, past, before, follows⟩
      have ended : Ended pool.files moves pass.ticket _ _ pass.context begun :=
        ⟨sent, own, follows.ends remaining half last⟩
      exact ⟨_, tasks_place_self found' rfl _, faithful.jobs, ended.due⟩
  | departs found' =>
      rw [found'] at found
      cases found
      exact ⟨_, tasks_place_self found' rfl _, faithful.jobs, faithful.activity⟩
  | delivers found' =>
      rw [found'] at found
      cases found
      refine ⟨_, tasks_place_self found' rfl _, ?_, trivial⟩
      intro job member
      split at member
      · cases member
      · exact faithful.jobs job member

/-- What others did in a turn is nothing to a faithful task. -/
theorem Task.Faithful.others {other : Nat} {current : Task engine} (told : Told deeds pool)
    (turn : Turn pool task new next) (different : other ≠ task)
    (found : pool.tasks[other]? = some current)
    (faithful : current.Faithful pool.files moves pool.registries (actionsOf deeds)) :
    current.Faithful next.files moves next.registries (actionsOf (deeds ++ new)) := by
  rw [turn.files]
  refine ⟨faithful.jobs, faithful.activity.congr ?_ ?_⟩
  · intro number uses
    apply turn.registries_of_ne
    intro alsoUses
    rw [← claim_of_found found] at uses
    exact different (told.orderly.user_unique uses alsoUses)
  · intro stand stands
    rw [← stand_of_found found] at stands
    apply actionsOf_append_of_apart
    intro deed member pass
    rcases turn.deeds_own member pass with ⟨footing, ownStand⟩
    exact different (told.attended.alone other task stand _ stands ownStand rfl rfl)

/-- The pass that ends in a turn. -/
theorem Task.Faithful.ended {current : Task engine} (found : pool.tasks[task]? = some current)
    (faithful : current.Faithful pool.files moves pool.registries (actionsOf deeds))
    (turn : Turn pool task new next) {number : Nat} {ticket : Ticket} {outcome : Outcome}
    (member : .ended number ticket outcome ∈ new) :
    ∃ context registries, Ended pool.files moves ticket (actionsOf (deeds ++ new) number ticket)
      outcome context registries := by
  have inStage : ∀ {pass : Running engine} {stage : Stage} {work : Pass.Work engine},
      (pass.phase.footing = .cleared ∨ pass.phase.footing = .engaged) →
      .ended number ticket outcome ∉ workDeeds pass stage work := by
    intro pass stage work inside within
    rw [workDeeds_eq_stageDeeds inside] at within
    exact stageDeeds_inside.2 outcome within
  cases turn with
  | registers found' known => simp at member
  | passes found' known phase current => simp at member
  | @yields pass jobs handle found' known phase outdated =>
      rw [found'] at found
      cases found
      rcases faithful.running known with ⟨sent, own, begun, past, work, follows⟩
      have same : number = pass.handle ∧ ticket = pass.ticket ∧ outcome = .superseded := by
        simpa using member
      rcases same with ⟨rfl, rfl, rfl⟩
      have sameDone : actionsOf (deeds ++ [.checked pass.handle pass.ticket false,
          .ended pass.handle pass.ticket .superseded]) pass.handle pass.ticket =
          actionsOf deeds pass.handle pass.ticket := by
        simp [actionsOf]
      rw [sameDone]
      exact ⟨pass.context, begun, sent, own, follows.yields phase⟩
  | waits found' known remaining half reached => exact absurd member (inStage half.phase)
  | proceeds found' known remaining half more => exact absurd member (inStage half.phase)
  | @ends pass jobs handle stage rest work verdict found' known remaining half last =>
      rw [found'] at found
      cases found
      rcases faithful.running known with ⟨sent, own, begun, past, before, follows⟩
      have isLast := (List.mem_append.mp member).resolve_left (inStage half.phase)
      rw [List.mem_singleton] at isLast
      cases isLast
      have allDone : actionsOf (deeds ++ (workDeeds pass stage work ++
          [.ended pass.handle pass.ticket (outcomeOf pass stage work.report verdict)]))
          pass.handle pass.ticket =
          actionsOf deeds pass.handle pass.ticket ++ work.actions := by
        rw [actionsOf_append, actionsOf_append, actionsOf_workDeeds]
        simp [actionsOf]
      rw [allDone]
      exact ⟨pass.context, begun, sent, own, follows.ends remaining half last⟩
  | _ => cases member

theorem Task.Faithful.delivered {current : Task engine} (found : pool.tasks[task]? = some current)
    (faithful : current.Faithful pool.files moves pool.registries (actionsOf deeds))
    (turn : Turn pool task new next) {delivery : Delivery} (member : delivery ∈ next.deliveries) :
    delivery ∈ pool.deliveries ∨
      Due engine pool.files moves delivery.document delivery.outcome := by
  cases turn with
  | enters found' =>
      rw [← request_deliveries pool (some task)]
      exact Or.inl member
  | delivers found' =>
      rw [found'] at found
      cases found
      rcases List.mem_append.mp member with early | late
      · exact Or.inl early
      · rw [List.mem_singleton.mp late]
        exact Or.inr faithful.activity
  | _ => exact Or.inl member

end

/-! ## Runs -/

/-- All passes of a pool do, and have done, what they do on their own. -/
structure Conduct (moves : List Move) (deeds : List (Deed engine)) (pool : Pool engine) :
    Prop where
  faithful : ∀ (task : Nat) (current : Task engine), pool.tasks[task]? = some current →
    current.Faithful pool.files moves pool.registries (actionsOf deeds)
  ended : ∀ number ticket outcome, .ended number ticket outcome ∈ deeds →
    ∃ context registries, Ended pool.files moves ticket (actionsOf deeds number ticket) outcome
      context registries
  delivered : ∀ delivery ∈ pool.deliveries,
    Due engine pool.files moves delivery.document delivery.outcome

theorem after_files (pool : Pool engine) {move : Move} (still : ∀ files, move ≠ .change files) :
    (pool.after move).files = pool.files := by
  cases move with
  | step task => exact (turn_step pool task).files
  | ticket root document => exact request_files pool none root
  | arm point =>
      simp only [after, arm]
      split
      · rfl
      · rfl
  | change files => exact absurd rfl (still files)
  | _ => rfl

namespace Conduct

variable {moves : List Move} {deeds : List (Deed engine)} {pool : Pool engine}

theorem stepped (conduct : Conduct moves deeds pool) (told : Told deeds pool) (task : Nat) :
    Conduct moves (deeds ++ pool.deedsOfStep task) (pool.step task) := by
  have turn := turn_step pool task
  generalize pool.deedsOfStep task = new at turn
  generalize pool.step task = next at turn
  cases found : pool.tasks[task]? with
  | none =>
      cases turn with
      | halts stuck =>
          rw [List.append_nil]
          exact conduct
      | _ => simp_all
  | some current =>
      have faithful := conduct.faithful task current found
      refine ⟨?_, ?_, ?_⟩
      · intro other activity foundOther
        by_cases same : other = task
        · subst same
          rcases faithful.turned told found turn with ⟨later, foundLater, stays⟩
          rw [foundLater] at foundOther
          cases foundOther
          exact stays
        · rw [turn.tasks.2 other same] at foundOther
          exact (conduct.faithful other activity foundOther).others told turn same foundOther
      · intro number ticket outcome member
        rw [turn.files]
        rcases List.mem_append.mp member with early | late
        · -- A pass that has ended does nothing more.
          have apart : ∀ deed ∈ new, deed.pass? ≠ some (number, ticket) := by
            intro deed within pass
            rcases turn.deeds_own within pass with ⟨footing, stands⟩
            exact (told.attended.well task _ stands).unended outcome early
          rw [actionsOf_append_of_apart apart]
          exact conduct.ended number ticket outcome early
        · exact faithful.ended found turn late
      · intro delivery member
        rw [turn.files]
        rcases faithful.delivered found turn member with early | late
        · exact conduct.delivered delivery early
        · exact late

/-- A move that no pass notices. -/
theorem unnoticed (conduct : Conduct moves deeds pool) {new : List (Deed engine)}
    {next : Pool engine} (sameFiles : next.files = pool.files) (sameTasks : next.tasks = pool.tasks)
    (sameRegistries : next.registries = pool.registries)
    (sameDeliveries : next.deliveries = pool.deliveries)
    (quiet : ∀ deed ∈ new, deed.pass? = none) : Conduct moves (deeds ++ new) next := by
  have sameDone : actionsOf (deeds ++ new) = actionsOf deeds := by
    funext number ticket
    apply actionsOf_append_of_apart
    intro deed member pass
    rw [quiet deed member] at pass
    cases pass
  refine ⟨?_, ?_, ?_⟩
  · rw [sameFiles, sameTasks, sameRegistries, sameDone]
    exact conduct.faithful
  · intro number ticket outcome member
    rw [sameFiles, sameDone]
    rcases List.mem_append.mp member with early | late
    · exact conduct.ended number ticket outcome early
    · cases quiet _ late
  · rw [sameFiles, sameDeliveries]
    exact conduct.delivered

theorem spawned (conduct : Conduct moves deeds pool) {jobs : List Job}
    (asked : .spawn jobs ∈ moves) : Conduct moves deeds (pool.spawn jobs) := by
  refine ⟨?_, conduct.ended, conduct.delivered⟩
  intro task current found
  rcases List.mem_append.mp (List.mem_of_getElem? found) with old | new
  · rcases List.getElem?_of_mem old with ⟨number, foundOld⟩
    exact conduct.faithful number current foundOld
  · rw [List.mem_singleton.mp new]
    exact ⟨fun job member => ⟨jobs, asked, member⟩, trivial⟩

theorem released (conduct : Conduct moves deeds pool) : Conduct moves deeds pool.release := by
  refine ⟨?_, conduct.ended, conduct.delivered⟩
  intro task current found
  have mapped : (pool.tasks[task]?).map (fun task : Task engine =>
      { task with activity := task.activity.unblock }) = some current := by
    rw [← List.getElem?_map]
    exact found
  rcases Option.map_eq_some_iff.mp mapped with ⟨old, foundOld, equal⟩
  have faithful := conduct.faithful task old foundOld
  rw [← equal]
  refine ⟨faithful.jobs, ?_⟩
  have activity := faithful.activity
  cases isRunning : old.activity with
  | running pass =>
      rw [isRunning] at activity
      by_cases blocked : pass.phase = .blocked
      · rcases activity with ⟨sent, own, begun, past, work, follows⟩
        simp only [Activity.unblock, blocked, if_true]
        have reached := follows.reached
        refine ⟨sent, own, begun, past, work, follows.split, follows.more, follows.stages,
          follows.passed, ?_⟩
        cases remaining : pass.remaining with
        | nil => exact absurd remaining follows.more
        | cons stage rest =>
            simp only [Running.Reaches, blocked, remaining] at reached
            exact reached
      · simp only [Activity.unblock, blocked, if_false]
        exact activity
  | _ =>
      rw [isRunning] at activity
      exact activity

theorem after (conduct : Conduct moves deeds pool) (told : Told deeds pool) {move : Move}
    (member : move ∈ moves) (still : ∀ files, move ≠ .change files) :
    Conduct moves (deeds ++ pool.deedsOf move) (pool.after move) := by
  have sameFiles := after_files pool still
  have unmoved : Conduct moves (deeds ++ []) pool := by
    rw [List.append_nil]
    exact conduct
  cases move with
  | spawn jobs => exact unmoved.spawned member
  | step task => exact conduct.stepped told task
  | evict root => exact conduct.unnoticed rfl rfl rfl rfl (by simp [deedsOf])
  | evictUnder folder => exact conduct.unnoticed rfl rfl rfl rfl (by simp [deedsOf])
  | ticket root document =>
      have sameRegistries : (pool.requestTicket root document).1.registries = pool.registries :=
        (view_issue (pool.request none root).1 rfl fun _ => rfl).trans
          (view_request pool none root rfl)
      refine conduct.unnoticed sameFiles (request_tasks pool none root) sameRegistries
        (request_deliveries pool none root) ?_
      intro deed within
      rcases List.mem_map.mp within with ⟨ticket, _, equal⟩
      rw [← equal]
      rfl
  | arm point =>
      simp only [Pool.after, arm]
      split
      · exact unmoved
      · exact conduct.unnoticed rfl rfl rfl rfl (by simp [deedsOf])
  | release => exact unmoved.released
  | change files => exact absurd rfl (still files)

end Conduct

/-- In every run without changes of files all passes do what they do on their
own. -/
theorem conduct_run (engine : Engine) (files : FileSystem) (capacity : Nat) {moves : List Move}
    (still : ∀ changed, .change changed ∉ moves) :
    ((Pool.empty engine files capacity).run moves).files = files ∧
      Conduct moves ((Pool.empty engine files capacity).deeds moves)
        ((Pool.empty engine files capacity).run moves) := by
  let Holds (deeds : List (Deed engine)) (pool : Pool engine) : Prop :=
    Told deeds pool ∧ pool.files = files ∧ Conduct moves deeds pool
  have start : Holds [] (Pool.empty engine files capacity) :=
    ⟨told_empty engine files capacity, rfl, by simp [empty], by simp, by simp [empty]⟩
  refine (run_induction_of_mem Holds start moves ?_).2
  rintro deeds pool move member ⟨told, sameFiles, conduct⟩
  have isStill : ∀ changed, move ≠ .change changed := by
    rintro changed rfl
    exact still changed member
  exact ⟨told.after move, (after_files pool isStill).trans sameFiles,
    conduct.after told member isStill⟩

end TemplateCheck.Pool
