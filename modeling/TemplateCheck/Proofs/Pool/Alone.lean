import TemplateCheck.Proofs.Pass.Record
import TemplateCheck.Proofs.Pool.Errands

/-! # Passes that are left alone

Where no other task moves, no answer is held back and no file changes, the steps
of a task that checks a document add up to one pass on the registries of its
root: the pool delivers the outcome of that pass, its log tells what the pass
did, and its store keeps what the pass left. So whatever is proved of passes on
their own is true of what a pool does when documents are checked one by one.
-/

namespace TemplateCheck.Pool

open Roots (Ticket Handle Store)

variable {engine : Engine}

/-- The registries of a handle; a handle that is not there yet has new ones. -/
def registries : Pool engine → Nat → Pass.Registries engine :=
  view (fun handle => ⟨handle.models, handle.logic⟩) ⟨engine.newModels, engine.newLogic⟩

/-- What a running pass comes to if it is left alone. -/
def Running.prospect (files : FileSystem) (pass : Running engine) (handle : Handle engine) :
    Pass.Finished engine :=
  match pass.phase, pass.remaining with
  | .finish, stage :: rest =>
      Pass.proceed files pass.context pass.stages stage rest
        (Pass.finish files pass.context (workOf handle pass) stage)
  | _, stages => Pass.resume files pass.context pass.stages stages (workOf handle pass)

/-! ## The prospect of a pass -/

section

variable {files : FileSystem} {pass : Running engine} {handle : Handle engine}

theorem prospect_of_ne_finish (phase : pass.phase ≠ .finish) :
    pass.prospect files handle =
      Pass.resume files pass.context pass.stages pass.remaining (workOf handle pass) := by
  unfold Running.prospect
  split
  · next finish _ => exact absurd finish phase
  · rfl

theorem prospect_of_verdict {stage : Stage} {rest : List Stage} {work : Pass.Work engine}
    {verdict : Verdict} (remaining : pass.remaining = stage :: rest)
    (half : HalfStage files pass.context (workOf handle pass) stage pass.phase work
      (some verdict)) :
    pass.prospect files handle =
      Pass.proceed files pass.context pass.stages stage rest (work, verdict) := by
  generalize phase : pass.phase = found at half
  cases half with
  | decided equal =>
      rw [prospect_of_ne_finish (by simp [phase]), remaining, Pass.resume_cons, Pass.runStage, equal]
  | finished equal => simp only [Running.prospect, phase, remaining, equal]

theorem prospect_of_waiting {stage : Stage} {rest : List Stage} {work : Pass.Work engine}
    (remaining : pass.remaining = stage :: rest)
    (half : HalfStage files pass.context (workOf handle pass) stage pass.phase work none) :
    pass.prospect files handle =
      Pass.proceed files pass.context pass.stages stage rest
        (Pass.finish files pass.context work stage) := by
  generalize phase : pass.phase = found at half
  cases half with
  | waiting equal =>
      rw [prospect_of_ne_finish (by simp [phase]), remaining, Pass.resume_cons, Pass.runStage, equal]

end

/-! ## Missions -/

/-- What a task is to bring about that checks a document alone: at which handle,
behind which events, and with which end. -/
structure Mission (engine : Engine) where
  task : Nat
  document : Document
  site : Nat
  opened : List (Event engine)
  goal : Pass.Finished engine

namespace Mission

/-- The log after the given actions. -/
def logged (mission : Mission engine) (actions : List (Action engine.Template)) :
    List (Event engine) :=
  mission.opened ++ actions.map (.did (some mission.task))

/-- The mission of a pass that has found its package. -/
structure Enters (mission : Mission engine) (pool : Pool engine) (context : Pass.Context) :
    Prop where
  own : context.document = mission.document
  site : (pool.request (some mission.task) context.root).2 = mission.site
  opened : (pool.request (some mission.task) context.root).1.log = mission.opened
  goal : Pass.run pool.files context (pool.registries mission.site) = mission.goal

def SetsOut (mission : Mission engine) (pool : Pool engine) (checker : Checker) : Prop :=
  match Pass.arrive pool.files checker mission.document with
  | .error outcome =>
      pool.log = mission.opened ∧ ⟨outcome, pool.registries mission.site, []⟩ = mission.goal
  | .ok context => mission.Enters pool context

/-- The end of a mission, but for the delivery. -/
structure Attained (mission : Mission engine) (pool : Pool engine) : Prop where
  log : pool.log = mission.logged mission.goal.actions
  registries : pool.registries mission.site = mission.goal.registries

/-- A pass in the middle of its stages. -/
structure Carries (mission : Mission engine) (pool : Pool engine) (pass : Running engine)
    (handle : Handle engine) (done : List (Action engine.Template)) : Prop where
  own : pass.context.document = mission.document
  site : pass.handle = mission.site
  known : pool.store.handle? pass.handle = some handle
  current : handle.isCurrent pass.ticket = true
  free : pass.phase ≠ .blocked
  log : pool.log = mission.logged done
  goal : (pass.prospect pool.files handle).following done = mission.goal

/-- How far a task has come on its mission, and what it has delivered. -/
inductive Leads (mission : Mission engine) (pool : Pool engine) :
    Task engine → List Delivery → Prop
  | waiting {checker : Checker} (setsOut : mission.SetsOut pool checker) :
      Leads mission pool ⟨[.validate checker mission.document], .idle⟩ []
  | arriving {checker : Checker} (setsOut : mission.SetsOut pool checker) :
      Leads mission pool ⟨[], .arriving checker mission.document⟩ []
  | rooted {context : Pass.Context} (enters : mission.Enters pool context) :
      Leads mission pool ⟨[], .rooted context⟩ []
  | admitted {context : Pass.Context} (own : context.document = mission.document)
      (log : pool.log = mission.opened)
      (goal : Pass.run pool.files context (pool.registries mission.site) = mission.goal) :
      Leads mission pool ⟨[], .admitted context mission.site⟩ []
  | ticketed {context : Pass.Context} {ticket : Ticket} {handle : Handle engine}
      (own : context.document = mission.document) (log : pool.log = mission.opened)
      (known : pool.store.handle? mission.site = some handle)
      (current : handle.isCurrent ticket = true)
      (goal : Pass.run pool.files context (pool.registries mission.site) = mission.goal) :
      Leads mission pool ⟨[], .ticketed context mission.site ticket⟩ []
  | running {pass : Running engine} {handle : Handle engine}
      {done : List (Action engine.Template)} (carries : mission.Carries pool pass handle done) :
      Leads mission pool ⟨[], .running pass⟩ []
  | leaving (attained : mission.Attained pool) :
      Leads mission pool ⟨[], .leaving mission.site mission.document mission.goal.outcome⟩ []
  | returned (attained : mission.Attained pool) :
      Leads mission pool ⟨[], .returned mission.document mission.goal.outcome⟩ []
  | delivered (attained : mission.Attained pool) :
      Leads mission pool ⟨[], .idle⟩ [⟨mission.task, mission.document, mission.goal.outcome⟩]

end Mission

theorem registries_of_known {pool : Pool engine} {number : Nat} {handle : Handle engine}
    (known : pool.store.handle? number = some handle) :
    pool.registries number = ⟨handle.models, handle.logic⟩ :=
  view_of_known pool known

theorem registries_request (pool : Pool engine) (task : Option Nat) (root : Path) :
    (pool.request task root).1.registries = pool.registries :=
  view_request pool task root rfl

theorem registries_unlock (pool : Pool engine) (number : Nat) :
    (pool.unlock number).registries = pool.registries := by
  apply view_change_same pool rfl
  intro handle known
  unfold Handle.release
  split
  · rfl
  · rfl

theorem registries_replace {pool : Pool engine} {number : Nat} {old : Handle engine}
    (known : pool.store.handle? number = some old) (new : Handle engine)
    (same : (⟨new.models, new.logic⟩ : Pass.Registries engine) = ⟨old.models, old.logic⟩) :
    { pool with store := pool.store.change number fun _ => new }.registries = pool.registries :=
  view_replace_same pool known rfl same

theorem registries_place (pool : Pool engine) (task : Nat) (new : Task engine) :
    (pool.place task new).registries = pool.registries := rfl

theorem place_files (pool : Pool engine) (task : Nat) (new : Task engine) :
    (pool.place task new).files = pool.files := rfl

@[simp] theorem request_files (pool : Pool engine) (task : Option Nat) (root : Path) :
    (pool.request task root).1.files = pool.files := by
  simp only [request]
  split
  · rfl
  · rfl

@[simp] theorem request_armed (pool : Pool engine) (task : Option Nat) (root : Path) :
    (pool.request task root).1.armed = pool.armed := by
  simp only [request]
  split
  · rfl
  · rfl

theorem isCurrent_issue (handle : Handle engine) (document : Uri) :
    (handle.issue document).1.isCurrent (handle.issue document).2 = true := by
  simp [Handle.issue, Handle.isCurrent, Uri.find?_put, Uri.same_refl]

/-- New registries are told in the log. -/
theorem request_log (pool : Pool engine) (task : Option Nat) (root : Path) :
    (pool.request task root).1.log = pool.log ++
      if (pool.store.request pool.holds root).2.2 = true then
        [.did task (.call .newModels), .did task (.call .newLogic)]
      else [] := by
  simp only [request]
  split
  · rfl
  · rw [List.append_nil]

/-- A request depends on the store, its holders and nothing else. -/
theorem request_place {pool : Pool engine} {task : Nat} {old new : Task engine}
    (found : pool.tasks[task]? = some old)
    (sameHandle : new.activity.handle? = old.activity.handle?) (asker : Option Nat) (root : Path) :
    ((pool.place task new).request asker root).2 = (pool.request asker root).2 ∧
      ((pool.place task new).request asker root).1.log = (pool.request asker root).1.log := by
  have sameHolders := holds_place found sameHandle
  have sameStore : (pool.place task new).store = pool.store := rfl
  have sameLog : (pool.place task new).log = pool.log := rfl
  constructor
  · rw [request_number, request_number, sameHolders, sameStore]
  · rw [request_log, request_log, sameHolders, sameStore, sameLog]

theorem Mission.Enters.place {mission : Mission engine} {pool : Pool engine}
    {context : Pass.Context} (enters : mission.Enters pool context) {task : Nat}
    {old new : Task engine} (found : pool.tasks[task]? = some old)
    (sameHandle : new.activity.handle? = old.activity.handle?) :
    mission.Enters (pool.place task new) context where
  own := enters.own
  site := (request_place found sameHandle _ _).1.trans enters.site
  opened := (request_place found sameHandle _ _).2.trans enters.opened
  goal := enters.goal

theorem Mission.Enters.noteApproach {mission : Mission engine} {pool : Pool engine}
    {context : Pass.Context} (enters : mission.Enters pool context) (task : Nat)
    (manifests : List Path) : mission.Enters (pool.noteApproach task manifests) context where
  own := enters.own
  site := (request_number ..).trans ((request_number pool ..).symm.trans enters.site)
  opened := (request_log ..).trans ((request_log pool ..).symm.trans enters.opened)
  goal := enters.goal

theorem Mission.SetsOut.place {mission : Mission engine} {pool : Pool engine}
    {checker : Checker} (setsOut : mission.SetsOut pool checker) {task : Nat}
    {old new : Task engine} (found : pool.tasks[task]? = some old)
    (sameHandle : new.activity.handle? = old.activity.handle?) :
    mission.SetsOut (pool.place task new) checker := by
  unfold SetsOut at setsOut ⊢
  have sameFiles : (pool.place task new).files = pool.files := rfl
  rw [sameFiles]
  split at setsOut
  · exact setsOut
  · exact setsOut.place found sameHandle

/-! ## One turn -/

theorem Mission.logged_append (mission : Mission engine)
    (actions more : List (Action engine.Template)) :
    mission.logged (actions ++ more) =
      mission.logged actions ++ more.map (.did (some mission.task)) := by
  simp [logged]

namespace Mission.Carries

variable {mission : Mission engine} {pool : Pool engine} {pass : Running engine}
  {handle : Handle engine} {done : List (Action engine.Template)}

theorem begins {context : Pass.Context} {ticket : Ticket}
    (own : context.document = mission.document) (log : pool.log = mission.opened)
    (known : pool.store.handle? mission.site = some handle)
    (current : handle.isCurrent ticket = true)
    (goal : Pass.run pool.files context (pool.registries mission.site) = mission.goal) :
    mission.Carries pool
      { context, handle := mission.site, ticket, remaining := stagesFor context.kind } handle []
    where
  own := own
  site := rfl
  known := known
  current := current
  free := by simp
  log := by simp [log, logged]
  goal := by
    rw [← goal, registries_of_known known, Pass.run_eq_resume, prospect_of_ne_finish (by simp)]
    rfl

/-- Half a stage that leaves more to do. The record of what it did goes to the
log, and the next half starts on a blank one. -/
theorem advances (carries : mission.Carries pool pass handle done) {work : Pass.Work engine}
    {next : Pool engine} {later : Running engine} (sameFiles : next.files = pool.files)
    (known : next.store.handle? pass.handle = some (withWork work handle))
    (log : next.log = pool.log ++ work.actions.map (.did (some mission.task)))
    (same : later.context = pass.context ∧ later.handle = pass.handle ∧ later.ticket = pass.ticket)
    (free : later.phase ≠ .blocked)
    (prospect : pass.prospect pool.files handle =
      (later.prospect pool.files (withWork work handle)).following work.actions) :
    mission.Carries next later (withWork work handle) (done ++ work.actions) where
  own := by rw [same.1, carries.own]
  site := by rw [same.2.1, carries.site]
  known := by rw [same.2.1, known]
  current := by rw [same.2.2]; exact carries.current
  free := free
  log := by rw [log, carries.log, logged_append]
  goal := by
    rw [← carries.goal, prospect, sameFiles]
    simp [Pass.Finished.following]

theorem waits (carries : mission.Carries pool pass handle done) {work : Pass.Work engine}
    {stage : Stage} {rest : List Stage} (remaining : pass.remaining = stage :: rest)
    (half : HalfStage pool.files pass.context (workOf handle pass) stage pass.phase work none)
    {next : Pool engine} (sameFiles : next.files = pool.files)
    (known : next.store.handle? pass.handle = some (withWork work handle))
    (log : next.log = pool.log ++ work.actions.map (.did (some mission.task))) :
    mission.Carries next
      { pass with template := work.template, report := work.report, phase := .finish }
      (withWork work handle) (done ++ work.actions) := by
  refine carries.advances sameFiles known log ?_ (by simp) ?_
  · exact ⟨rfl, rfl, rfl⟩
  · have finished := Pass.finish_following work.actions pool.files pass.context work.unrecorded stage
    rw [work.following_unrecorded] at finished
    rw [prospect_of_waiting remaining half, finished, Pass.proceed_following]
    simp only [Running.prospect, remaining]
    rfl

theorem proceeds (carries : mission.Carries pool pass handle done) {work : Pass.Work engine}
    {stage : Stage} {rest : List Stage} (remaining : pass.remaining = stage :: rest)
    (half : HalfStage pool.files pass.context (workOf handle pass) stage pass.phase work
      (some .passed)) {next : Pool engine} (sameFiles : next.files = pool.files)
    (known : next.store.handle? pass.handle = some (withWork work handle))
    (log : next.log = pool.log ++ work.actions.map (.did (some mission.task))) :
    mission.Carries next
      { pass with
        template := work.template
        report := work.report
        stages := pass.stages ++ [⟨stage, true⟩]
        remaining := rest
        phase := .check }
      (withWork work handle) (done ++ work.actions) := by
  refine carries.advances sameFiles known log ?_ (by simp) ?_
  · exact ⟨rfl, rfl, rfl⟩
  · have resumed := Pass.resume_following work.actions pool.files pass.context
      (pass.stages ++ [⟨stage, true⟩]) rest work.unrecorded
    rw [work.following_unrecorded] at resumed
    rw [prospect_of_verdict remaining half, Pass.proceed, resumed, prospect_of_ne_finish (by simp)]
    rfl

/-- The last half of the last stage. -/
theorem ends (carries : mission.Carries pool pass handle done) {work : Pass.Work engine}
    {stage : Stage} {rest : List Stage} {verdict : Verdict}
    (remaining : pass.remaining = stage :: rest)
    (half : HalfStage pool.files pass.context (workOf handle pass) stage pass.phase work
      (some verdict)) (last : verdict = .passed → rest = []) :
    mission.goal = ⟨outcomeOf pass stage work.report verdict, ⟨work.models, work.logic⟩,
      done ++ work.actions⟩ := by
  rw [← carries.goal, prospect_of_verdict remaining half]
  cases verdict with
  | passed =>
      rw [last rfl, Pass.proceed, Pass.resume_nil]
      rfl
  | failed => rfl
  | aborted => rfl
  | broken => rfl

end Mission.Carries

/-- A turn of a task on a mission that nobody else gets in the way of. -/
theorem Mission.Leads.turned {mission : Mission engine} {pool next : Pool engine}
    {current : Task engine} {deliveries : List Delivery} {deeds : List (Deed engine)}
    (leads : mission.Leads pool current deliveries)
    (found : pool.tasks[mission.task]? = some current) (unarmed : pool.armed = [])
    (orderly : Orderly pool.claim pool.lock)
    (alone : ∀ other, other ≠ mission.task → pool.claim other = .none)
    (turn : Turn pool mission.task deeds next) :
    ∃ later more, next.tasks[mission.task]? = some later ∧
      next.deliveries = pool.deliveries ++ more ∧ mission.Leads next later (deliveries ++ more) := by
  cases turn with
  | halts stuck => exact ⟨current, [], found, by simp, by simpa using leads⟩
  | takesUp found' =>
      rw [found'] at found
      cases found
      cases leads with
      | waiting setsOut =>
          refine ⟨_, [], tasks_place_self found' rfl _, by simp [place], ?_⟩
          exact .arriving (setsOut.place found' rfl)
  | evicts found' =>
      rw [found'] at found
      cases found
      cases leads
  | turnsBack found' arrived =>
      rw [found'] at found
      cases found
      cases leads with
      | arriving setsOut =>
          simp only [SetsOut, arrived] at setsOut
          rcases setsOut with ⟨log, goal⟩
          refine ⟨_, [], tasks_place_self found' rfl _, by simp [place], ?_⟩
          have attained : mission.Attained pool := by
            constructor
            · simp [← goal, logged, log]
            · rw [← goal]
          have outcome := congrArg Pass.Finished.outcome goal
          dsimp only at outcome
          rw [outcome]
          exact .returned ⟨attained.log, attained.registries⟩
  | arrives found' arrived =>
      rw [found'] at found
      cases found
      cases leads with
      | arriving setsOut =>
          simp only [SetsOut, arrived] at setsOut
          refine ⟨_, [], tasks_place_self found' rfl _, by simp [place], ?_⟩
          exact .rooted ((setsOut.noteApproach mission.task _).place found' rfl)
  | @enters context jobs found' =>
      rw [found'] at found
      cases found
      cases leads with
      | rooted enters =>
          refine ⟨_, [], tasks_place_self found' (request_tasks _ _ _) _, by simp [place], ?_⟩
          rw [enters.site]
          refine .admitted enters.own enters.opened ?_
          rw [registries_place, registries_request, place_files, request_files, enters.goal]
  | @registers context jobs number handle found' known =>
      rw [found'] at found
      cases found
      cases leads with
      | admitted own log goal =>
          refine ⟨_, [], tasks_place_self found' rfl _, by simp [place], ?_⟩
          have sameRegistries := registries_replace known
            (handle.issue context.document.uri).1 rfl
          refine .ticketed own log ?_ (isCurrent_issue handle context.document.uri) ?_
          · simp [place, handle?_change, known]
          · rw [registries_place, sameRegistries]
            exact goal
  | @locks context jobs number ticket handle found' known isFree =>
      rw [found'] at found
      cases found
      cases leads with
      | @ticketed _ _ handle' own log known' current goal =>
          rw [known] at known'
          cases known'
          refine ⟨_, [], tasks_place_self found' rfl _, by simp [place], ?_⟩
          have sameRegistries := registries_replace known
            { handle with owner := some mission.task } rfl
          have owned : (pool.store.change mission.site fun _ =>
              { handle with owner := some mission.task }).handle? mission.site =
              some { handle with owner := some mission.task } := by
            simp [handle?_change, known]
          refine .running (Carries.begins own log owned current ?_)
          rw [registries_place, sameRegistries]
          exact goal
  | @queues context jobs number ticket handle other found' known owned =>
      -- Nobody else has a claim to any lock, and this task has none yet.
      have claims : pool.claim other = .none := by
        by_cases same : other = mission.task
        · rw [same, claim_of_found found']
          rfl
        · exact alone other same
      have owns : (pool.lock number).owner = some other := by
        rw [lock_of_known known]
        exact owned
      rcases orderly.owner_claims other number owns with waits | uses
      · rw [claims] at waits
        cases waits
      · rw [claims] at uses
        cases uses
  | resumes found' known owned =>
      rw [found'] at found
      cases found
      cases leads
  | @passes pass jobs handle found' known phase current =>
      rw [found'] at found
      cases found
      cases leads with
      | running carries =>
          refine ⟨_, [], tasks_place_self found' rfl _, by simp [place], ?_⟩
          have goal := carries.goal
          rw [prospect_of_ne_finish (by simp [phase])] at goal
          refine .running ⟨carries.own, carries.site, carries.known, carries.current, by simp,
            carries.log, ?_⟩
          rw [prospect_of_ne_finish (by simp)]
          exact goal
  | yields found' known phase outdated =>
      rw [found'] at found
      cases found
      cases leads with
      | running carries =>
          rw [carries.known] at known
          cases known
          rw [carries.current] at outdated
          cases outdated
  | @waits pass jobs handle stage rest work armed events phase found' known remaining half reached =>
      rw [found'] at found
      cases found
      cases leads with
      | running carries =>
          rw [carries.known] at known
          cases known
          cases reached with
          | free =>
              refine ⟨_, [], tasks_place_self found' rfl _, by simp [place, rearm, worked], ?_⟩
              have worked := @handle?_worked _ pool mission.task _ work _ carries.known
              refine .running (carries.waits remaining half rfl worked ?_)
              simp [place, rearm, Pool.worked]
          | held armed =>
              rw [unarmed] at armed
              cases armed
  | @proceeds pass jobs handle stage rest work found' known remaining half more =>
      rw [found'] at found
      cases found
      cases leads with
      | running carries =>
          rw [carries.known] at known
          cases known
          refine ⟨_, [], tasks_place_self found' rfl _, by simp [place, worked], ?_⟩
          have worked := @handle?_worked _ pool mission.task _ work _ carries.known
          exact .running (carries.proceeds remaining half rfl worked rfl)
  | @ends pass jobs handle stage rest work verdict found' known remaining half last =>
      rw [found'] at found
      cases found
      cases leads with
      | running carries =>
          rw [carries.known] at known
          cases known
          have goal := carries.ends remaining half last
          refine ⟨_, [], tasks_place_self found' rfl _, by simp [place, worked, unlock], ?_⟩
          have outcome := congrArg Pass.Finished.outcome goal
          dsimp only at outcome
          rw [carries.own, carries.site, ← outcome]
          refine .leaving ⟨?_, ?_⟩
          · rw [goal, logged_append, ← carries.log]
            rfl
          · rw [registries_place, registries_unlock, goal, ← carries.site,
              registries_of_known (handle?_worked carries.known)]
            rfl
  | departs found' =>
      rw [found'] at found
      cases found
      cases leads with
      | leaving attained =>
          refine ⟨_, [], tasks_place_self found' rfl _, by simp [place], ?_⟩
          exact .returned ⟨attained.log, attained.registries⟩
  | delivers found' =>
      rw [found'] at found
      cases found
      cases leads with
      | returned attained =>
          refine ⟨_, [⟨mission.task, mission.document, mission.goal.outcome⟩],
            tasks_place_self found' rfl _, rfl, ?_⟩
          rw [ite_self]
          exact .delivered ⟨attained.log, attained.registries⟩

end TemplateCheck.Pool
