import TemplateCheck.Proofs.Pass.Approach
import TemplateCheck.Proofs.Pass.Footprint
import TemplateCheck.Proofs.Pool.Errands
import TemplateCheck.Proofs.Pool.Reports

/-! # Passes stay inside their packages

Whatever happens to a pool, a running pass marks, reads and hands to the engine only paths
inside the package of its document. They can all be listed, so no stage gives up without a
word: a stage that failed has an error in the report that is delivered. The manifests that are
read before, to find the package, are inside it as well if the layout keeps them there.
-/

namespace TemplateCheck.Pool

open Pass (Ready Sequenced)

variable {engine : Engine}

/-! ## Half a stage -/

/-- What half a stage leaves, in a package that it does not leave. -/
structure Kept (context : Pass.Context) (stage : Stage) (result : Pass.Work engine)
    (verdict : Option Verdict) : Prop where
  stays : result.Stays context.Contains
  ready : verdict = none → Ready result stage
  built : verdict = some .passed → stage = .template → result.template ≠ none
  named : verdict ≠ some .aborted
  shown : verdict = some .failed → result.report.Shows stage

theorem HalfStage.kept {files : FileSystem} {context : Pass.Context}
    {work result : Pass.Work engine} {stage : Stage} {phase : Phase} {verdict : Option Verdict}
    (half : HalfStage files context work stage phase result verdict) (housed : context.Housed)
    (wellNamed : files.isWellNamed = true) (fresh : work.actions = [])
    (ready : Ready work stage) : Kept context stage result verdict := by
  have stays : work.Stays context.Contains := by simp [Pass.Work.Stays, fresh]
  cases half with
  | decided equal =>
      have started := Pass.start_confined housed wellNamed stays ready
      rw [equal] at started
      rcases started with ⟨stays, ⟨rfl, shown⟩ | rfl⟩
      · exact ⟨stays, nofun, nofun, nofun, fun _ => shown⟩
      · exact ⟨stays, nofun, nofun, nofun, nofun⟩
  | waiting equal =>
      have started := Pass.start_confined housed wellNamed stays ready
      rw [equal] at started
      exact ⟨started.1, fun _ => started.2, nofun, nofun, nofun⟩
  | finished equal =>
      have finished := Pass.finish_confined housed wellNamed stays ready
      rw [equal] at finished
      rcases finished with ⟨stays, ⟨rfl, built⟩ | ⟨rfl, shown⟩ | rfl⟩
      · exact ⟨stays, nofun, fun _ => built, nofun, nofun⟩
      · exact ⟨stays, nofun, nofun, nofun, fun _ => shown⟩
      · exact ⟨stays, nofun, nofun, nofun, nofun⟩

/-! ## Tasks -/

/-- An outcome whose failed stages all have an error to show. -/
def Explained (outcome : Outcome) : Prop :=
  ∀ completed stage, outcome = .completed completed → ⟨stage, false⟩ ∈ completed.stages →
    completed.report.Shows stage

/-- A pass whose next stage has what it needs. -/
structure Running.Poised (pass : Running engine) : Prop where
  housed : pass.context.Housed
  sequenced : Sequenced pass.remaining
  ready : pass.remaining.head? = some .sample → pass.template ≠ none
  passed : ∀ result ∈ pass.stages, result.passed = true

/-- Wherever a task stands, its document is in the package that it works on. -/
def Activity.Contained : Activity engine → Prop
  | .idle => True
  | .arriving checker _ => checker.layout.check = .ok ()
  | .rooted context => context.Housed
  | .admitted context _ => context.Housed
  | .ticketed context _ _ => context.Housed
  | .queued context _ _ => context.Housed
  | .running pass => pass.Poised
  | .leaving _ _ outcome => Explained outcome
  | .returned _ outcome => Explained outcome

/-- Jobs whose layouts were accepted. -/
def Accepted (jobs : List Job) : Prop :=
  ∀ checker document, .validate checker document ∈ jobs → checker.layout.check = .ok ()

structure Task.Contained (task : Task engine) : Prop where
  jobs : Accepted task.jobs
  activity : task.activity.Contained

/-- What every step of a pool preserves. -/
structure Contained (pool : Pool engine) : Prop where
  files : pool.files.isWellNamed = true
  tasks : ∀ task ∈ pool.tasks, task.Contained
  deliveries : ∀ delivery ∈ pool.deliveries, Explained delivery.outcome

theorem Contained.place {pool next : Pool engine} (contained : pool.Contained) {task : Nat}
    {new : Task engine} (files : next.files = pool.files) (tasks : next.tasks = pool.tasks)
    (deliveries : next.deliveries = pool.deliveries) (newContained : new.Contained) :
    (next.place task new).Contained where
  files := files ▸ contained.files
  tasks := by
    intro other member
    rcases List.mem_or_eq_of_mem_set member with old | rfl
    · exact contained.tasks other (tasks ▸ old)
    · exact newContained
  deliveries := deliveries ▸ contained.deliveries

theorem contained_begin {context : Pass.Context} (housed : context.Housed) (number : Nat)
    (ticket : Roots.Ticket) :
    (Activity.running { context, handle := number, ticket, remaining := stagesFor context.kind } :
      Activity engine).Contained where
  housed := housed
  sequenced := Pass.sequenced_stagesFor context.kind
  ready := by
    intro isSample
    cases kind : context.kind <;> simp [stagesFor, kind] at isSample
  passed := by simp

/-- Only the last stage of a pass can have failed. -/
theorem Running.Poised.failed {pass : Running engine} (poised : pass.Poised) {stage other : Stage}
    {verdict : Verdict}
    (failed : (⟨other, false⟩ : StageResult) ∈ pass.stages ++ [⟨stage, verdict == .passed⟩]) :
    other = stage ∧ verdict ≠ .passed := by
  rcases List.mem_append.mp failed with earlier | last
  · cases poised.passed _ earlier
  · have parts := List.mem_singleton.mp last
    simp only [StageResult.mk.injEq] at parts
    refine ⟨parts.1, ?_⟩
    rintro rfl
    exact absurd parts.2 (by decide)

/-- The verdict on its last stage explains the outcome of a pass. -/
theorem explained_outcomeOf {pass : Running engine} (poised : pass.Poised) {stage : Stage}
    {work : Pass.Work engine} {verdict : Verdict}
    (kept : Kept pass.context stage work (some verdict)) :
    Explained (outcomeOf pass stage work.report verdict) := by
  intro completed other isCompleted failed
  cases verdict with
  | passed =>
      cases isCompleted
      exact absurd rfl (poised.failed failed).2
  | failed =>
      cases isCompleted
      rw [(poised.failed failed).1]
      exact kept.shown rfl
  | aborted => exact absurd rfl kept.named
  | broken => cases isCompleted

/-- A pass that does not find a package runs no stage. -/
theorem explained_of_arrive {files : FileSystem} {checker : Checker} {document : Document}
    {outcome : Outcome} (ended : Pass.arrive files checker document = .error outcome) :
    Explained outcome := by
  intro completed stage isCompleted failed
  unfold Pass.arrive at ended
  split at ended
  · cases ended
    cases isCompleted
  · split at ended
    · cases ended
      cases isCompleted
      cases failed
    · cases ended

theorem Running.Poised.kept {pass : Running engine} (poised : pass.Poised) {files : FileSystem}
    (wellNamed : files.isWellNamed = true) {handle : Roots.Handle engine} {stage : Stage}
    {rest : List Stage} (remaining : pass.remaining = stage :: rest) {work : Pass.Work engine}
    {verdict : Option Verdict}
    (half : HalfStage files pass.context (workOf handle pass) stage pass.phase work verdict) :
    Kept pass.context stage work verdict := by
  refine half.kept poised.housed wellNamed rfl ?_
  rintro rfl
  exact poised.ready (by rw [remaining]; rfl)

theorem Contained.turned {pool next : Pool engine} (contained : pool.Contained) {task : Nat}
    {deeds : List (Deed engine)} (turn : Turn pool task deeds next) : next.Contained := by
  have old : ∀ {current : Task engine}, pool.tasks[task]? = some current → current.Contained :=
    fun found => contained.tasks _ (List.mem_of_getElem? found)
  cases turn with
  | halts stuck => exact contained
  | takesUp found =>
      have jobs := (old found).jobs
      exact contained.place rfl rfl rfl
        ⟨fun checker document later => jobs checker document (List.mem_cons_of_mem _ later),
          jobs _ _ List.mem_cons_self⟩
  | evicts found =>
      have jobs := (old found).jobs
      exact contained.place rfl rfl rfl
        ⟨fun checker document later => jobs checker document (List.mem_cons_of_mem _ later),
          trivial⟩
  | turnsBack found arrived =>
      exact contained.place rfl rfl rfl ⟨(old found).jobs, explained_of_arrive arrived⟩
  | arrives found arrived =>
      exact contained.place rfl rfl rfl
        ⟨(old found).jobs, Pass.housed_of_arrive (old found).activity arrived⟩
  | enters found =>
      exact contained.place (request_files _ _ _) (request_tasks _ _ _) (request_deliveries _ _ _)
        ⟨(old found).jobs, (old found).activity⟩
  | registers found known =>
      exact contained.place rfl rfl rfl ⟨(old found).jobs, (old found).activity⟩
  | locks found known isFree =>
      exact contained.place rfl rfl rfl ⟨(old found).jobs, contained_begin (old found).activity _ _⟩
  | queues found known owned =>
      exact contained.place rfl rfl rfl ⟨(old found).jobs, (old found).activity⟩
  | resumes found known owned =>
      exact contained.place rfl rfl rfl ⟨(old found).jobs, contained_begin (old found).activity _ _⟩
  | passes found known phase current =>
      have poised : Running.Poised _ := (old found).activity
      exact contained.place rfl rfl rfl
        ⟨(old found).jobs, poised.housed, poised.sequenced, poised.ready, poised.passed⟩
  | yields found known phase outdated =>
      exact contained.place rfl rfl rfl ⟨(old found).jobs, nofun⟩
  | waits found known remaining half reached =>
      have poised : Running.Poised _ := (old found).activity
      have kept := poised.kept contained.files remaining half
      refine contained.place rfl rfl rfl
        ⟨(old found).jobs, poised.housed, poised.sequenced, ?_, poised.passed⟩
      intro isSample
      rw [remaining] at isSample
      exact kept.ready rfl (by simpa using isSample)
  | proceeds found known remaining half more =>
      have poised : Running.Poised _ := (old found).activity
      have kept := poised.kept contained.files remaining half
      have sequenced := poised.sequenced
      rw [remaining] at sequenced
      refine contained.place rfl rfl rfl
        ⟨(old found).jobs, poised.housed, sequenced.tail, ?_, ?_⟩
      · intro isSample
        rcases List.head?_eq_some_iff.mp isSample with ⟨others, equal⟩
        dsimp only at equal
        rw [equal] at sequenced
        exact kept.built rfl (sequenced.1 rfl)
      · simpa [or_imp, forall_and] using poised.passed
  | ends found known remaining half last =>
      have poised : Running.Poised _ := (old found).activity
      exact contained.place rfl rfl rfl
        ⟨(old found).jobs, explained_outcomeOf poised (poised.kept contained.files remaining half)⟩
  | departs found => exact contained.place rfl rfl rfl ⟨(old found).jobs, (old found).activity⟩
  | @delivers document outcome jobs found =>
      have delivered : Contained
          { pool with deliveries := pool.deliveries ++ [⟨task, document, outcome⟩] } := by
        refine ⟨contained.files, contained.tasks, ?_⟩
        intro delivery member
        rcases List.mem_append.mp member with earlier | last
        · exact contained.deliveries delivery earlier
        · exact List.mem_singleton.mp last ▸ (old found).activity
      refine delivered.place rfl rfl rfl ⟨?_, trivial⟩
      dsimp only
      split
      · nofun
      · exact (old found).jobs

theorem Activity.Contained.unblock {activity : Activity engine} (contained : activity.Contained) :
    activity.unblock.Contained := by
  cases activity with
  | running pass =>
      have poised : pass.Poised := contained
      simp only [Activity.unblock]
      split
      · exact ⟨poised.housed, poised.sequenced, poised.ready, poised.passed⟩
      · exact poised
  | _ => exact contained

theorem mem_actions_of_did {pass : Running engine} {stage : Stage} {work : Pass.Work engine}
    {number : Nat} {ticket : Roots.Ticket} {action : Action engine.Template}
    (did : .did number ticket action ∈ workDeeds pass stage work) : action ∈ work.actions := by
  rcases List.mem_append.mp did with opening | worked
  · split at opening
    · simp at opening
    · cases opening
  · rcases List.mem_map.mp worked with ⟨other, inside, equal⟩
    cases equal
    exact inside

/-- What a running pass does in a turn touches nothing outside of its package. -/
theorem Contained.touched {pool next : Pool engine} (contained : pool.Contained) {task : Nat}
    {deeds : List (Deed engine)} (turn : Turn pool task deeds next) {pass : Running engine}
    (running : pool.activity? task = some (.running pass)) {number : Nat} {ticket : Roots.Ticket}
    {action : Action engine.Template} (did : .did number ticket action ∈ deeds) {path : Path}
    (touched : action.touched? = some path) : pass.context.Contains path := by
  have worked : ∀ {jobs : List Job} {other : Running engine} {handle : Roots.Handle engine}
      {stage : Stage} {rest : List Stage} {work : Pass.Work engine} {verdict : Option Verdict},
      pool.tasks[task]? = some ⟨jobs, .running other⟩ → other.remaining = stage :: rest →
      HalfStage pool.files other.context (workOf handle other) stage other.phase work verdict →
      .did number ticket action ∈ workDeeds other stage work → pass.context.Contains path := by
    intro jobs other handle stage rest work verdict found remaining half inside
    have same : other = pass := by simpa [activity?, found] using running
    subst same
    have poised : other.Poised := (contained.tasks _ (List.mem_of_getElem? found)).activity
    exact (poised.kept contained.files remaining half).stays action (mem_actions_of_did inside) path
      touched
  cases turn with
  | waits found known remaining half reached => exact worked found remaining half did
  | proceeds found known remaining half more => exact worked found remaining half did
  | ends found known remaining half last =>
      rcases List.mem_append.mp did with inside | ended
      · exact worked found remaining half inside
      · simp at ended
  | registers found known => simp at did
  | passes found known phase current => simp at did
  | yields found known phase outdated => simp at did
  | _ => cases did

/-! ## Runs -/

/-- Tasks are started with layouts that were accepted, and files have names. -/
def Move.Regular : Move → Prop
  | .spawn jobs => Accepted jobs
  | .change files => files.isWellNamed = true
  | _ => True

theorem Contained.after {pool : Pool engine} (contained : pool.Contained) {move : Move}
    (regular : move.Regular) : (pool.after move).Contained := by
  cases move with
  | spawn jobs =>
      refine ⟨contained.files, ?_, contained.deliveries⟩
      intro task member
      rcases List.mem_append.mp member with old | new
      · exact contained.tasks task old
      · exact List.mem_singleton.mp new ▸ ⟨regular, trivial⟩
  | step task => exact contained.turned (turn_step pool task)
  | evict root => exact ⟨contained.files, contained.tasks, contained.deliveries⟩
  | evictUnder folder => exact ⟨contained.files, contained.tasks, contained.deliveries⟩
  | ticket root document =>
      refine ⟨?_, ?_, ?_⟩
      · exact request_files pool none root ▸ contained.files
      · exact request_tasks pool none root ▸ contained.tasks
      · exact request_deliveries pool none root ▸ contained.deliveries
  | arm point =>
      simp only [Pool.after, arm]
      split
      · exact contained
      · exact ⟨contained.files, contained.tasks, contained.deliveries⟩
  | release =>
      refine ⟨contained.files, ?_, contained.deliveries⟩
      intro task member
      rcases List.mem_map.mp member with ⟨before, inside, rfl⟩
      exact ⟨(contained.tasks before inside).jobs, (contained.tasks before inside).activity.unblock⟩
  | change files => exact ⟨regular, contained.tasks, contained.deliveries⟩

theorem contained_run {pool : Pool engine} (contained : pool.Contained) {moves : List Move}
    (regular : ∀ move ∈ moves, move.Regular) : (pool.run moves).Contained :=
  run_induction_of_mem (fun _ pool => pool.Contained) contained moves
    fun _ _ move member contained => contained.after (regular move member)

/-- A pool whose passes stay inside their packages, and whose failed stages are explained. -/
structure Confined (pool : Pool engine) : Prop where
  /-- What a task reads to find its package. -/
  approached : ∀ task checker document context,
    pool.activity? task = some (.arriving checker document) →
    Pass.arrive pool.files checker document = .ok context →
      (pool.step task).approach = pool.approach ++
          (Pass.manifestsRead pool.files checker document).map (fun manifest =>
            .did (some task) (.read manifest)) ∧
        (∀ manifest ∈ Pass.manifestsRead pool.files checker document,
          manifest.isAbsolute = true) ∧
        ((∀ manifest ∈ Pass.manifestsRead pool.files checker document,
            manifest.isUnder context.root = true) ↔
          checker.layout.KeepsManifest context.root)
  /-- What a pass marks, reads or hands to the engine. -/
  inside : ∀ task pass action path, pool.activity? task = some (.running pass) →
    .did pass.handle pass.ticket action ∈ pool.deedsOf (.step task) →
      action.touched? = some path →
        path.isAbsolute = true ∧ path.isUnder pass.context.root = true
  /-- Where it looks for files. -/
  searched : ∀ task pass folder, pool.activity? task = some (.running pass) →
    folder ∈ Package.searchFolders pass.context.path
        (pass.context.layout.modelsDirectory pass.context.root) ∨
      folder ∈ Package.searchFolders pass.context.path
        (pass.context.layout.logicDirectory pass.context.root) →
      folder.isAbsolute = true ∧ folder.isUnder pass.context.root = true
  /-- All that it finds can be listed. -/
  named : ∀ task pass stage path, pool.activity? task = some (.running pass) →
    path ∈ Pass.filesOf pool.files pass.context stage →
      ∃ uri, pass.context.subject.uriFor? path = some uri
  explained : ∀ delivery ∈ pool.deliveries, ∀ completed stage,
    delivery.outcome = .completed completed → ⟨stage, false⟩ ∈ completed.stages →
      completed.report.Shows stage

theorem Contained.poised {pool : Pool engine} (contained : pool.Contained) {task : Nat}
    {pass : Running engine} (running : pool.activity? task = some (.running pass)) : pass.Poised := by
  rcases Option.map_eq_some_iff.mp running with ⟨current, found, isRunning⟩
  have activity := (contained.tasks current (List.mem_of_getElem? found)).activity
  rw [isRunning] at activity
  exact activity

theorem step_arriving {pool : Pool engine} {task : Nat} {checker : Checker} {document : Document}
    (arriving : pool.activity? task = some (.arriving checker document)) :
    (pool.step task).approach =
      (pool.noteApproach task (Pass.manifestsRead pool.files checker document)).approach := by
  rcases Option.map_eq_some_iff.mp arriving with ⟨⟨jobs, activity⟩, found, rfl⟩
  simp only [step, found]
  split
  · rfl
  · rfl

theorem Contained.confined {pool : Pool engine} (contained : pool.Contained) : pool.Confined where
  approached := by
    intro task checker document context arriving arrived
    rcases Pass.sited_of_arrive arrived with ⟨sited, rfl, rfl⟩
    refine ⟨step_arriving arriving, fun manifest => sited.isAbsolute_of_mem_manifestsRead, ?_⟩
    rw [sited.manifestsRead_eq]
    exact Package.isUnder_manifestsRead_iff sited.found
  inside := by
    intro task pass action path running did touched
    exact contained.touched (turn_step pool task) running did touched
  searched := by
    intro task pass folder running searched
    have housed := (contained.poised running).housed
    have relative := Package.Layout.relative_of_check housed.accepted
    have inside : folder.isUnder pass.context.root = true := by
      rcases searched with inModels | inLogic
      · exact housed.isUnder_of_mem_searchFolders relative.1 inModels
      · exact housed.isUnder_of_mem_searchFolders relative.2.1 inLogic
    exact ⟨Path.isAbsolute_of_isUnder housed.isAbsolute_root inside, inside⟩
  named := by
    intro task pass stage path running found
    exact (contained.poised running).housed.named contained.files found
  explained := by
    intro delivery member completed stage isCompleted failed
    exact contained.deliveries delivery member completed stage isCompleted failed

/-- However the tasks of a pool take turns, and whatever files change on the way, passes stay
inside their packages and their failures are explained. Only a manifest with an absolute path
may be read elsewhere. -/
theorem confined_run (engine : Engine) (files : FileSystem) (capacity : Nat) (moves : List Move)
    (wellNamed : files.isWellNamed = true) (regular : ∀ move ∈ moves, move.Regular) :
    ((Pool.empty engine files capacity).run moves).Confined := by
  have contained : (Pool.empty engine files capacity).Contained :=
    ⟨wellNamed, by simp [empty], by simp [empty]⟩
  exact (contained_run contained regular).confined

namespace LateEdit

theorem regular_moves : ∀ move ∈ moves, move.Regular := by
  have accepted : checker.layout.check = .ok () := by decide +kernel
  intro move member
  rcases List.mem_append.mp member with spawned | stepped
  · have one : ∀ document, Accepted [.validate checker document] := by
      intro document other changed inside
      cases List.mem_singleton.mp inside
      exact accepted
    simp only [List.mem_cons, List.not_mem_nil, or_false] at spawned
    rcases spawned with rfl | rfl | rfl
    · exact one _
    · exact one _
    · exact one _
  · rcases List.mem_map.mp stepped with ⟨task, _, rfl⟩
    trivial

theorem arrive_first :
    Pass.arrive package checker ⟨uri "/p/lib/a.ergo", "old"⟩ =
      .ok ⟨checker, ⟨uri "/p/lib/a.ergo", "old"⟩, ⟨"/p/lib/a.ergo"⟩, ⟨"/p"⟩⟩ := by
  have isFile : (uri "/p/lib/a.ergo").toPath? = some ⟨"/p/lib/a.ergo"⟩ := by decide +kernel
  have found : Package.findRoot? package checker.layout ⟨"/p/lib/a.ergo"⟩ = some ⟨"/p"⟩ := by
    decide +kernel
  simp only [Pass.arrive, isFile, found]

/-- The first task comes to its package through a folder without a manifest. The logic stage of the
second pass comes to both units, and ends with an error on one. -/
theorem confined_lateEdit :
    let before := (Pool.empty Scripted.engine package 1).run (moves.take 24)
    let done := (Pool.empty Scripted.engine package 1).run moves
    let manifests := Pass.manifestsRead package checker ⟨uri "/p/lib/a.ergo", "old"⟩
    before.Confined ∧ done.Confined ∧
      manifests = [⟨"/p/lib/package.json"⟩, ⟨"/p/package.json"⟩] ∧
      (∀ manifest ∈ manifests, manifest.isUnder ⟨"/p"⟩ = true) ∧
      (before.deedsOf (.step 1)).filterMap (fun
        | .did _ _ action => action.touched?
        | _ => none) =
        [⟨"/p/lib/a.ergo"⟩, ⟨"/p/lib/a.ergo"⟩, ⟨"/p/lib/b.ergo"⟩, ⟨"/p/lib/b.ergo"⟩,
          ⟨"/p/lib/b.ergo"⟩] ∧
      (done.deliveries.map Delivery.outcome).filterMap (fun
        | .completed completed => some completed.stages
        | _ => none) = [[⟨.model, true⟩, ⟨.logic, false⟩], []] :=
  ⟨confined_run Scripted.engine package 1 (moves.take 24) (by decide +kernel)
      fun move member => regular_moves move (List.mem_of_mem_take member),
    confined_run Scripted.engine package 1 moves (by decide +kernel) regular_moves,
    by decide +kernel,
    ((confined_run Scripted.engine package 1 (moves.take 4) (by decide +kernel)
        fun move member => regular_moves move (List.mem_of_mem_take member)).approached 0 checker
      _ _ rfl arrive_first).2.2.mpr (by decide +kernel),
    by decide +kernel, by decide +kernel⟩

end LateEdit

/-! A layout whose manifest is one file for all directories, and a package far from it. -/

namespace FarManifest

def checker : Checker :=
  (Checker.ofLayout { manifestFile := "/etc/m.json" }).toOption.getD default

def package : FileSystem where
  entries := [
    ("etc", .directory [
      ("m.json", .file (Text.Utf8.encodeChars "\x7b\"accordproject\":true\x7d".toList))]),
    ("p", .directory [("lib", .directory [("a.ergo", .file [])])])]
  workingDirectory := []

def document : Document := ⟨LateEdit.uri "/p/lib/a.ergo", ""⟩

def moves : List Move := .spawn [.validate checker document] :: List.replicate 16 (.step 0)

/-- The layout is accepted, and the pass completes with a root that the manifest is not in. -/
theorem manifest_outside :
    let done := (Pool.empty Scripted.engine package 1).run moves
    checker.layout.check = .ok () ∧ package.isWellNamed = true ∧
      document.uri.toPath? = some ⟨"/p/lib/a.ergo"⟩ ∧
      (done.deliveries.map Delivery.outcome).filterMap (fun
        | .completed completed => some completed.root
        | _ => none) = [some ⟨"/p/lib"⟩] ∧
      done.approach.filterMap (fun
        | .did _ action => action.touched?
        | .blocked _ _ => none) = [⟨"/etc/m.json"⟩] ∧
      (Path.mk "/etc/m.json").isUnder ⟨"/p/lib"⟩ = false :=
  ⟨by decide +kernel, by decide +kernel, by decide +kernel, by decide +kernel⟩

end FarManifest

end TemplateCheck.Pool
