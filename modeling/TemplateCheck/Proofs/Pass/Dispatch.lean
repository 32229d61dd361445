import Mathlib.Data.List.Basic
import TemplateCheck.Proofs.Pass.Course

/-! # Dispatch

The kind of a document says which stages its pass runs, and the first stage that
does not pass is the last one. Every call of the engine belongs to a stage, so the
record of a pass tells its stages; and the question of a stage, which the engine
may take its time to answer, comes after all files of the stage were loaded.
-/

namespace TemplateCheck

/-- The stage to which a call of the engine belongs. Registries are made outside
of all stages. -/
def Call.stage? {template : Type} : Call template → Option Stage
  | .newModels => none
  | .newLogic => none
  | .clear => some .model
  | .namespaceOf _ _ => some .model
  | .hasNamespace _ => some .model
  | .add _ _ => some .model
  | .update _ _ => some .model
  | .resolve => some .model
  | .unitPaths => some .logic
  | .updateUnit _ _ => some .logic
  | .removeUnit _ => some .logic
  | .compile _ => some .logic
  | .load _ => some .template
  | .buildGrammar _ => some .template
  | .validate _ => some .template
  | .newClause => some .sample
  | .parse _ => some .sample
  | .data => some .sample

/-- The calls that ask for an answer on all files of a stage. -/
def Call.isQuestion {template : Type} : Call template → Bool
  | .resolve => true
  | .compile _ => true
  | .load _ => true
  | _ => false

namespace Pass

variable {engine : Engine}

/-! ## Work within a stage -/

/-- Actions of a stage that are not its question. -/
def Plain (stage : Stage) (actions : List (Action engine.Template)) : Prop :=
  ∀ call, .call call ∈ actions → call.stage? = some stage ∧ call.isQuestion = false

/-- Work that adds actions of a stage to the record, and not its question. -/
def Extends (stage : Stage) (work next : Work engine) : Prop :=
  ∃ more, next.actions = work.actions ++ more ∧ Plain stage more

namespace Extends

variable {stage : Stage} {work middle next : Work engine}

theorem of_eq (same : next.actions = work.actions) : Extends stage work next :=
  ⟨[], by rw [same, List.append_nil], by simp [Plain]⟩

theorem trans (first : Extends stage work middle) (second : Extends stage middle next) :
    Extends stage work next := by
  rcases first with ⟨early, didEarly, plainEarly⟩
  rcases second with ⟨late, didLate, plainLate⟩
  refine ⟨early ++ late, by rw [didLate, didEarly, List.append_assoc], ?_⟩
  intro call member
  rcases List.mem_append.mp member with inEarly | inLate
  · exact plainEarly call inEarly
  · exact plainLate call inLate

theorem of_act (action : Action engine.Template) (did : next.actions = work.actions ++ [action])
    (notCall : ∀ call, action ≠ .call call) : Extends stage work next := by
  refine ⟨[action], did, ?_⟩
  intro call member
  exact absurd (List.mem_singleton.mp member).symm (notCall call)

theorem of_call (call : Call engine.Template) (did : next.actions = work.actions ++ [.call call])
    (own : call.stage? = some stage) (isPlain : call.isQuestion = false) :
    Extends stage work next := by
  refine ⟨[.call call], did, ?_⟩
  intro other member
  cases List.mem_singleton.mp member
  exact ⟨own, isPlain⟩

end Extends

section

variable (files : FileSystem) (context : Context)

theorem readFile_extends (stage : Stage) (work : Work engine) (path : Path) :
    Extends stage work (readFile files work path).1 := by
  have did : (readFile files work path).1.actions = work.actions ++ [.read path] := by
    unfold readFile
    dsimp only
    split
    · rfl
    · rfl
  exact .of_act _ did (by simp)

theorem readSource_extends (stage : Stage) (work : Work engine) (path : Path) :
    Extends stage work (readSource files context work path).1 := by
  unfold readSource
  split
  · exact .of_eq rfl
  · exact readFile_extends files stage work path

theorem storeModel_extends (work : Work engine) (path : Path) (content : String) :
    Extends .model work (storeModel work path content).1 := by
  have asked : Extends .model work (work.call (.namespaceOf content path)) := .of_call _ rfl rfl rfl
  unfold storeModel
  dsimp only
  split
  · exact asked
  · next name _ =>
      have looked : Extends .model work
          ((work.call (.namespaceOf content path)).call (.hasNamespace name)) :=
        asked.trans (.of_call _ rfl rfl rfl)
      split
      · exact looked.trans (.of_call (.update content path) rfl rfl rfl)
      · exact looked.trans (.of_call (.add content path) rfl rfl rfl)

theorem removeUnits_extends (paths : List Path) (work : Work engine) :
    Extends .logic work (removeUnits paths work) := by
  induction paths generalizing work with
  | nil => exact .of_eq rfl
  | cons path rest induction =>
      have one : Extends .logic work
          { work.call (.removeUnit path) with logic := engine.removeUnit work.logic path } :=
        .of_call _ rfl rfl rfl
      exact one.trans (induction _)

theorem load_extends (stage : Stage) (work : Work engine) (path : Path) :
    Extends stage work ((procedure files context stage).load work path).1 := by
  cases stage with
  | model =>
      have read := readSource_extends files context .model work path
      simp only [procedure, loadModel]
      split
      · next equal =>
          rw [equal] at read
          exact read
      · next equal =>
          rw [equal] at read
          exact read.trans (storeModel_extends _ path _)
  | logic =>
      have read := readSource_extends files context .logic work path
      simp only [procedure, loadUnit]
      split
      · next equal =>
          rw [equal] at read
          exact read
      · next content equal =>
          rw [equal] at read
          exact read.trans (.of_call (.updateUnit content path) rfl rfl rfl)
  | template => exact .of_eq rfl
  | sample => exact .of_eq rfl

theorem prepare_extends (stage : Stage) (work : Work engine) :
    Extends stage work ((procedure files context stage).prepare work) := by
  cases stage with
  | model => exact .of_call .clear rfl rfl rfl
  | logic =>
      have asked : Extends .logic work (work.call .unitPaths) := .of_call _ rfl rfl rfl
      exact asked.trans (removeUnits_extends _ _)
  | template => exact .of_eq rfl
  | sample => exact .of_eq rfl

theorem buildTemplate_extends (work : Work engine) :
    Extends .template work (buildTemplate files context work).1 := by
  unfold buildTemplate
  split
  · exact .of_eq rfl
  · next template _ =>
      have applied : Extends .template work (applyGrammar context work template).1 := by
        unfold applyGrammar
        split
        · dsimp only
          split
          · exact .of_call (.buildGrammar context.document.text) rfl rfl rfl
          · exact .of_call (.buildGrammar context.document.text) rfl rfl rfl
        · exact .of_eq rfl
      split
      · next equal =>
          rw [equal] at applied
          exact applied
      · next middle built equal =>
          rw [equal] at applied
          have validated : Extends .template work (middle.call (.validate built)) :=
            applied.trans (.of_call _ rfl rfl rfl)
          dsimp only
          split
          · exact validated
          · exact validated

theorem parseSample_extends (work : Work engine) (template : engine.Template) (path : Path) :
    Extends .sample work (parseSample files work template path).1 := by
  have read := readFile_extends files .sample work path
  unfold parseSample
  split
  · next equal =>
      rw [equal] at read
      exact read
  · next middle sample equal =>
      rw [equal] at read
      have made : Extends .sample work (middle.call .newClause) :=
        read.trans (.of_call _ rfl rfl rfl)
      have parsed : Extends .sample work ((middle.call .newClause).call (.parse sample)) :=
        made.trans (.of_call _ rfl rfl rfl)
      dsimp only
      split
      · exact parsed
      · exact parsed.trans (.of_call .data rfl rfl rfl)

theorem ask_extends (stage : Stage) (work : Work engine) :
    Extends stage work ((procedure files context stage).ask work).1 := by
  cases stage with
  | model => exact .of_eq rfl
  | logic => exact .of_eq rfl
  | template =>
      have built := buildTemplate_extends files context work
      simp only [procedure, askTemplate]
      split
      · next equal =>
          rw [equal] at built
          exact built
      · next equal =>
          rw [equal] at built
          exact built.trans (.of_eq rfl)
  | sample =>
      simp only [procedure, askSample]
      split
      · exact .of_eq rfl
      · next template _ =>
          have parsed := parseSample_extends files work template
            (context.layout.sampleFile context.root)
          split
          · next equal =>
              rw [equal] at parsed
              exact parsed
          · next equal =>
              rw [equal] at parsed
              exact parsed

end

variable {files : FileSystem} {context : Context}

theorem mark?_extends {stage : Stage} {work marked : Work engine} {path : Path}
    (listed : work.mark? context path = some marked) : Extends stage work marked := by
  rcases Option.map_eq_some_iff.mp listed with ⟨uri, _, equal⟩
  rw [← equal]
  exact .of_act (.mark path) rfl (by simp)

theorem Loads.extends {stage : Stage} {work loaded : Work engine} {paths : List Path}
    (loads : Loads (procedure files context stage).load context work paths loaded) :
    Extends stage work loaded := by
  induction loads with
  | done work => exact .of_eq rfl
  | @next work marked loaded last path rest listed answered later induction =>
      have load := load_extends files context stage marked path
      rw [answered] at load
      exact ((mark?_extends listed).trans load).trans induction

/-! ## The record of a stage -/

/-- Before a question in the record all files of its stage were loaded, by a stage
that started on the given work. -/
def AsksAfterLoading (files : FileSystem) (context : Context) (stage : Stage)
    (work : Work engine) (before : List (Action engine.Template)) : Prop :=
  ∃ loaded, Loads (procedure files context stage).load context
      ((procedure files context stage).prepare work) (filesOf files context stage) loaded ∧
    loaded.actions = before

/-- What a stage adds to the record. -/
structure Recorded (files : FileSystem) (context : Context) (stage : Stage)
    (work result : Work engine) (more : List (Action engine.Template)) : Prop where
  did : result.actions = work.actions ++ more
  within : ∀ call, .call call ∈ more → call.stage? = some stage
  asked : ∀ call before after, call.isQuestion = true → more = before ++ .call call :: after →
    AsksAfterLoading files context stage work (work.actions ++ before)

theorem recorded_of_extends {stage : Stage} {work result : Work engine}
    (extended : Extends stage work result) : ∃ more, Recorded files context stage work result more := by
  rcases extended with ⟨more, did, plain⟩
  refine ⟨more, did, fun call member => (plain call member).1, ?_⟩
  intro call before after isQuestion split
  have member : .call call ∈ more := by simp [split]
  rw [(plain call member).2] at isQuestion
  cases isQuestion

theorem stage?_question {stage : Stage} {call : Call engine.Template}
    (asks : (procedure files context stage).question = some call) : call.stage? = some stage := by
  cases stage with
  | model => cases asks; rfl
  | logic => cases asks; rfl
  | template => cases asks; rfl
  | sample => cases asks

theorem Course.recorded {stage : Stage} {work result : Work engine} {tried : List Path}
    {answer : Answer} (course : Course files context stage work tried answer result) :
    ∃ more, Recorded files context stage work result more := by
  have prepared := prepare_extends files context stage work
  cases course with
  | @stopped before after path started marked loaded setback enumerated loads listed fails =>
      have load := load_extends files context stage marked path
      rw [fails] at load
      exact recorded_of_extends
        (((prepared.trans loads.extends).trans (mark?_extends listed)).trans load)
  | @answered loaded result answer loads answers =>
      have extended := prepared.trans loads.extends
      have last := ask_extends files context stage
        (loaded.pose (procedure files context stage).question)
      rw [answers] at last
      cases asks : (procedure files context stage).question with
      | none =>
          rw [asks] at last
          exact recorded_of_extends (extended.trans last)
      | some question =>
          rw [asks] at last
          rcases extended with ⟨early, didEarly, plainEarly⟩
          rcases last with ⟨late, didLate, plainLate⟩
          refine ⟨early ++ .call question :: late, ?_, ?_, ?_⟩
          · rw [didLate]
            simp [Work.pose, Work.call, Work.act, didEarly]
          · intro call member
            rcases List.mem_append.mp member with inEarly | inLate
            · exact (plainEarly call inEarly).1
            · rcases List.mem_cons.mp inLate with isQuestion | afterwards
              · cases isQuestion
                exact stage?_question asks
              · exact (plainLate call afterwards).1
          · intro call before after isQuestion split
            -- The question stands in the record only once.
            have notEarly : .call call ∉ early := by
              intro member
              rw [(plainEarly call member).2] at isQuestion
              cases isQuestion
            have notLate : .call call ∉ late := by
              intro member
              rw [(plainLate call member).2] at isQuestion
              cases isQuestion
            rcases (List.append_cons_inj_of_notMem notEarly notLate).mp split with ⟨same, _, _⟩
            exact ⟨loaded, loads, by rw [didEarly, same]⟩

/-- A choice among actions that takes nothing but calls of one stage. -/
def Picks {template item : Type} (stage : Stage) (pick : Action template → Option item) : Prop :=
  ∀ action picked, pick action = some picked →
    ∃ call, action = .call call ∧ call.stage? = some stage

/-- Other stages do nothing that is chosen. -/
theorem Course.picked {item : Type} {own stage : Stage}
    {pick : Action engine.Template → Option item} (picks : Picks own pick)
    {work result : Work engine} {tried : List Path} {answer : Answer}
    (course : Course files context stage work tried answer result) (other : stage ≠ own) :
    result.actions.filterMap pick = work.actions.filterMap pick := by
  rcases course.recorded with ⟨more, recorded⟩
  have nothing : more.filterMap pick = [] := by
    rw [List.filterMap_eq_nil_iff]
    intro action member
    rw [Option.eq_none_iff_forall_ne_some]
    intro picked isPicked
    rcases picks action picked isPicked with ⟨call, rfl, isOwn⟩
    rw [recorded.within call member] at isOwn
    exact other (Option.some.inj isOwn)
  rw [recorded.did, List.filterMap_append, nothing, List.append_nil]

theorem Journey.picked {item : Type} {own : Stage}
    {pick : Action engine.Template → Option item} (picks : Picks own pick)
    {stages : List Stage} {work last : Work engine} {looked : List (Stage × List Path)}
    {ended : Option (Stage × Setback)}
    (journey : Journey files context stages work looked ended last) (none : own ∉ stages) :
    last.actions.filterMap pick = work.actions.filterMap pick := by
  induction journey with
  | done work => rfl
  | passed course ran later induction =>
      rw [induction fun member => none (List.mem_cons_of_mem _ member),
        course.picked picks fun equal => none (equal ▸ List.mem_cons_self)]
  | ended course => exact course.picked picks fun equal => none (equal ▸ List.mem_cons_self)

/-! ## The record of a pass -/

/-- What stages that are part of a pass add to its record: calls of these stages
only, and a question of a stage after all files of the stage were loaded. -/
structure Traced (files : FileSystem) (context : Context) (begun : Work engine)
    (stages ran : List Stage) (done more : List (Action engine.Template)) : Prop where
  within : ∀ call, .call call ∈ more → ∃ stage ∈ ran, call.stage? = some stage
  asked : ∀ stage call before after, call.stage? = some stage → call.isQuestion = true →
    more = before ++ .call call :: after →
    ∃ past rest work, stages = past ++ stage :: rest ∧ Passed files context begun past work ∧
      AsksAfterLoading files context stage work (done ++ before)

theorem Recorded.traced {stage : Stage} {begun work result : Work engine} {past rest : List Stage}
    {more : List (Action engine.Template)}
    (recorded : Recorded files context stage work result more)
    (passed : Passed files context begun past work) :
    Traced files context begun (past ++ stage :: rest) [stage] work.actions more where
  within := fun call member => ⟨stage, List.mem_singleton_self stage, recorded.within call member⟩
  asked := by
    intro own call before after isOwn isQuestion split
    have same := recorded.within call (by simp [split])
    rw [isOwn] at same
    cases same
    exact ⟨past, rest, work, rfl, passed, recorded.asked call before after isQuestion split⟩

/-- The same stages as part of a longer pass. -/
theorem Traced.before {begun : Work engine} {stages ran : List Stage}
    {done more : List (Action engine.Template)}
    (traced : Traced files context begun stages ran done more) (others : List Stage) :
    Traced files context begun (stages ++ others) ran done more where
  within := traced.within
  asked := by
    intro stage call before after own isQuestion split
    rcases traced.asked stage call before after own isQuestion split with
      ⟨past, rest, work, isStages, passed, asks⟩
    exact ⟨past, rest ++ others, work, by simp [isStages], passed, asks⟩

theorem Traced.append {begun : Work engine} {stages ran others : List Stage}
    {done more later : List (Action engine.Template)}
    (first : Traced files context begun stages ran done more)
    (second : Traced files context begun stages others (done ++ more) later) :
    Traced files context begun stages (ran ++ others) done (more ++ later) where
  within := by
    intro call member
    rcases List.mem_append.mp member with early | late
    · rcases first.within call early with ⟨stage, isRan, own⟩
      exact ⟨stage, List.mem_append_left _ isRan, own⟩
    · rcases second.within call late with ⟨stage, isRan, own⟩
      exact ⟨stage, List.mem_append_right _ isRan, own⟩
  asked := by
    intro stage call before after own isQuestion split
    rcases List.append_eq_append_iff.mp split with ⟨middle, isBefore, isLater⟩ | ⟨middle, isMore, isAfter⟩
    · rcases second.asked stage call middle after own isQuestion isLater with
        ⟨past, rest, work, isStages, passed, asks⟩
      refine ⟨past, rest, work, isStages, passed, ?_⟩
      rw [isBefore, ← List.append_assoc]
      exact asks
    · cases middle with
      | nil =>
          have isLater : later = [] ++ .call call :: after := by simpa using isAfter.symm
          rcases second.asked stage call [] after own isQuestion isLater with
            ⟨past, rest, work, isStages, passed, asks⟩
          refine ⟨past, rest, work, isStages, passed, ?_⟩
          simpa [isMore] using asks
      | cons head tail =>
          rcases List.cons.inj isAfter with ⟨rfl, _⟩
          exact first.asked stage _ before tail own isQuestion isMore

theorem Journey.traced {stages past : List Stage} {begun work last : Work engine}
    {looked : List (Stage × List Path)} {ended : Option (Stage × Setback)}
    (journey : Journey files context stages work looked ended last)
    (passed : Passed files context begun past work) :
    ∃ more, last.actions = work.actions ++ more ∧
      Traced files context begun (past ++ stages) (looked.map Prod.fst) work.actions more := by
  induction journey generalizing past with
  | done work =>
      exact ⟨[], by simp, by simp, by simp⟩
  | @passed stage rest work next last tried looked ended course ran later induction =>
      rcases course.recorded with ⟨more, recorded⟩
      rcases induction (passed.snoc ran) with ⟨others, didOthers, tracedOthers⟩
      refine ⟨more ++ others, by rw [didOthers, recorded.did, List.append_assoc], ?_⟩
      rw [recorded.did, List.append_assoc] at tracedOthers
      exact (recorded.traced passed).append tracedOthers
  | @ended stage rest work last tried setback course =>
      rcases course.recorded with ⟨more, recorded⟩
      exact ⟨more, recorded.did, recorded.traced passed⟩

/-! ## The stages of a pass -/

theorem Journey.looked_of_stages {stages : List Stage} {work last : Work engine}
    {looked : List (Stage × List Path)} {ended : Option (Stage × Setback)}
    (journey : Journey files context stages work looked ended last) (more : stages ≠ []) :
    looked ≠ [] := by
  cases journey with
  | done => exact absurd rfl more
  | passed course ran later => simp
  | ended course => simp

theorem Journey.order {stages : List Stage} {work last : Work engine}
    {looked : List (Stage × List Path)} {ended : Option (Stage × Setback)}
    (journey : Journey files context stages work looked ended last) :
    looked.map Prod.fst <+: stages ∧ (ended = none → looked.map Prod.fst = stages) := by
  induction journey with
  | done work => exact ⟨List.prefix_rfl, fun _ => rfl⟩
  | passed course ran later induction =>
      refine ⟨List.cons_prefix_cons.mpr ⟨rfl, induction.1⟩, ?_⟩
      intro whole
      rw [List.map_cons, induction.2 whole]
  | @ended stage rest work last tried setback course =>
      exact ⟨List.cons_prefix_cons.mpr ⟨rfl, List.nil_prefix⟩, fun whole => by cases whole⟩

/-- A stage that a pass came to took its course after the stages before it had passed. If it was
set back, that ended the pass, and no other stage makes its calls. -/
theorem Journey.course {own : Stage} {stages : List Stage} {work last : Work engine}
    {looked : List (Stage × List Path)} {ended : Option (Stage × Setback)}
    (journey : Journey files context stages work looked ended last) (once : stages.Nodup)
    (reached : own ∈ looked.map Prod.fst) :
    ∃ past rest begun tried answer result, stages = past ++ own :: rest ∧
      Passed files context work past begun ∧ Course files context own begun tried answer result ∧
      (∀ setback, answer = .error setback ↔ ended = some (own, setback)) ∧
      ∀ {item : Type} (pick : Action engine.Template → Option item), Picks own pick →
        begun.actions.filterMap pick = work.actions.filterMap pick ∧
          last.actions.filterMap pick = result.actions.filterMap pick := by
  induction journey with
  | done work => cases reached
  | @passed stage rest work next last tried looked ended course ran later induction =>
      rcases List.nodup_cons.mp once with ⟨onlyHere, onceLater⟩
      by_cases isOwn : stage = own
      · subst isOwn
        refine ⟨[], rest, work, tried, _, next, rfl, rfl, course, ?_, ?_⟩
        · intro setback
          refine ⟨nofun, fun isEnded => ?_⟩
          subst isEnded
          rcases later.looked_of_setback with ⟨before, last, split⟩
          have inRest := later.order.1.subset (List.mem_map_of_mem
            (split ▸ List.mem_append_right before List.mem_cons_self))
          exact absurd inRest onlyHere
        · intro item pick picks
          exact ⟨rfl, later.picked picks onlyHere⟩
      · have reachedLater : own ∈ looked.map Prod.fst := by
          simpa [Ne.symm isOwn] using reached
        rcases induction onceLater reachedLater with
          ⟨past, others, begun, tried, answer, result, split, passed, ownCourse, set, apart⟩
        refine ⟨stage :: past, others, begun, tried, answer, result, by rw [split]; rfl,
          passed_cons.mpr ⟨next, ran, passed⟩, ownCourse, set, ?_⟩
        intro item pick picks
        rcases apart pick picks with ⟨before, after⟩
        exact ⟨before.trans (course.picked picks isOwn), after⟩
  | @ended stage rest work last tried setback course =>
      have isOwn : own = stage := by simpa using reached
      subst isOwn
      refine ⟨[], rest, work, tried, _, last, rfl, rfl, course, by simp, ?_⟩
      intro item pick picks
      exact ⟨rfl, rfl⟩

/-- Where there is a sample stage, a template stage is before the last stage. -/
theorem Sequenced.template_mem {stages : List Stage} (sequenced : Sequenced stages)
    (starts : stages.head? ≠ some .sample) (member : .sample ∈ stages) :
    .template ∈ stages.dropLast := by
  induction stages with
  | nil => cases member
  | cons stage rest induction =>
      cases rest with
      | nil =>
          rw [List.mem_singleton.mp member] at starts
          exact absurd rfl starts
      | cons next others =>
          rw [List.dropLast_cons_cons]
          by_cases isSample : next = .sample
          · rw [sequenced.1 isSample]
            exact List.mem_cons_self
          · have later : .sample ∈ next :: others := by
              rcases List.mem_cons.mp member with isFirst | later
              · rw [← isFirst] at starts
                exact absurd rfl starts
              · exact later
            have notNext : (next :: others).head? ≠ some .sample := by simpa using isSample
            exact List.mem_cons_of_mem _ (induction sequenced.2 notNext later)

theorem template_of_sample {stages : List Stage} {kind : Package.SourceKind}
    (order : stages <+: stagesFor kind) (member : .sample ∈ stages) :
    .template ∈ stages.dropLast := by
  apply ((sequenced_stagesFor kind).beginning order).template_mem _ member
  intro isFirst
  rcases List.head?_eq_some_iff.mp isFirst with ⟨rest, equal⟩
  rcases order with ⟨others, split⟩
  rw [equal] at split
  cases kind with
  | model => simp [stagesFor] at split
  | logic => simp [stagesFor] at split
  | grammar => simp [stagesFor] at split
  | other => simp [stagesFor] at split

/-- The stages of a pass that ran to its end, and what they did. -/
structure Dispatched (files : FileSystem) (context : Context) (registries : Registries engine)
    (results : List StageResult) (actions : List (Action engine.Template)) : Prop where
  nonempty : results ≠ []
  order : results.map StageResult.stage <+: stagesFor context.kind
  earlier : ∀ result ∈ results.dropLast, result.passed = true
  whole : results.getLast?.map StageResult.passed = some true →
    results.map StageResult.stage = stagesFor context.kind
  traced : Traced files context registries.fresh (stagesFor context.kind)
    (results.map StageResult.stage) [] actions
  parsed : ∀ call, .call call ∈ actions → call.stage? = some .sample → ⟨.template, true⟩ ∈ results

/-- A sample is parsed only if the template stage has passed. -/
theorem passed_of_parsed {results : List StageResult} {kind : Package.SourceKind}
    (order : results.map StageResult.stage <+: stagesFor kind)
    (earlier : ∀ result ∈ results.dropLast, result.passed = true)
    (member : .sample ∈ results.map StageResult.stage) : ⟨.template, true⟩ ∈ results := by
  have before := template_of_sample order member
  rw [← List.map_dropLast] at before
  rcases List.mem_map.mp before with ⟨result, inFront, isTemplate⟩
  have passed := earlier result inFront
  rcases result with ⟨stage, isPassed⟩
  cases isTemplate
  cases passed
  exact List.dropLast_subset results inFront

/-- The results of the stages of a pass, from its course. -/
theorem Journey.results {stages : List Stage} {work last result : Work engine}
    {looked : List (Stage × List Path)} {ended : Option (Stage × Setback)}
    {results : List StageResult} (journey : Journey files context stages work looked ended last)
    (settled : settle context looked last ended = (result, some results)) :
    result.actions = last.actions ∧ results.map StageResult.stage = looked.map Prod.fst ∧
      (∀ result ∈ results.dropLast, result.passed = true) ∧
      (results.getLast?.map StageResult.passed = some true → ended = none) := by
  rcases ended with _ | ⟨stage, failure | _⟩
  · cases settled
    refine ⟨rfl, by simp, ?_, fun _ => rfl⟩
    intro result member
    rcases List.mem_map.mp (List.dropLast_subset _ member) with ⟨entry, _, equal⟩
    rw [← equal]
  · cases settled
    rcases journey.looked_of_setback with ⟨before, tried, split⟩
    refine ⟨rfl, by simp [split], ?_, by simp⟩
    intro result member
    rw [List.dropLast_concat, ← List.map_dropLast] at member
    rcases List.mem_map.mp member with ⟨entry, _, equal⟩
    rw [← equal]
  · cases settled

theorem Journey.dispatched {registries : Registries engine} {last result : Work engine}
    {looked : List (Stage × List Path)} {ended : Option (Stage × Setback)}
    {results : List StageResult}
    (journey : Journey files context (stagesFor context.kind) registries.fresh looked ended last)
    (settled : settle context looked last ended = (result, some results)) :
    Dispatched files context registries results result.actions := by
  have begins : Passed files context registries.fresh [] registries.fresh := rfl
  rcases journey.traced begins with ⟨more, did, traced⟩
  rcases journey.results settled with ⟨sameActions, sameStages, earlier, allPassed⟩
  have order : results.map StageResult.stage <+: stagesFor context.kind := by
    rw [sameStages]
    exact journey.order.1
  have actions : result.actions = more := by
    rw [sameActions, did]
    rfl
  rw [← sameStages] at traced
  rw [actions]
  refine ⟨?nonempty, order, earlier, ?whole, traced, ?parsed⟩
  case nonempty =>
    rintro rfl
    have nothing : looked = [] := by simpa using sameStages.symm
    exact journey.looked_of_stages (stagesFor_ne_nil context.kind) nothing
  case whole =>
    intro isPassed
    rw [sameStages]
    exact journey.order.2 (allPassed isPassed)
  case parsed =>
    intro call member isSample
    rcases traced.within call member with ⟨stage, isRan, own⟩
    rw [isSample] at own
    cases own
    exact passed_of_parsed order earlier isRan

end Pass

end TemplateCheck
