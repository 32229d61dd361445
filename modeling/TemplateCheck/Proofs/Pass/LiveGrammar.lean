import TemplateCheck.Proofs.Pass.Findings
import TemplateCheck.Proofs.Pass.LiveText

/-! # The grammar in the editor

A template stage takes the text in the editor for the grammar if the document has the extension
of a grammar, wherever it is, and else judges the template as the engine has loaded it. What is
wrong is shown on the grammar file of the layout. So the two agree for documents that are the
grammar file and have its extension, and for those that are neither.
-/

namespace TemplateCheck.Pass

variable {engine : Engine} {files : FileSystem} {context : Context}

/-- The file that a layout has for the grammar. -/
def Context.grammarFile (context : Context) : Path :=
  context.layout.grammarFile context.root

def callOf? {template : Type} (stage : Stage) : Action template → Option (Call template)
  | .call call => if call.stage? = some stage then some call else none
  | _ => none

/-- The calls of the engine that belong to a stage. -/
def callsOf {template : Type} (stage : Stage) (actions : List (Action template)) :
    List (Call template) :=
  actions.filterMap (callOf? stage)

/-- How a template that was loaded is judged: the calls that are made for it, and the answer. -/
inductive Judges (context : Context) (template : engine.Template) :
    List (Call engine.Template) → Answer → Prop
  | unbuilt {left : engine.Template} {setback : Setback} (isGrammar : context.kind = .grammar)
      (built : engine.buildGrammar template context.document.text = (left, .error setback)) :
      Judges context template [.buildGrammar context.document.text] (.error setback)
  | live {rebuilt : engine.Template} (isGrammar : context.kind = .grammar)
      (built : engine.buildGrammar template context.document.text = (rebuilt, .ok ())) :
      Judges context template [.buildGrammar context.document.text, .validate rebuilt]
        (engine.validate rebuilt)
  | onDisk (other : context.kind ≠ .grammar) :
      Judges context template [.validate template] (engine.validate template)

/-! ## The stage -/

theorem picks_callOf? {template : Type} (stage : Stage) :
    Picks stage (callOf? stage : Action template → Option (Call template)) := by
  intro action call picked
  unfold callOf? at picked
  split at picked
  · split at picked
    · next own => exact ⟨_, rfl, own⟩
    · cases picked
  · cases picked

theorem callsOf_append {template : Type} (stage : Stage) (actions more : List (Action template)) :
    callsOf stage (actions ++ more) = callsOf stage actions ++ callsOf stage more :=
  List.filterMap_append

/-- The template is judged by the engine once it is loaded, whatever was done before. -/
theorem judges_askTemplate {template : engine.Template}
    (loads : engine.loadTemplate files context.root = .ok template) (work : Work engine) :
    ∃ calls answer, Judges context template calls answer ∧
      (askTemplate files context work).1.actions = work.actions ++ calls.map .call ∧
      (askTemplate files context work).2 =
        answer.mapError fun setback => setback.withFile context.grammarFile := by
  by_cases isGrammar : context.kind = .grammar
  · rcases built : engine.buildGrammar template context.document.text with ⟨rebuilt, setback | _⟩
    · refine ⟨_, _, .unbuilt isGrammar built, ?_⟩
      simp only [askTemplate, buildTemplate, loads, applyGrammar, isGrammar, if_true, built]
      exact ⟨rfl, rfl⟩
    · refine ⟨_, _, .live isGrammar built, ?_⟩
      simp only [askTemplate, buildTemplate, loads, applyGrammar, isGrammar, if_true, built]
      rcases engine.validate rebuilt with setback | _
      · exact ⟨by simp [Work.call, Work.act], rfl⟩
      · exact ⟨by simp [Work.call, Work.act], rfl⟩
  · refine ⟨_, _, .onDisk isGrammar, ?_⟩
    simp only [askTemplate, buildTemplate, loads, applyGrammar, isGrammar, if_false]
    rcases engine.validate template with setback | _
    · exact ⟨rfl, rfl⟩
    · exact ⟨rfl, rfl⟩

theorem Judges.of_stage {template : engine.Template} {calls : List (Call engine.Template)}
    {answer : Answer} (judges : Judges context template calls answer) :
    callsOf .template (calls.map .call) = calls := by
  cases judges <;> rfl

theorem callsOf_of_listed {work loaded : Work engine} {paths : List Path}
    (loads : Loads loadNothing context work paths loaded) (stage : Stage) :
    callsOf stage loaded.actions = callsOf stage work.actions := by
  induction loads with
  | done work => rfl
  | next listed answered later induction =>
      cases answered
      rcases Option.map_eq_some_iff.mp listed with ⟨uri, -, rfl⟩
      rw [induction]
      exact (callsOf_append _ _ _).trans (List.append_nil _)

/-- A template stage asks for the template, and has it judged. -/
theorem Course.judges {work result : Work engine} {tried : List Path} {answer : Answer}
    (course : Course files context .template work tried answer result)
    {template : engine.Template}
    (loads : engine.loadTemplate files context.root = .ok template) :
    ∃ calls judgement, Judges context template calls judgement ∧
      callsOf .template result.actions =
        callsOf .template work.actions ++ .load context.root :: calls ∧
      answer = judgement.mapError fun setback => setback.withFile context.grammarFile := by
  cases course with
  | stopped enumerated loads listed fails => cases fails
  | @answered loaded result answer listing answers =>
      have asked : askTemplate files context (loaded.call (.load context.root)) =
          (result, answer) := answers
      rcases judges_askTemplate loads (loaded.call (.load context.root)) with
        ⟨calls, judgement, judges, did, gave⟩
      rw [asked] at did gave
      have listed : callsOf .template loaded.actions = callsOf .template work.actions :=
        callsOf_of_listed (show Loads loadNothing context work _ loaded from listing) _
      have posed : callsOf .template (loaded.call (.load context.root)).actions =
          callsOf .template work.actions ++ [.load context.root] := by
        rw [← listed]
        exact callsOf_append _ _ [_]
      refine ⟨calls, judgement, judges, ?_, gave⟩
      rw [did, callsOf_append, judges.of_stage, posed, List.append_assoc]
      rfl

/-! ## The pass -/

theorem Journey.reached {registries : Registries engine} {stages : List Stage}
    {last : Work engine} {looked : List (Stage × List Path)} {ended : Option (Stage × Setback)}
    (journey : Journey files context stages registries.fresh looked ended last)
    {call : Call engine.Template} (made : .call call ∈ last.actions) {stage : Stage}
    (own : call.stage? = some stage) : stage ∈ looked.map Prod.fst := by
  have begins : Passed files context registries.fresh [] registries.fresh := rfl
  rcases journey.traced begins with ⟨more, did, traced⟩
  rw [did] at made
  rcases traced.within call made with ⟨other, ran, isOther⟩
  rw [own] at isOther
  exact Option.some.inj isOther ▸ ran

/-- What is wrong with the template is shown on the grammar file. -/
theorem place_grammarFile (sited : context.Sited files) (failure : Failure) :
    ∃ uri, context.subject.uriFor? context.grammarFile = some uri ∧
      context.place (failure.withFile context.grammarFile) = uri := by
  have listed : context.grammarFile ∈ filesOf files context .template :=
    List.mem_singleton_self _
  rcases sited.named listed with ⟨uri, isNamed⟩
  refine ⟨uri, isNamed, ?_⟩
  have absolute : context.grammarFile.isAbsolute = true := sited.isAbsolute_of_mem_filesOf listed
  have named : (failure.withFile context.grammarFile).namedFile? context.layout.logicExtension =
      some context.grammarFile := rfl
  have root : context.subject.root = some context.root := rfl
  rw [Context.place, Failure.place, named]
  simp only [root, absolute, if_true, isNamed, Option.getD_some]

/-- How a pass shows the answer on a template: a failure on the grammar file, and nothing else. -/
structure Shows (context : Context) (answer : Answer) (completed : Completed) : Prop where
  failed : ⟨.template, false⟩ ∈ completed.stages ↔ ∃ failure, answer = .error (.failure failure)
  shown : ∀ failure, answer = .error (.failure failure) →
    ∃ uri, context.subject.uriFor? context.grammarFile = some uri ∧
      (completed.report.get? uri).isSome = true ∧
      ∀ other diagnostics, completed.report.get? other = some diagnostics → diagnostics =
        if other.same uri then [.error failure.range failure.message .template] else []

/-- A stage failed if a failure of it ended the pass. -/
theorem failed_iff {registries : Registries engine} {last : Work engine}
    {looked : List (Stage × List Path)} {ended : Option (Stage × Setback)}
    (ran : runStages files context (stagesFor context.kind) registries.fresh =
      settle context looked last ended) {completed : Completed}
    (finished : (run files context registries).outcome = .completed completed) (stage : Stage) :
    ⟨stage, false⟩ ∈ completed.stages ↔ ∃ failure, ended = some (stage, .failure failure) := by
  rw [Registries.fresh] at ran
  simp only [run, ran] at finished
  rcases ended with _ | ⟨failing, failure | _⟩
  · cases finished
    simp
  · cases finished
    have earlier : ⟨stage, false⟩ ∉
        (looked.map fun entry => (⟨entry.1, true⟩ : StageResult)).dropLast := by
      intro member
      rcases List.mem_map.mp (List.dropLast_subset _ member) with ⟨entry, _, equal⟩
      cases equal
    simp [earlier, eq_comm]
  · cases finished

theorem mapError_eq_failure {answer : Answer} {failure : Failure} {path : Path} :
    (answer.mapError fun setback => setback.withFile path) = .error (.failure failure) ↔
      ∃ own, answer = .error (.failure own) ∧ own.withFile path = failure := by
  rcases answer with ⟨own | _⟩ | _
  · simp [Except.mapError, Setback.withFile]
  · simp [Except.mapError, Setback.withFile]
  · simp [Except.mapError]

theorem Journey.shows {registries : Registries engine} {last : Work engine}
    {looked : List (Stage × List Path)} {ended : Option (Stage × Setback)}
    (journey : Journey files context (stagesFor context.kind) registries.fresh looked ended last)
    (ran : runStages files context (stagesFor context.kind) registries.fresh =
      settle context looked last ended) (sited : context.Sited files) {answer : Answer}
    (set : ∀ setback, (answer.mapError fun setback => setback.withFile context.grammarFile) =
      .error setback ↔ ended = some (.template, setback)) {completed : Completed}
    (finished : (run files context registries).outcome = .completed completed) :
    Shows context answer completed where
  failed := by
    rw [failed_iff ran finished]
    simp only [← set, mapError_eq_failure]
    constructor
    · rintro ⟨_, own, failed, _⟩
      exact ⟨own, failed⟩
    · rintro ⟨own, failed⟩
      exact ⟨_, own, failed, rfl⟩
  shown := by
    intro failure failed
    rcases place_grammarFile sited failure with ⟨uri, isNamed, isPlace⟩
    have isEnded := (set _).mp (mapError_eq_failure.mpr ⟨failure, failed, rfl⟩)
    rcases journey.finds ran finished with ⟨shown, equal, finds⟩
    have isShown : shown = some (.template, failure.withFile context.grammarFile) := by
      rw [isEnded] at equal
      rcases shown with _ | ⟨stage, other⟩
      · cases equal
      · cases equal
        rfl
    subst isShown
    refine ⟨uri, isNamed, ?_, ?_⟩
    · exact (finds.keys uri).mpr (.inr ⟨_, _, rfl, by rw [isPlace]; exact Uri.same_refl uri⟩)
    · intro other diagnostics found
      rw [finds.shown other diagnostics found, Context.shownAt, isPlace]
      rfl

/-- What a template stage takes for the grammar, and where it shows what is wrong with it. -/
structure LiveGrammar (context : Context) (template : engine.Template)
    (finished : Finished engine) : Prop where
  /-- By the extension of the document the engine judges the text in the editor, or the template
  as it was loaded, and its answer is shown on the grammar file. -/
  judged : ∃ calls answer, Judges context template calls answer ∧
    callsOf .template finished.actions = .load context.root :: calls ∧
    ∀ completed, finished.outcome = .completed completed → Shows context answer completed
  /-- That the text in the editor is used just for the grammar file holds if the extension of the
  document says whether it is that file. -/
  agrees : ((.call (.buildGrammar context.document.text) ∈ finished.actions ↔
      context.path.same context.grammarFile = true) ↔
    (context.kind = .grammar ↔ context.path.same context.grammarFile = true))
  /-- No other file's text is taken for the grammar unless the document is such a file with the
  extension of a grammar. -/
  own : ((∀ text, .call (.buildGrammar text) ∈ finished.actions →
      text = context.document.text ∧ context.path.same context.grammarFile = true) ↔
    (context.kind = .grammar → context.path.same context.grammarFile = true))

theorem mem_callsOf {template : Type} {stage : Stage} {actions : List (Action template)}
    {call : Call template} (own : call.stage? = some stage) :
    call ∈ callsOf stage actions ↔ .call call ∈ actions := by
  rw [callsOf, List.mem_filterMap]
  constructor
  · rintro ⟨action, member, isCall⟩
    rcases action with path | path | other
    · cases isCall
    · cases isCall
    · rw [callOf?] at isCall
      split at isCall
      · cases isCall
        exact member
      · cases isCall
  · intro member
    exact ⟨_, member, by rw [callOf?, if_pos own]⟩

theorem Judges.mem_iff {template : engine.Template} {calls : List (Call engine.Template)}
    {answer : Answer} (judges : Judges context template calls answer) (text : String) :
    .buildGrammar text ∈ calls ↔ context.kind = .grammar ∧ text = context.document.text := by
  cases judges with
  | unbuilt isGrammar built => simp [isGrammar]
  | live isGrammar built => simp [isGrammar]
  | onDisk other => simp [other]

theorem run_actions {registries : Registries engine} {last : Work engine}
    {looked : List (Stage × List Path)} {ended : Option (Stage × Setback)}
    (ran : runStages files context (stagesFor context.kind) registries.fresh =
      settle context looked last ended) :
    (run files context registries).actions = last.actions := by
  rw [Registries.fresh] at ran
  simp only [run, ran]
  rcases ended with _ | ⟨stage, failure | _⟩
  · rfl
  · rfl
  · rfl

/-- For every engine whose template of the package can be loaded, in a pass that came so far. -/
theorem liveGrammar_validate {checker : Checker} {document : Document}
    {registries : Registries engine} {template : engine.Template}
    (arrived : arrive files checker document = .ok context)
    (reached : .call (.load context.root) ∈ (validate files checker document registries).actions)
    (loads : engine.loadTemplate files context.root = .ok template) :
    LiveGrammar context template (validate files checker document registries) := by
  have sited := (sited_of_arrive arrived).1
  have equal : validate files checker document registries = run files context registries := by
    simp only [validate, arrived]
  rw [equal] at reached ⊢
  rcases journey_stagesFor sited registries List.prefix_rfl with
    ⟨looked, ended, last, journey, ran⟩
  have record : (run files context registries).actions = last.actions := run_actions ran
  rw [record] at reached
  rcases journey.course (stagesFor_nodup context.kind) (journey.reached reached rfl) with
    ⟨past, rest, begun, tried, answer, result, -, -, course, set, apart⟩
  rcases apart (callOf? .template) (picks_callOf? .template) with ⟨before, after⟩
  rcases course.judges loads with ⟨calls, judgement, judges, did, gave⟩
  have blank : callsOf .template begun.actions = [] := before
  have whole : callsOf .template last.actions = callsOf .template result.actions := after
  rw [blank, List.nil_append, ← whole, ← record] at did
  subst gave
  have built (text : String) :
      .call (.buildGrammar text) ∈ (run files context registries).actions ↔
        context.kind = .grammar ∧ text = context.document.text := by
    rw [← @mem_callsOf _ .template _ _ rfl, did, ← judges.mem_iff]
    simp
  refine ⟨⟨calls, judgement, judges, did, ?_⟩, ?_, ?_⟩
  · intro completed finished
    exact journey.shows ran sited set finished
  · rw [built]
    simp
  · simp only [built]
    constructor
    · intro all isGrammar
      exact (all _ ⟨isGrammar, rfl⟩).2
    · rintro same text ⟨isGrammar, isText⟩
      exact ⟨isText, same isGrammar⟩

/-! A package with notes beside its grammar, which have the extension of a grammar, and a layout
that has a model for the grammar. -/

namespace Notes

open Drafts (document text)

def package : FileSystem where
  entries := [("p", .directory [
    ("grammar", .directory [
      ("notes.tem", text "saved notes"),
      ("template.tem", text "saved grammar")]),
    ("models", .directory [("grammar.cto", text "namespace g")]),
    ("package.json", text "\x7b\"accordproject\":true\x7d"),
    ("sample.txt", text "sample")])]
  workingDirectory := []

def checkerOf (layout : Package.Layout) : Checker := (Checker.ofLayout layout).toOption.getD default

def checker : Checker := checkerOf {}

/-- The grammar is where the models are. -/
def otherChecker : Checker := checkerOf { grammarPath := ⟨"models/grammar.cto"⟩ }

def check (checker : Checker) (document : Document) : Finished Scripted.engine :=
  validate package checker document ⟨[], []⟩

instance : DecidableEq Scripted.engine.Template :=
  inferInstanceAs (DecidableEq Scripted.Template)

def saved : Scripted.engine.Template := Scripted.Template.mk "saved grammar"

def grammar : Document :=
  document "/p/grammar/template.tem" "@build \x7b\"message\":\"bad grammar\"\x7d"

def notes : Document :=
  document "/p/grammar/notes.tem" "@build \x7b\"message\":\"bad notes\"\x7d"

def model : Document := document "/p/models/grammar.cto" "namespace g\nconcept Live"

def errorsAt (document : Document) : Outcome → List String
  | .completed completed =>
      ((completed.report.get? document.uri).getD []).map Diagnostic.message
  | _ => []

theorem loadTemplate_package : Scripted.engine.loadTemplate package ⟨"/p"⟩ = .ok saved := by
  rfl

/-- An error in the grammar file that is edited is found in its text in the editor. -/
theorem liveGrammar_grammar :
    LiveGrammar ⟨checker, grammar, ⟨"/p/grammar/template.tem"⟩, ⟨"/p"⟩⟩ saved
        (check checker grammar) ∧
      callsOf .template (check checker grammar).actions =
        [.load ⟨"/p"⟩, .buildGrammar grammar.text] ∧
      errorsAt grammar (check checker grammar).outcome = ["bad grammar"] := by
  have isFile : grammar.uri.toPath? = some ⟨"/p/grammar/template.tem"⟩ := by decide +kernel
  have found : Package.findRoot? package checker.layout ⟨"/p/grammar/template.tem"⟩ =
      some ⟨"/p"⟩ := by decide +kernel
  have arrived : arrive package checker grammar =
      .ok ⟨checker, grammar, ⟨"/p/grammar/template.tem"⟩, ⟨"/p"⟩⟩ := by
    simp only [arrive, isFile, found]
  have judged : callsOf .template (check checker grammar).actions =
        [.load ⟨"/p"⟩, .buildGrammar grammar.text] ∧
      errorsAt grammar (check checker grammar).outcome = ["bad grammar"] := by decide +kernel
  have reached : .call (.load ⟨"/p"⟩) ∈ (check checker grammar).actions :=
    (mem_callsOf rfl).mp (judged.1 ▸ List.mem_cons_self)
  exact ⟨liveGrammar_validate arrived reached loadTemplate_package, judged⟩

/-- Notes are taken for the grammar, and what is wrong with them is shown on the grammar file,
while the text of an edited grammar file that has the extension of a model is not used. -/
theorem notes_taken_for_grammar :
    Scripted.engine.loadTemplate package ⟨"/p"⟩ = .ok saved ∧
      (Path.mk "/p/grammar/notes.tem").same (checker.layout.grammarFile ⟨"/p"⟩) = false ∧
      callsOf .template (check checker notes).actions =
        [.load ⟨"/p"⟩, .buildGrammar notes.text] ∧
      errorsAt grammar (check checker notes).outcome = ["bad notes"] ∧
      (Path.mk "/p/models/grammar.cto").same (otherChecker.layout.grammarFile ⟨"/p"⟩) = true ∧
      callsOf .template (check otherChecker model).actions =
        [.load ⟨"/p"⟩, .validate saved] :=
  ⟨loadTemplate_package, by decide +kernel⟩

end Notes

end TemplateCheck.Pass
