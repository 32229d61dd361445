import TemplateCheck.Proofs.Pass.Supply

/-! # The text in the editor

A stage that loads sources and passes has given its registry the text in the editor for the
document, and the text on disk for the other files that it found, each once. When it put its
question to the engine, the registry held the text in the editor, unless a model found later
declares the same namespace.
-/

namespace TemplateCheck.Pass

open Package (SourceSet)

variable {engine : Engine} {files : FileSystem} {context : Context} {set : SourceSet}

/-! ## The question of a stage -/

/-- The work with which a stage of a pass put its question to the engine, and passed. -/
structure Posed (files : FileSystem) (context : Context) (registries : Registries engine)
    (stage : Stage) (asked : Work engine) : Prop where
  started : ∃ past rest work, stagesFor context.kind = past ++ stage :: rest ∧
    Passed files context registries.fresh past work ∧
    start files context work stage = (asked, .waiting)
  passed : ∃ next, finish files context asked stage = (next, .passed)

theorem Loads.loadAll_eq {load : Work engine → Path → Work engine × Answer}
    {work loaded : Work engine} {paths : List Path} (loads : Loads load context work paths loaded)
    (stage : Stage) : loadAll load context stage paths work = (loaded, .waiting) := by
  induction loads with
  | done work => rfl
  | next listed answered later induction =>
      simp only [loadAll_cons, listed, answered, induction]

theorem loads_of_waiting {load : Work engine → Path → Work engine × Answer} {stage : Stage}
    {work loaded : Work engine} {paths : List Path}
    (ended : loadAll load context stage paths work = (loaded, .waiting)) :
    Loads load context work paths loaded := by
  induction paths generalizing work with
  | nil =>
      cases ended
      exact .done _
  | cons path rest induction =>
      rw [loadAll_cons] at ended
      split at ended
      · cases ended
      · next listed =>
          split at ended
          · cases ended
          · next answered => exact .next listed answered (induction ended)

/-- What a computation gives, by how it ends. -/
theorem eq_of_snd {first second : Type} {outcome : first × second} {result : second}
    (ends : outcome.2 = result) : outcome = (outcome.1, result) := by
  rw [← ends]

theorem supplies_removeUnits (paths : List Path) (work : Work engine) :
    supplies set (removeUnits paths work).actions = supplies set work.actions := by
  induction paths generalizing work with
  | nil => rfl
  | cons path rest induction =>
      rw [removeUnits, induction]
      simp [Work.call, Work.act, supplies, Action.supplied?]

theorem supplies_prepare (work : Work engine) :
    supplies set ((procedure files context set.stage).prepare work).actions =
      supplies set work.actions := by
  cases set with
  | models => simp [SourceSet.stage, procedure, Work.call, Work.act, supplies, Action.supplied?]
  | logic =>
      dsimp only [SourceSet.stage, procedure]
      rw [supplies_removeUnits]
      simp [Work.call, Work.act, supplies, Action.supplied?]

theorem supplies_pose (work : Work engine) :
    supplies set (work.pose (procedure files context set.stage).question).actions =
      supplies set work.actions := by
  cases set with
  | models =>
      simp [SourceSet.stage, procedure, Work.pose, Work.call, Work.act, supplies, Action.supplied?]
  | logic =>
      simp [SourceSet.stage, procedure, Work.pose, Work.call, Work.act, supplies, Action.supplied?]

theorem supplies_ask (work : Work engine) :
    supplies set ((procedure files context set.stage).ask work).1.actions =
      supplies set work.actions := by
  cases set with
  | models => rfl
  | logic => rfl

/-- The stages that passed on the way. -/
def through (looked : List (Stage × List Path)) : Option (Stage × Setback) → List Stage
  | none => looked.map Prod.fst
  | some _ => (looked.map Prod.fst).dropLast

theorem mem_through_of_settle {looked : List (Stage × List Path)} {work result : Work engine}
    {ended : Option (Stage × Setback)} {results : List StageResult}
    (settled : settle context looked work ended = (result, some results)) {stage : Stage}
    (passed : ⟨stage, true⟩ ∈ results) : stage ∈ through looked ended := by
  rcases ended with _ | ⟨last, failure | _⟩
  · cases settled
    simpa [through] using passed
  · cases settled
    simpa [through, ← List.map_dropLast] using passed
  · cases settled

theorem Journey.of_mem_through {stages : List Stage} {work last : Work engine}
    {looked : List (Stage × List Path)} {ended : Option (Stage × Setback)}
    (journey : Journey files context stages work looked ended last) (once : stages.Nodup)
    {stage : Stage} (passed : stage ∈ through looked ended) :
    stage ∈ looked.map Prod.fst ∧ ∀ setback, ended ≠ some (stage, setback) := by
  cases ended with
  | none => exact ⟨passed, nofun⟩
  | some setback =>
      refine ⟨List.dropLast_subset _ passed, ?_⟩
      rintro own ⟨⟩
      rcases journey.looked_of_setback with ⟨before, tried, split⟩
      have lookedOnce := once.sublist journey.order.1.sublist
      simp only [split, List.map_append, List.nodup_append] at lookedOnce
      have earlier : stage ∈ before.map Prod.fst := by simpa [through, split] using passed
      exact lookedOnce.2.2 stage earlier stage List.mem_cons_self rfl

/-- A stage that passed had loaded all its files when it put its question, and nothing else was
given to its registry. -/
theorem Journey.posed {stages : List Stage} {work last : Work engine}
    {looked : List (Stage × List Path)} {ended : Option (Stage × Setback)}
    (journey : Journey files context stages work looked ended last) (once : stages.Nodup)
    (passed : set.stage ∈ through looked ended) :
    ∃ past rest begun loaded, stages = past ++ set.stage :: rest ∧
      Passed files context work past begun ∧
      Loads (procedure files context set.stage).load context
        ((procedure files context set.stage).prepare begun) (filesOf files context set.stage)
        loaded ∧
      (∃ next, finish files context (loaded.pose (procedure files context set.stage).question)
        set.stage = (next, .passed)) ∧
      supplies set begun.actions = supplies set work.actions ∧
      supplies set last.actions = supplies set loaded.actions := by
  rcases journey.of_mem_through once passed with ⟨reached, notEnded⟩
  rcases journey.course once reached with
    ⟨past, rest, begun, tried, answer, result, split, passedBefore, course, setBack, apart⟩
  rcases apart _ (fun _ _ => Action.stage_of_supplied) with ⟨before, after⟩
  cases course with
  | stopped enumerated loads listed fails => exact absurd ((setBack _).mp rfl) (notEnded _)
  | @answered loaded result answer loads answers =>
      rcases answer with setback | _
      · exact absurd ((setBack _).mp rfl) (notEnded _)
      · have ready : Ready (loaded.pose (procedure files context set.stage).question)
            set.stage := by
          intro isSample
          cases set <;> cases isSample
        refine ⟨past, rest, begun, loaded, split, passedBefore, loads, ⟨result, ?_⟩, before, ?_⟩
        · rw [finish_eq_conclude files context ready, answers, conclude]
        · have asked := @supplies_ask engine files context set
            (loaded.pose (procedure files context set.stage).question)
          rw [answers, supplies_pose] at asked
          exact after.trans asked

/-! ## What was given -/

theorem apart_filesOf (files : FileSystem) (context : Context) (set : SourceSet) :
    (filesOf files context set.stage).Pairwise fun left right => left.same right = false := by
  have increasing : Ordered.Increasing Path.compare (filesOf files context set.stage) := by
    cases set with
    | models => exact Package.Sources.increasing_find _
    | logic => exact Package.Sources.increasing_find _
  refine increasing.imp ?_
  intro left right before
  rw [Bool.eq_false_iff]
  intro same
  rw [Path.compare_eq_iff.mpr same] at before
  cases before

/-- Of sources with different paths only one is at a path. -/
theorem filter_same {sources : List (Path × String)}
    (apart : (sources.map Prod.fst).Pairwise fun left right => left.same right = false)
    {source : Path × String} (member : source ∈ sources) {path : Path}
    (same : source.1.same path = true) :
    (sources.filter fun other => other.1.same path) = [source] := by
  induction sources with
  | nil => cases member
  | cons first rest induction =>
      rcases List.pairwise_cons.mp apart with ⟨apartFirst, apartRest⟩
      rcases List.mem_cons.mp member with rfl | later
      · have none : ∀ other ∈ rest, ¬ other.1.same path = true := by
          intro other inRest alsoSame
          have differs := apartFirst other.1 (List.mem_map_of_mem inRest)
          rw [Path.same_trans same (Path.same_symm alsoSame)] at differs
          cases differs
        rw [List.filter_cons, if_pos same, List.filter_eq_nil_iff.mpr none]
      · have notFirst : ¬ first.1.same path = true := by
          intro alsoSame
          have differs := apartFirst source.1 (List.mem_map_of_mem later)
          rw [Path.same_trans alsoSame (Path.same_symm same)] at differs
          cases differs
        rw [List.filter_cons, if_neg notFirst, induction apartRest later]

/-- What a stage loaded: the paths in order, each with its text. -/
structure Loaded (files : FileSystem) (context : Context) (set : SourceSet)
    (sources : List (Path × String)) : Prop where
  paths : sources.map Prod.fst = filesOf files context set.stage
  texts : ∀ source ∈ sources, context.textOf files source.1 = .ok source.2

/-- Each file is there once, in whatever spelling it is looked for. -/
theorem Loaded.single {sources : List (Path × String)}
    (loaded : Loaded files context set sources) {file path : Path}
    (listed : file ∈ filesOf files context set.stage) (same : file.same path = true) :
    ∃ text, context.textOf files file = .ok text ∧
      (sources.filter fun source => source.1.same path).map Prod.snd = [text] := by
  rw [← loaded.paths] at listed
  rcases List.mem_map.mp listed with ⟨source, member, rfl⟩
  have apart := apart_filesOf files context set
  rw [← loaded.paths] at apart
  exact ⟨source.2, loaded.texts source member, by rw [filter_same apart member same]; rfl⟩

theorem textOf_of_same {path : Path} (same : path.same context.path = true) :
    context.textOf files path = .ok context.document.text :=
  if_pos same

/-! ## What was held -/

/-- A registry holds the text in the editor, for a file that was found before others. A model
gives way to a later one that declares the same namespace. -/
def Reflects (texts : engine.Texts) (files : FileSystem) (context : Context) (asked : Work engine)
    (file : Path) (after : List Path) : SourceSet → Prop
  | .logic => texts.unit asked.logic context.path = some context.document.text
  | .models => ∃ name,
      engine.namespaceOf engine.newModels context.document.text file = .ok name ∧
      ((∀ later ∈ after, ¬ Declares engine files context name later) →
        texts.model asked.models name = some context.document.text)

theorem Loads.namespaceOf {work loaded : Work engine} {paths : List Path}
    (loads : Loads (loadModel files context) context work paths loaded) (texts : engine.Texts)
    {file : Path} (member : file ∈ paths) : ∃ name, Declares engine files context name file := by
  induction loads with
  | done work => cases member
  | next listed answered later induction =>
      rcases List.mem_cons.mp member with rfl | inRest
      · rcases loadModel_ok answered with ⟨content, name, text, named, _⟩
        exact ⟨name, content, text, (texts.namespaceOf _ _ _ _).trans named⟩
      · exact induction inRest

theorem reflects_of_loads {work loaded : Work engine} (texts : engine.Texts)
    {before after : List Path} {file : Path}
    (loads : Loads (procedure files context set.stage).load context work (before ++ file :: after)
      loaded)
    (apart : (before ++ file :: after).Pairwise fun left right => left.same right = false)
    (same : file.same context.path = true) :
    Reflects texts files context (loaded.pose (procedure files context set.stage).question) file
      after set := by
  have live := @textOf_of_same files context file same
  cases set with
  | logic =>
      have none : ∀ later ∈ after, ¬ context.path.same later = true := by
        intro later member alsoSame
        have differs := (List.pairwise_cons.mp (List.pairwise_append.mp apart).2.1).1 later member
        rw [Path.same_trans same alsoSame] at differs
        cases differs
      rcases (place_unit texts context.path).last loads (Path.same_symm same) none with
        ⟨content, text, holds⟩
      cases live.symm.trans text
      exact holds
  | models =>
      rcases loads.namespaceOf texts (List.mem_append_right _ List.mem_cons_self) with
        ⟨name, content, text, named⟩
      cases live.symm.trans text
      refine ⟨name, named, fun none => ?_⟩
      rcases (place_model texts name).last loads ⟨_, text, named⟩ none with
        ⟨own, ownText, holds⟩
      cases live.symm.trans ownText
      exact holds

/-- What a registry is given in a stage that passed, and what it holds when the engine is
asked. -/
structure LiveText (files : FileSystem) (context : Context) (registries : Registries engine)
    (set : SourceSet) (actions : List (Action engine.Template)) : Prop where
  /-- A document that is a plain file in its folder is found. -/
  found : ∀ folder name, context.path.parent? = some folder →
    context.path.fileName? = some name → files.Holds folder name →
    context.checker.sources.belongs set context.path = true →
      ∃ file ∈ filesOf files context set.stage, file.same context.path = true
  /-- A document that is found is given once, with the text in the editor. -/
  once : ∀ file ∈ filesOf files context set.stage, file.same context.path = true →
    textsAt set actions context.path = [context.document.text]
  /-- No other text is ever given for the document. -/
  only : ∀ text ∈ textsAt set actions context.path, text = context.document.text
  /-- Every other file that is found is given once, with its text on disk. -/
  others : ∀ file ∈ filesOf files context set.stage, file.same context.path = false →
    ∃ text, files.readText file = .ok text ∧ textsAt set actions file = [text]
  /-- All was given before the question, and the registry then held the text. -/
  held : ∃ asked, Posed files context registries set.stage asked ∧
    supplies set asked.actions = supplies set actions ∧
    ∀ (texts : engine.Texts) before file after,
      filesOf files context set.stage = before ++ file :: after →
      file.same context.path = true → Reflects texts files context asked file after set

theorem found_of_holds (sited : context.Sited files) {folder : Path} {name : String}
    (above : context.path.parent? = some folder) (named : context.path.fileName? = some name)
    (holds : files.Holds folder name)
    (isSource : context.checker.sources.belongs set context.path = true) :
    ∃ file ∈ filesOf files context set.stage, file.same context.path = true := by
  have same := Path.same_join_of_parent? (Uri.isAbsolute_toPath? sited.isFile) above named
  have below := FileSystem.mem_filesBelow_of_holds holds
  cases set with
  | models =>
      exact Package.Sources.exists_mem_find.mpr ⟨isSource, folder,
        Package.mem_searchFolders_of_parent? above _, _, below, same⟩
  | logic =>
      exact Package.Sources.exists_mem_find.mpr ⟨isSource, folder,
        Package.mem_searchFolders_of_parent? above _, _, below, same⟩

theorem Journey.liveText {registries : Registries engine} {last : Work engine}
    {looked : List (Stage × List Path)} {ended : Option (Stage × Setback)}
    (journey : Journey files context (stagesFor context.kind) registries.fresh looked ended last)
    (sited : context.Sited files) (passed : set.stage ∈ through looked ended) :
    LiveText files context registries set last.actions := by
  rcases journey.posed (stagesFor_nodup context.kind) passed with
    ⟨past, rest, begun, loaded, split, passedBefore, loads, finished, before, after⟩
  rcases loads.supplies with ⟨sources, paths, texts, supplied⟩
  have isLoaded : Loaded files context set sources := ⟨paths, texts⟩
  have all : supplies set last.actions = sources := by
    rw [after, supplied, supplies_prepare, before]
    rfl
  refine ⟨?found, ?once, ?only, ?others, ?held⟩
  case found =>
    intro folder name above named holds isSource
    exact found_of_holds sited above named holds isSource
  case once =>
    intro file listed same
    rcases isLoaded.single listed same with ⟨text, isText, given⟩
    cases (textOf_of_same same).symm.trans isText
    rw [textsAt, all, given]
  case only =>
    intro text member
    rw [textsAt, all] at member
    rcases List.mem_map.mp member with ⟨source, given, rfl⟩
    rcases List.mem_filter.mp given with ⟨inside, same⟩
    have isText := texts source inside
    rw [textOf_of_same same] at isText
    exact (Except.ok.inj isText).symm
  case others =>
    intro file listed apart
    rcases isLoaded.single listed (Path.same_refl file) with ⟨text, isText, given⟩
    rw [Context.textOf, if_neg (by simp [apart])] at isText
    exact ⟨text, isText, by rw [textsAt, all, given]⟩
  case held =>
    refine ⟨loaded.pose (procedure files context set.stage).question,
      ⟨⟨past, rest, begun, split, passedBefore, ?_⟩, finished⟩, ?_, ?_⟩
    · rw [start_eq_loadAll, loads.loadAll_eq]
    · rw [supplies_pose, after]
    · intro texts front file behind listed same
      have apart := apart_filesOf files context set
      rw [listed] at loads apart
      exact reflects_of_loads texts loads apart same

/-- For every engine, and whatever the registries held before. -/
theorem liveText_validate {checker : Checker} {document : Document}
    {registries : Registries engine} {completed : Completed}
    (arrived : arrive files checker document = .ok context)
    (ended : (validate files checker document registries).outcome = .completed completed)
    (set : SourceSet) (passed : ⟨set.stage, true⟩ ∈ completed.stages) :
    LiveText files context registries set
      (validate files checker document registries).actions := by
  have sited := (sited_of_arrive arrived).1
  have equal : validate files checker document registries = run files context registries := by
    simp only [validate, arrived]
  rcases journey_stagesFor sited registries List.prefix_rfl with
    ⟨looked, setback, last, journey, ran⟩
  rw [equal, run_eq_resume, resume, ran] at ended ⊢
  rcases settled : settle context looked last setback with ⟨result, _ | stages⟩
  · rw [settled] at ended
    cases ended
  · rw [settled] at ended
    cases ended
    dsimp only
    rw [(journey.results settled).1]
    exact journey.liveText sited (mem_through_of_settle settled passed)

/-! A package with two models, a unit and a draft that has a hidden name. -/

namespace Drafts

def text (content : String) : Entry :=
  .file (Text.Utf8.encodeChars content.toList)

def package : FileSystem where
  entries := [("p", .directory [
    ("grammar", .directory [("template.tem", text "")]),
    ("lib", .directory [("a.ergo", text "saved unit")]),
    ("models", .directory [
      (".draft.cto", text "namespace draft"),
      ("a.cto", text "namespace a"),
      ("b.cto", text "namespace b\nconcept B")]),
    ("package.json", text "\x7b\"accordproject\":true\x7d"),
    ("sample.txt", text "")])]
  workingDirectory := []

def checker : Checker := (Checker.ofLayout {}).toOption.getD default

def document (path content : String) : Document where
  uri := {
    scheme := "file"
    authority := some ⟨"", "", none⟩
    path := path
    query := none
    fragment := none }
  text := content

def check (document : Document) : Finished Scripted.engine :=
  validate package checker document ⟨[], []⟩

def stagesOf : Outcome → List StageResult
  | .completed completed => completed.stages
  | _ => []

def model : Document := document "/p/models/a.cto" "namespace a\nconcept Live"

def unit : Document := document "/p/lib/a.ergo" "live unit"

theorem arrive_eq {document : Document} {path : Path} (isFile : document.uri.toPath? = some path)
    (found : Package.findRoot? package checker.layout path = some ⟨"/p"⟩) :
    arrive package checker document = .ok ⟨checker, document, path, ⟨"/p"⟩⟩ := by
  simp only [arrive, isFile, found]

/-- Both the model and the unit are given as they are in the editor, and the other model as it is
on disk. -/
theorem liveText_drafts :
    LiveText package ⟨checker, model, ⟨"/p/models/a.cto"⟩, ⟨"/p"⟩⟩ ⟨[], []⟩ .models
        (check model).actions ∧
      supplies .models (check model).actions =
        [(⟨"/p/models/a.cto"⟩, "namespace a\nconcept Live"),
          (⟨"/p/models/b.cto"⟩, "namespace b\nconcept B")] ∧
      LiveText package ⟨checker, unit, ⟨"/p/lib/a.ergo"⟩, ⟨"/p"⟩⟩ ⟨[], []⟩ .logic
        (check unit).actions ∧
      supplies .logic (check unit).actions = [(⟨"/p/lib/a.ergo"⟩, "live unit")] := by
  have modelEnded : ∃ completed, (check model).outcome = .completed completed ∧
      ⟨.model, true⟩ ∈ completed.stages :=
    ⟨⟨some ⟨"/p"⟩, [⟨.model, true⟩, ⟨.logic, true⟩, ⟨.template, true⟩, ⟨.sample, true⟩],
      ⟨[((document "/p/grammar/template.tem" "").uri, []), ((document "/p/lib/a.ergo" "").uri, []),
        (model.uri, []), ((document "/p/models/b.cto" "").uri, []),
        ((document "/p/sample.txt" "").uri, [])]⟩⟩, by decide +kernel, by decide⟩
  have unitEnded : ∃ completed, (check unit).outcome = .completed completed ∧
      ⟨.logic, true⟩ ∈ completed.stages :=
    ⟨⟨some ⟨"/p"⟩, [⟨.model, true⟩, ⟨.logic, true⟩],
      ⟨[(unit.uri, []), ((document "/p/models/a.cto" "").uri, []),
        ((document "/p/models/b.cto" "").uri, [])]⟩⟩, by decide +kernel, by decide⟩
  rcases modelEnded with ⟨completedModel, endedModel, passedModel⟩
  rcases unitEnded with ⟨completedUnit, endedUnit, passedUnit⟩
  have arrivedModel := @arrive_eq model ⟨"/p/models/a.cto"⟩ (by decide +kernel) (by decide +kernel)
  have arrivedUnit := @arrive_eq unit ⟨"/p/lib/a.ergo"⟩ (by decide +kernel) (by decide +kernel)
  exact ⟨liveText_validate arrivedModel endedModel .models passedModel, by decide +kernel,
    liveText_validate arrivedUnit endedUnit .logic passedUnit, by decide +kernel⟩

def draft : Document := document "/p/models/.draft.cto" "namespace draft\nconcept Live"

/-- A model whose text in the editor declares the namespace of the model behind it. -/
def twin : Document := document "/p/models/a.cto" "namespace b"

/-- The stage passes, but a hidden document is never given, and the text of a document whose
namespace is declared again is not what the registry holds. -/
theorem draft_and_twin_not_held :
    checker.layout.classify ⟨"/p/models/.draft.cto"⟩ = .model ∧
      ⟨.model, true⟩ ∈ stagesOf (check draft).outcome ∧
      textsAt .models (check draft).actions ⟨"/p/models/.draft.cto"⟩ = [] ∧
      checker.layout.classify ⟨"/p/models/a.cto"⟩ = .model ∧
      ⟨.model, true⟩ ∈ stagesOf (check twin).outcome ∧
      Scripted.textOf (check twin).registries.models "b" = some "namespace b\nconcept B" := by
  decide +kernel

end Drafts

end TemplateCheck.Pass
