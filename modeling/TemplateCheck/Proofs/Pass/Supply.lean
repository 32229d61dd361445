import TemplateCheck.Proofs.Engine.Texts
import TemplateCheck.Proofs.Pass.Dispatch

/-! # What the registries are given

A stage that loads sources gives each of them to its registry: the document with the text in
the editor, and every other file with the text on disk. Files that load one after the other are
given in this order, each once, and what a registry holds in one place is the text of the last
file that takes this place.
-/

namespace TemplateCheck

/-- The stage that loads a set of sources. -/
def Package.SourceSet.stage : SourceSet → Stage
  | .models => .model
  | .logic => .logic

open Package (SourceSet)

/-- The path and the text of a source that is given to its registry. -/
def Action.supplied? {template : Type} : SourceSet → Action template → Option (Path × String)
  | .models, .call (.add content path) => some (path, content)
  | .models, .call (.update content path) => some (path, content)
  | .logic, .call (.updateUnit content path) => some (path, content)
  | _, _ => none

/-- Sources are given to a registry in the stage that loads them. -/
theorem Action.stage_of_supplied {template : Type} {set : SourceSet} {action : Action template}
    {source : Path × String} (supplied : action.supplied? set = some source) :
    ∃ call, action = .call call ∧ call.stage? = some set.stage := by
  unfold supplied? at supplied
  split at supplied
  · exact ⟨_, rfl, rfl⟩
  · exact ⟨_, rfl, rfl⟩
  · exact ⟨_, rfl, rfl⟩
  · cases supplied

namespace Pass

variable {engine : Engine} {files : FileSystem} {context : Context} {set : SourceSet}

/-- All that a registry is given. -/
def supplies {template : Type} (set : SourceSet) (actions : List (Action template)) :
    List (Path × String) :=
  actions.filterMap (Action.supplied? set)

/-- The texts that are given for a path, whatever its spelling. -/
def textsAt {template : Type} (set : SourceSet) (actions : List (Action template)) (path : Path) :
    List String :=
  ((supplies set actions).filter fun source => source.1.same path).map Prod.snd

/-- The text of a source: the editor's for the document, else what is on disk. -/
def Context.textOf (context : Context) (files : FileSystem) (path : Path) :
    Except FileFault String :=
  if path.same context.path then .ok context.document.text else files.readText path

/-! ## One file -/

theorem supplies_append {template : Type} (actions more : List (Action template)) :
    supplies set (actions ++ more) = supplies set actions ++ supplies set more :=
  List.filterMap_append

/-- What comes of reading a source. -/
theorem readSource_ok {work read : Work engine} {path : Path} {content : String}
    (equal : readSource files context work path = (read, .ok content)) :
    context.textOf files path = .ok content ∧ read.models = work.models ∧
      read.logic = work.logic ∧ supplies set read.actions = supplies set work.actions := by
  unfold readSource at equal
  unfold Context.textOf
  split at equal
  · next own =>
      cases equal
      exact ⟨if_pos own, rfl, rfl, rfl⟩
  · next other =>
      rw [if_neg other]
      unfold readFile at equal
      dsimp only at equal
      split at equal
      · next text found =>
          cases equal
          exact ⟨found, rfl, rfl, by simp [Work.act, supplies, Action.supplied?]⟩
      · cases equal

theorem storeModel_ok {work loaded : Work engine} {path : Path} {content : String}
    (answered : storeModel work path content = (loaded, .ok ())) :
    ∃ name, engine.namespaceOf work.models content path = .ok name ∧
      (engine.update work.models content path = (loaded.models, .ok ()) ∨
        engine.add work.models content path = (loaded.models, .ok ())) ∧
      supplies .models loaded.actions = supplies .models work.actions ++ [(path, content)] := by
  cases named : engine.namespaceOf work.models content path with
  | error setback =>
      simp only [storeModel, call_models, named] at answered
      cases answered
  | ok name =>
      refine ⟨name, rfl, ?_⟩
      cases known : engine.hasNamespace work.models name with
      | true =>
          rcases updated : engine.update work.models content path with ⟨models, answer⟩
          simp only [storeModel, call_models, named, known, updated, if_true] at answered
          cases answered
          refine ⟨Or.inl rfl, ?_⟩
          simp only [Work.call, Work.act, List.append_assoc, supplies_append]
          rfl
      | false =>
          rcases added : engine.add work.models content path with ⟨models, answer⟩
          simp only [storeModel, call_models, named, known, added] at answered
          cases answered
          refine ⟨Or.inr rfl, ?_⟩
          simp only [Work.call, Work.act, List.append_assoc, supplies_append]
          rfl

theorem loadModel_ok {work loaded : Work engine} {path : Path}
    (answered : loadModel files context work path = (loaded, .ok ())) :
    ∃ content name, context.textOf files path = .ok content ∧
      engine.namespaceOf work.models content path = .ok name ∧
      (engine.update work.models content path = (loaded.models, .ok ()) ∨
        engine.add work.models content path = (loaded.models, .ok ())) ∧
      supplies .models loaded.actions = supplies .models work.actions ++ [(path, content)] := by
  unfold loadModel at answered
  split at answered
  · cases answered
  · next read content equal =>
      rcases @readSource_ok _ _ _ .models _ _ _ _ equal with ⟨text, sameModels, _, sameSupplies⟩
      rcases storeModel_ok answered with ⟨name, stored⟩
      rw [sameModels, sameSupplies] at stored
      exact ⟨content, name, text, stored⟩

theorem loadUnit_ok {work loaded : Work engine} {path : Path}
    (answered : loadUnit files context work path = (loaded, .ok ())) :
    ∃ content, context.textOf files path = .ok content ∧
      engine.updateUnit work.logic content path = (loaded.logic, .ok ()) ∧
      supplies .logic loaded.actions = supplies .logic work.actions ++ [(path, content)] := by
  unfold loadUnit at answered
  split at answered
  · cases answered
  · next read content equal =>
      rcases @readSource_ok _ _ _ .logic _ _ _ _ equal with ⟨text, _, sameLogic, sameSupplies⟩
      rcases updated : engine.updateUnit work.logic content path with ⟨logic, answer⟩
      simp only [call_logic, sameLogic, updated] at answered
      cases answered
      refine ⟨content, text, updated, ?_⟩
      rw [← sameSupplies]
      simp [Work.call, Work.act, supplies, Action.supplied?]

theorem supplies_load {work loaded : Work engine} {path : Path}
    (answered : (procedure files context set.stage).load work path = (loaded, .ok ())) :
    ∃ content, context.textOf files path = .ok content ∧
      supplies set loaded.actions = supplies set work.actions ++ [(path, content)] := by
  cases set with
  | models =>
      rcases loadModel_ok answered with ⟨content, _, text, _, _, supplied⟩
      exact ⟨content, text, supplied⟩
  | logic =>
      rcases loadUnit_ok answered with ⟨content, text, _, supplied⟩
      exact ⟨content, text, supplied⟩

theorem mark?_unchanged {work marked : Work engine} {path : Path}
    (listed : work.mark? context path = some marked) :
    marked.models = work.models ∧ marked.logic = work.logic ∧
      supplies set marked.actions = supplies set work.actions := by
  rcases Option.map_eq_some_iff.mp listed with ⟨uri, _, rfl⟩
  exact ⟨rfl, rfl, by simp [Work.act, supplies, Action.supplied?]⟩

/-! ## One file after the other -/

/-- The files that load are given in their order, with their texts. -/
theorem Loads.supplies {work loaded : Work engine} {paths : List Path}
    (loads : Loads (procedure files context set.stage).load context work paths loaded) :
    ∃ sources, sources.map Prod.fst = paths ∧
      (∀ source ∈ sources, context.textOf files source.1 = .ok source.2) ∧
      Pass.supplies set loaded.actions = Pass.supplies set work.actions ++ sources := by
  induction loads with
  | done work => exact ⟨[], rfl, by simp, by simp⟩
  | @next work marked loaded last path rest listed answered later induction =>
      rcases supplies_load answered with ⟨content, text, supplied⟩
      rcases induction with ⟨sources, paths, texts, others⟩
      refine ⟨(path, content) :: sources, by simp [paths], ?_, ?_⟩
      · intro source member
        rcases List.mem_cons.mp member with rfl | inRest
        · exact text
        · exact texts source inRest
      · rw [others, supplied, (mark?_unchanged listed).2.2, List.append_assoc,
          List.singleton_append]

/-- A place in a registry that some files take, when they are loaded, and that others leave
alone. -/
structure Place (files : FileSystem) (context : Context)
    (load : Work engine → Path → Work engine × Answer) (held : Work engine → Option String)
    (takes : Path → Prop) : Prop where
  marked : ∀ {work marked : Work engine} {path : Path}, work.mark? context path = some marked →
    held marked = held work
  taken : ∀ {work loaded : Work engine} {path : Path}, load work path = (loaded, .ok ()) →
    takes path → ∃ content, context.textOf files path = .ok content ∧ held loaded = some content
  left : ∀ {work loaded : Work engine} {path : Path}, load work path = (loaded, .ok ()) →
    ¬ takes path → held loaded = held work

namespace Place

variable {load : Work engine → Path → Work engine × Answer} {held : Work engine → Option String}
  {takes : Path → Prop}

theorem unchanged (place : Place files context load held takes) {work loaded : Work engine}
    {paths : List Path} (loads : Loads load context work paths loaded)
    (none : ∀ path ∈ paths, ¬ takes path) : held loaded = held work := by
  induction loads with
  | done work => rfl
  | @next work marked loaded last path rest listed answered later induction =>
      rw [induction fun other member => none other (List.mem_cons_of_mem _ member),
        place.left answered (none path List.mem_cons_self), place.marked listed]

/-- A place holds the text of the last file that took it. -/
theorem last (place : Place files context load held takes) {work loaded : Work engine}
    {before after : List Path} {file : Path}
    (loads : Loads load context work (before ++ file :: after) loaded) (isTaken : takes file)
    (none : ∀ path ∈ after, ¬ takes path) :
    ∃ content, context.textOf files file = .ok content ∧ held loaded = some content := by
  induction before generalizing work with
  | nil =>
      cases loads with
      | next listed answered later =>
          rcases place.taken answered isTaken with ⟨content, text, holds⟩
          exact ⟨content, text, (place.unchanged later none).trans holds⟩
  | cons first rest induction =>
      cases loads with
      | next listed answered later => exact induction later

end Place

theorem place_unit (texts : engine.Texts) (other : Path) :
    Place files context (loadUnit files context) (fun work => texts.unit work.logic other)
      (fun path => other.same path = true) where
  marked := by
    intro work marked path listed
    rw [(@mark?_unchanged _ _ .logic _ _ _ listed).2.1]
  taken := by
    intro work loaded path answered isTaken
    rcases loadUnit_ok answered with ⟨content, text, updated, _⟩
    have stores := texts.updateUnit work.logic content path (by rw [updated]) other
    rw [updated, if_pos isTaken] at stores
    exact ⟨content, text, stores⟩
  left := by
    intro work loaded path answered isLeft
    rcases loadUnit_ok answered with ⟨content, _, updated, _⟩
    have stores := texts.updateUnit work.logic content path (by rw [updated]) other
    rw [updated, if_neg isLeft] at stores
    exact stores

/-- The text of a source declares a namespace. -/
def Declares (engine : Engine) (files : FileSystem) (context : Context) (name : String)
    (path : Path) : Prop :=
  ∃ content, context.textOf files path = .ok content ∧
    engine.namespaceOf engine.newModels content path = .ok name

/-- The place of a namespace, where a model that loads is stored under the namespace that its text
declares. -/
theorem place_namespace {held : engine.Models → String → Option String}
    {declares : String → Path → String → Prop}
    (single : ∀ {content path name other}, declares content path name →
      declares content path other → name = other)
    (stores : ∀ {models after content path name},
      engine.namespaceOf models content path = .ok name →
      (engine.update models content path = (after, .ok ()) ∨
        engine.add models content path = (after, .ok ())) →
      declares content path name ∧ PlacesText (· == name) (held models) (held after) content)
    (name : String) :
    Place files context (loadModel files context) (fun work => held work.models name)
      (fun path => ∃ content, context.textOf files path = .ok content ∧
        declares content path name) where
  marked := by
    intro work marked path listed
    rw [(@mark?_unchanged _ _ .models _ _ _ listed).1]
  taken := by
    rintro work loaded path answered ⟨other, otherText, declared⟩
    rcases loadModel_ok answered with ⟨content, own, text, named, stored, _⟩
    rcases stores named stored with ⟨ownDeclared, places⟩
    cases text.symm.trans otherText
    cases single ownDeclared declared
    exact ⟨other, text, by rw [places name]; simp⟩
  left := by
    intro work loaded path answered isLeft
    rcases loadModel_ok answered with ⟨content, own, text, named, stored, _⟩
    rcases stores named stored with ⟨ownDeclared, places⟩
    have apart : name ≠ own := by
      rintro rfl
      exact isLeft ⟨content, text, ownDeclared⟩
    rw [places name]
    simp [apart]

theorem place_model (texts : engine.Texts) (name : String) :
    Place files context (loadModel files context) (fun work => texts.model work.models name)
      (Declares engine files context name) := by
  refine @place_namespace _ _ _ texts.model
    (fun content path name => engine.namespaceOf engine.newModels content path = .ok name)
    ?single ?stores name
  case single =>
    intro content path name other first second
    exact Except.ok.inj (first.symm.trans second)
  case stores =>
    intro models after content path name named stored
    refine ⟨(texts.namespaceOf _ _ _ _).trans named, ?_⟩
    rcases stored with updated | added
    · have stores := texts.update models content path name named (by rw [updated])
      rwa [updated] at stores
    · have stores := texts.add models content path name named (by rw [added])
      rwa [added] at stores

end Pass

end TemplateCheck
