import TemplateCheck.Proofs.FileSystem.Missing
import TemplateCheck.Proofs.Package.Discovery
import TemplateCheck.Proofs.Pass.LiveText

/-! # The registry of models after loading

The model stage clears the registry and then loads the models it finds, in path order. When all
of them have loaded, a namespace has the text of the last file that declares it, and no text where
no file does. What was held before makes no difference, nor do the order of the folders that are
searched and the files that they share.
-/

namespace TemplateCheck

namespace Pass

variable {engine : Engine} {files : FileSystem} {context : Context} {paths : List Path}

/-- Two spellings of a path never lead to two texts of a source. -/
theorem Context.textOf_eq_of_same {left right : Path} (same : left.same right = true)
    {text other : String} (leftText : context.textOf files left = .ok text)
    (rightText : context.textOf files right = .ok other) : text = other := by
  have own : left.same context.path = right.same context.path := by
    rw [Bool.eq_iff_iff]
    exact ⟨Path.same_trans (Path.same_symm same), Path.same_trans same⟩
  unfold Context.textOf at leftText rightText
  rw [own] at leftText
  split at leftText
  · next live =>
      rw [if_pos live] at rightText
      exact Except.ok.inj (leftText.symm.trans rightText)
  · next onDisk =>
      rw [if_neg onDisk] at rightText
      exact FileSystem.readText_of_same same leftText rightText

/-! ## The last file of a namespace -/

section Namespaces

variable (namespaces : engine.Namespaces) (files context)

/-- The text of a file declares a namespace. -/
def DeclaredIn (name : String) (path : Path) : Prop :=
  ∃ content, context.textOf files path = .ok content ∧ namespaces.declared content = some name

/-- A text is the one of the last file, in path order, that declares a namespace. -/
def Prevails (paths : List Path) (name content : String) : Prop :=
  ∃ file ∈ paths, context.textOf files file = .ok content ∧
    namespaces.declared content = some name ∧
    ∀ other ∈ paths, DeclaredIn files context namespaces name other →
      Path.compare other file ≠ .gt

end Namespaces

variable {namespaces : engine.Namespaces}

theorem place_held (namespaces : engine.Namespaces) (name : String) :
    Place files context (loadModel files context) (fun work => namespaces.held work.models name)
      (DeclaredIn files context namespaces name) := by
  refine @place_namespace _ _ _ namespaces.held
    (fun content _ name => namespaces.declared content = some name) ?single ?stores name
  case single =>
    intro content path name other first second
    exact Option.some.inj (first.symm.trans second)
  case stores =>
    intro models after content path name named stored
    refine ⟨namespaces.namespaceOf _ _ _ _ named, ?_⟩
    rcases stored with updated | added
    · have places := namespaces.update models content path name named (by rw [updated])
      rwa [updated] at places
    · have places := namespaces.add models content path name named (by rw [added])
      rwa [added] at places

/-- A file that loads declares a namespace. -/
theorem Loads.declared {work loaded : Work engine}
    (loads : Loads (loadModel files context) context work paths loaded)
    (namespaces : engine.Namespaces) {file : Path} (member : file ∈ paths) :
    ∃ name, DeclaredIn files context namespaces name file := by
  induction loads with
  | done work => cases member
  | next listed answered later induction =>
      rcases List.mem_cons.mp member with rfl | inRest
      · rcases loadModel_ok answered with ⟨content, name, text, named, _⟩
        exact ⟨name, content, text, namespaces.namespaceOf _ _ _ _ named⟩
      · exact induction inRest

theorem none_or_last {item : Type} (holds : item → Prop) (items : List item) :
    (∀ one ∈ items, ¬ holds one) ∨
      ∃ before last after, items = before ++ last :: after ∧ holds last ∧
        ∀ later ∈ after, ¬ holds later := by
  induction items with
  | nil => exact Or.inl (by simp)
  | cons head tail induction =>
      rcases induction with none | ⟨before, last, after, split, isLast, none⟩
      · by_cases here : holds head
        · exact Or.inr ⟨[], head, tail, rfl, here, none⟩
        · exact Or.inl (List.forall_mem_cons.mpr ⟨here, none⟩)
      · exact Or.inr ⟨head :: before, last, after, by rw [split]; rfl, isLast, none⟩

theorem Prevails.held {work loaded : Work engine} {name content : String}
    (prevails : Prevails files context namespaces paths name content)
    (increasing : Ordered.Increasing Path.compare paths)
    (loads : Loads (loadModel files context) context work paths loaded) :
    namespaces.held loaded.models name = some content := by
  rcases prevails with ⟨file, member, text, declared, last⟩
  rcases List.append_of_mem member with ⟨before, after, rfl⟩
  have behind := (List.pairwise_cons.mp (List.pairwise_append.mp increasing).2.1).1
  have none : ∀ later ∈ after, ¬ DeclaredIn files context namespaces name later := by
    intro later inAfter alsoDeclared
    exact last later (List.mem_append_right _ (List.mem_cons_of_mem _ inAfter)) alsoDeclared
      (Std.OrientedCmp.gt_iff_lt.mpr (behind later inAfter))
  rcases (place_held namespaces name).last loads ⟨content, text, declared⟩ none with
    ⟨own, ownText, holds⟩
  cases text.symm.trans ownText
  exact holds

/-- The last file of a namespace comes last in path order. -/
theorem prevails_of_split {before after : List Path} {file : Path} {name content : String}
    (increasing : Ordered.Increasing Path.compare (before ++ file :: after))
    (text : context.textOf files file = .ok content)
    (declared : namespaces.declared content = some name)
    (none : ∀ later ∈ after, ¬ DeclaredIn files context namespaces name later) :
    Prevails files context namespaces (before ++ file :: after) name content := by
  have ahead := (List.pairwise_append.mp increasing).2.2
  refine ⟨file, List.mem_append_right _ List.mem_cons_self, text, declared, ?_⟩
  intro other member alsoDeclared
  rcases List.mem_append.mp member with inBefore | inRest
  · rw [ahead other inBefore file List.mem_cons_self]
    decide
  · rcases List.mem_cons.mp inRest with rfl | inAfter
    · rw [Path.compare_eq_iff.mpr (Path.same_refl _)]
      decide
    · exact absurd alsoDeclared (none other inAfter)

/-- Once all files have loaded into a registry that held nothing, it holds the texts that
prevail. -/
theorem Loads.held_iff {work loaded : Work engine} {name : String}
    (loads : Loads (loadModel files context) context work paths loaded)
    (increasing : Ordered.Increasing Path.compare paths)
    (free : namespaces.held work.models name = none) (content : String) :
    namespaces.held loaded.models name = some content ↔
      Prevails files context namespaces paths name content := by
  constructor
  · intro holds
    rcases none_or_last (DeclaredIn files context namespaces name) paths with
      none | ⟨before, file, after, rfl, isDeclared, none⟩
    · have same : namespaces.held loaded.models name = namespaces.held work.models name :=
        (place_held namespaces name).unchanged loads none
      rw [same, free] at holds
      cases holds
    · rcases (place_held namespaces name).last loads isDeclared none with ⟨own, text, ownHolds⟩
      cases holds.symm.trans ownHolds
      rcases isDeclared with ⟨other, otherText, declared⟩
      cases text.symm.trans otherText
      exact prevails_of_split increasing text declared none
  · intro prevails
    exact prevails.held increasing loads

theorem Loads.isSome_held {work loaded : Work engine} {name : String}
    (loads : Loads (loadModel files context) context work paths loaded) {file : Path}
    (member : file ∈ paths) (declared : DeclaredIn files context namespaces name file) :
    (namespaces.held loaded.models name).isSome = true := by
  rcases none_or_last (DeclaredIn files context namespaces name) paths with
    none | ⟨before, last, after, rfl, isDeclared, none⟩
  · exact absurd declared (none file member)
  · rcases (place_held namespaces name).last loads isDeclared none with ⟨content, -, holds⟩
    exact Option.isSome_iff_exists.mpr ⟨content, holds⟩

/-- Which text prevails does not depend on the spelling of the paths. -/
theorem Prevails.respell {others : List Path} {name content : String}
    (prevails : Prevails files context namespaces paths name content)
    (alike : paths.map Path.components = others.map Path.components)
    (known : ∀ file ∈ paths, ∃ text, context.textOf files file = .ok text)
    (othersKnown : ∀ file ∈ others, ∃ text, context.textOf files file = .ok text) :
    Prevails files context namespaces others name content := by
  rcases prevails with ⟨file, member, text, declared, last⟩
  have inOthers : file.components ∈ others.map Path.components :=
    alike ▸ List.mem_map_of_mem member
  rcases List.mem_map.mp inOthers with ⟨own, ownMember, parts⟩
  rcases othersKnown own ownMember with ⟨ownText, isText⟩
  cases Context.textOf_eq_of_same (Path.same_iff.mpr parts) isText text
  refine ⟨own, ownMember, isText, declared, ?_⟩
  rintro other otherMember ⟨otherText, isOther, alsoDeclared⟩
  have inPaths : other.components ∈ paths.map Path.components :=
    alike ▸ List.mem_map_of_mem otherMember
  rcases List.mem_map.mp inPaths with ⟨first, firstMember, firstParts⟩
  rcases known first firstMember with ⟨firstText, isFirst⟩
  cases Context.textOf_eq_of_same (Path.same_iff.mpr firstParts) isFirst isOther
  have before := last first firstMember ⟨_, isFirst, alsoDeclared⟩
  rwa [Path.compare_eq_compareLex, firstParts, ← parts, ← Path.compare_eq_compareLex] at before

/-! ## Replaying the record -/

/-- What an action makes of the registry of models. Resolving is not among these: the stage waits
for its answer. -/
def register (engine : Engine) (models : engine.Models) :
    Action engine.Template → engine.Models
  | .call .clear => engine.clear models
  | .call (.add content path) => (engine.add models content path).1
  | .call (.update content path) => (engine.update models content path).1
  | _ => models

/-- What a record makes of a registry of models. -/
def replay (engine : Engine) (models : engine.Models) (actions : List (Action engine.Template)) :
    engine.Models :=
  actions.foldl (register engine) models

/-- A model is added where its namespace is free, and replaces another one where it is taken. -/
def Fits (namespaces : engine.Namespaces) (models : engine.Models) :
    Action engine.Template → Prop
  | .call (.add content _) => ∃ name, namespaces.declared content = some name ∧
      namespaces.held models name = none
  | .call (.update content _) => ∃ name, namespaces.declared content = some name ∧
      (namespaces.held models name).isSome = true
  | _ => True

/-- Every action fits the registry that the actions before it leave. -/
def Fitting (namespaces : engine.Namespaces) : engine.Models → List (Action engine.Template) → Prop
  | _, [] => True
  | models, action :: rest =>
      Fits namespaces models action ∧ Fitting namespaces (register engine models action) rest

theorem fitting_append {models : engine.Models} {actions more : List (Action engine.Template)} :
    Fitting namespaces models (actions ++ more) ↔
      Fitting namespaces models actions ∧
        Fitting namespaces (replay engine models actions) more := by
  induction actions generalizing models with
  | nil => simp [Fitting, replay]
  | cons action rest induction =>
      rw [List.cons_append, Fitting, Fitting, induction, and_assoc]
      rfl

/-- Work goes on from other work by actions that fit. -/
def GoesOn (namespaces : engine.Namespaces) (work next : Work engine) : Prop :=
  ∃ more, next.actions = work.actions ++ more ∧
    next.models = replay engine work.models more ∧ Fitting namespaces work.models more

namespace GoesOn

variable {work middle next : Work engine}

theorem of_eq (sameActions : next.actions = work.actions) (sameModels : next.models = work.models) :
    GoesOn namespaces work next :=
  ⟨[], by rw [sameActions, List.append_nil], sameModels, trivial⟩

theorem trans (first : GoesOn namespaces work middle) (second : GoesOn namespaces middle next) :
    GoesOn namespaces work next := by
  rcases first with ⟨early, didEarly, madeEarly, fitsEarly⟩
  rcases second with ⟨late, didLate, madeLate, fitsLate⟩
  refine ⟨early ++ late, by rw [didLate, didEarly, List.append_assoc], ?_, ?_⟩
  · rw [madeLate, madeEarly, replay, replay, replay, List.foldl_append]
  · rw [fitting_append, ← madeEarly]
    exact ⟨fitsEarly, fitsLate⟩

theorem of_action (action : Action engine.Template)
    (did : next.actions = work.actions ++ [action])
    (made : next.models = register engine work.models action)
    (fits : Fits namespaces work.models action) : GoesOn namespaces work next :=
  ⟨[action], did, made, fits, trivial⟩

end GoesOn

theorem goesOn_readSource (files : FileSystem) (context : Context) (namespaces : engine.Namespaces)
    (work : Work engine) (path : Path) :
    GoesOn namespaces work (readSource files context work path).1 := by
  unfold readSource
  split
  · exact .of_eq rfl rfl
  · unfold readFile
    dsimp only
    split
    · exact .of_action (.read path) rfl rfl trivial
    · exact .of_action (.read path) rfl rfl trivial

theorem goesOn_storeModel (namespaces : engine.Namespaces) (work : Work engine) (path : Path)
    (content : String) : GoesOn namespaces work (storeModel work path content).1 := by
  have asked : GoesOn namespaces work (work.call (.namespaceOf content path)) :=
    .of_action _ rfl rfl trivial
  unfold storeModel
  dsimp only
  split
  · exact asked
  · next name named =>
      have declared := namespaces.namespaceOf _ _ _ _ named
      have looked : GoesOn namespaces work
          ((work.call (.namespaceOf content path)).call (.hasNamespace name)) :=
        asked.trans (.of_action _ rfl rfl trivial)
      split
      · next taken =>
          rw [namespaces.hasNamespace] at taken
          exact looked.trans (.of_action (.call (.update content path)) rfl rfl
            ⟨name, declared, taken⟩)
      · next free =>
          rw [namespaces.hasNamespace, Bool.not_eq_true, Option.isSome_eq_false_iff,
            Option.isNone_iff_eq_none] at free
          exact looked.trans (.of_action (.call (.add content path)) rfl rfl
            ⟨name, declared, free⟩)

theorem goesOn_loadModel (files : FileSystem) (context : Context) (namespaces : engine.Namespaces)
    (work : Work engine) (path : Path) :
    GoesOn namespaces work (loadModel files context work path).1 := by
  have read := goesOn_readSource files context namespaces work path
  unfold loadModel
  split
  · next equal =>
      rw [equal] at read
      exact read
  · next equal =>
      rw [equal] at read
      exact read.trans (goesOn_storeModel namespaces _ path _)

theorem goesOn_endWith (namespaces : engine.Namespaces) (work : Work engine) (context : Context)
    (stage : Stage) (setback : Setback) :
    GoesOn namespaces work (work.endWith context stage setback).1 := by
  cases setback with
  | failure failure => exact .of_eq rfl rfl
  | breakdown => exact .of_eq rfl rfl

/-- However far the files of a stage load, all that is done fits. -/
theorem goesOn_loadAll (files : FileSystem) (context : Context) (namespaces : engine.Namespaces)
    (stage : Stage) (paths : List Path) (work : Work engine) :
    GoesOn namespaces work (loadAll (loadModel files context) context stage paths work).1 := by
  induction paths generalizing work with
  | nil => exact .of_eq rfl rfl
  | cons path rest induction =>
      rw [loadAll_cons]
      split
      · exact .of_eq rfl rfl
      · next marked listed =>
          have lists : GoesOn namespaces work marked := by
            rcases Option.map_eq_some_iff.mp listed with ⟨uri, -, rfl⟩
            exact .of_action (.mark path) rfl rfl trivial
          have loads := goesOn_loadModel files context namespaces marked path
          split
          · next loaded setback equal =>
              rw [equal] at loads
              exact (lists.trans loads).trans (goesOn_endWith namespaces loaded context stage setback)
          · next equal =>
              rw [equal] at loads
              exact (lists.trans loads).trans (induction _)

/-! ## The loading loop -/

/-- The folders in which a pass searches for models. -/
def modelFolders (context : Context) : List Path :=
  Package.searchFolders context.path (context.layout.modelsDirectory context.root)

/-- Clear the registry and load the models that are found below some folders. -/
def loadBelow (files : FileSystem) (context : Context) (folders : List Path) (work : Work engine) :
    Work engine × Half :=
  loadAll (loadModel files context) context .model
    (context.checker.sources.find files folders .models)
    { work.call .clear with models := engine.clear work.models }

theorem start_eq_loadBelow (work : Work engine) :
    start files context work .model =
      asking .resolve (loadBelow files context (modelFolders context) work) := rfl

/-- What the registry holds once all files below some folders have loaded. -/
theorem held_loadBelow {folders : List Path} {work loaded : Work engine}
    (namespaces : engine.Namespaces)
    (ended : loadBelow files context folders work = (loaded, .waiting)) :
    (∀ file ∈ context.checker.sources.find files folders .models,
        ∃ name, DeclaredIn files context namespaces name file ∧
          (namespaces.held loaded.models name).isSome = true) ∧
      ∀ name content, namespaces.held loaded.models name = some content ↔
        Prevails files context namespaces (context.checker.sources.find files folders .models)
          name content := by
  have loads := loads_of_waiting ended
  constructor
  · intro file member
    rcases loads.declared namespaces member with ⟨name, declared⟩
    exact ⟨name, declared, loads.isSome_held member declared⟩
  · intro name content
    exact loads.held_iff (Package.Sources.increasing_find folders) (namespaces.clear _ name) content

/-- Folders that lead to the same files give the same registry. -/
theorem held_eq_of_within (isTree : files.isTree = true) {folders others : List Path}
    (within : files.Within folders others) (back : files.Within others folders)
    {left right first second : Work engine} (namespaces : engine.Namespaces)
    (leftEnded : loadBelow files context folders left = (first, .waiting))
    (rightEnded : loadBelow files context others right = (second, .waiting)) :
    namespaces.held first.models = namespaces.held second.models := by
  rcases held_loadBelow namespaces leftEnded with ⟨leftDeclared, leftHeld⟩
  rcases held_loadBelow namespaces rightEnded with ⟨rightDeclared, rightHeld⟩
  have alike := @Package.Sources.components_find_of_within context.checker.sources files .models
    isTree folders others within back
  have leftKnown : ∀ file ∈ context.checker.sources.find files folders .models,
      ∃ text, context.textOf files file = .ok text := by
    intro file member
    rcases leftDeclared file member with ⟨name, ⟨text, isText, -⟩, -⟩
    exact ⟨text, isText⟩
  have rightKnown : ∀ file ∈ context.checker.sources.find files others .models,
      ∃ text, context.textOf files file = .ok text := by
    intro file member
    rcases rightDeclared file member with ⟨name, ⟨text, isText, -⟩, -⟩
    exact ⟨text, isText⟩
  funext name
  apply Option.ext
  intro content
  rw [leftHeld, rightHeld]
  constructor
  · intro prevails
    exact prevails.respell alike leftKnown rightKnown
  · intro prevails
    exact prevails.respell alike.symm rightKnown leftKnown

/-- What the model stage makes of the registry of models. -/
structure Registration (files : FileSystem) (context : Context) (namespaces : engine.Namespaces)
    (work : Work engine) : Prop where
  /-- However the stage ends, the record tells what became of the registry, and no model is added
  under a namespace that is taken or replaces one under a namespace that is free. -/
  fits : ∃ more, (start files context work .model).1.actions = work.actions ++ more ∧
    (start files context work .model).1.models = replay engine work.models more ∧
    ∀ before action after, more = before ++ action :: after →
      Fits namespaces (replay engine work.models before) action
  /-- The files are in path order, each of them once. -/
  ordered : Ordered.Increasing Path.compare (modelFiles files context)
  /-- When all files have loaded, each of them declares a namespace, and that has a text. -/
  declared : ∀ asked, start files context work .model = (asked, .waiting) →
    ∀ file ∈ modelFiles files context, ∃ name,
      DeclaredIn files context namespaces name file ∧
        (namespaces.held asked.models name).isSome = true
  /-- It is the text of the last file that declares it, and nothing else is held. -/
  held_iff : ∀ asked, start files context work .model = (asked, .waiting) →
    ∀ name content, namespaces.held asked.models name = some content ↔
      Prevails files context namespaces (modelFiles files context) name content
  /-- The same is held after loading from the folders in another order, or from folders that
  overlap in another way. -/
  independent : files.isTree = true → ∀ folders, files.Within folders (modelFolders context) →
    files.Within (modelFolders context) folders →
      ∀ asked, start files context work .model = (asked, .waiting) →
        ∀ other loaded : Work engine,
          loadBelow files context folders other = (loaded, .waiting) →
            namespaces.held loaded.models = namespaces.held asked.models

/-- For every engine with a map of models, and whatever its registries held before. -/
theorem registration (files : FileSystem) (context : Context) (namespaces : engine.Namespaces)
    (work : Work engine) : Registration files context namespaces work where
  fits := by
    have goesOn : GoesOn namespaces work (start files context work .model).1 := by
      have cleared : GoesOn namespaces work
          { work.call .clear with models := engine.clear work.models } :=
        .of_action (.call .clear) rfl rfl trivial
      have loads := cleared.trans (goesOn_loadAll files context namespaces .model
        (modelFiles files context) _)
      rw [start_model_eq]
      generalize loadAll _ _ _ _ _ = ended at loads ⊢
      rcases ended with ⟨loaded, verdict | _⟩
      · exact loads
      · exact loads.trans (.of_action (.call .resolve) rfl rfl trivial)
    rcases goesOn with ⟨more, did, made, fitting⟩
    refine ⟨more, did, made, ?_⟩
    rintro before action after rfl
    exact (fitting_append.mp fitting).2.1
  ordered := Package.Sources.increasing_find _
  declared := by
    intro asked started
    rw [start_eq_loadBelow] at started
    rcases asking_eq_waiting started with ⟨loaded, ended, rfl⟩
    exact (held_loadBelow namespaces ended).1
  held_iff := by
    intro asked started
    rw [start_eq_loadBelow] at started
    rcases asking_eq_waiting started with ⟨loaded, ended, rfl⟩
    exact (held_loadBelow namespaces ended).2
  independent := by
    intro isTree folders within back asked started other loaded again
    rw [start_eq_loadBelow] at started
    rcases asking_eq_waiting started with ⟨first, ended, rfl⟩
    have same := held_eq_of_within isTree within back namespaces again ended
    exact same

/-! A document in a folder inside the folder of the models, that repeats a namespace. -/

namespace Repeats

def inSub : List (String × Entry) := [("c.cto", Drafts.text "namespace x\nconcept Saved")]

def inModels : List (String × Entry) := [
  ("a.cto", Drafts.text "namespace x"),
  ("b.cto", Drafts.text "namespace y"),
  ("sub", .directory inSub)]

def package : FileSystem where
  entries := [("p", .directory [
    ("models", .directory inModels),
    ("package.json", Drafts.text "\x7b\"accordproject\":true\x7d")])]
  workingDirectory := []

def live : Context where
  checker := Drafts.checker
  document := Drafts.document "/p/models/sub/c.cto" "namespace x\nconcept Live"
  path := ⟨"/p/models/sub/c.cto"⟩
  root := ⟨"/p"⟩

/-- Work with a registry that holds models from before. -/
def leftovers : Work Scripted.engine where
  models := [("old", ⟨"/p/models/old.cto"⟩, "namespace old"), ("x", ⟨"/p/x.cto"⟩, "namespace x")]
  logic := []

/-- A text that is stored, and whether it is added. -/
def stored? {template : Type} : Action template → Option (String × Bool)
  | .call (.add content _) => some (content, true)
  | .call (.update content _) => some (content, false)
  | _ => none

theorem nested_sub : package.Nested ⟨"/p/models/sub"⟩ ⟨"/p/models"⟩ := by
  have isOuter : package.entry ⟨"/p/models"⟩ = .ok (.directory inModels) :=
    FileSystem.entry_eq_ok.mpr ⟨["models", "p"], Package.eq_ok_of_toOption (by decide +kernel), rfl⟩
  exact ⟨inModels, inSub, ["sub"], isOuter, rfl, by decide, by decide +kernel⟩

theorem modelFolders_live : modelFolders live = [⟨"/p/models/sub"⟩, ⟨"/p/models"⟩] := by
  decide +kernel

/-- The text in the editor replaces that of the first file, which was added, and loading from the
outer folder alone gives the same registry. -/
theorem registration_repeats :
    Registration package live Scripted.namespaces leftovers ∧
      (start package live leftovers .model).2 = .waiting ∧
      (start package live leftovers .model).1.actions.filterMap stored? =
        [("namespace x", true), ("namespace y", true), ("namespace x\nconcept Live", false)] ∧
      Scripted.textOf (start package live leftovers .model).1.models "x" =
        some "namespace x\nconcept Live" ∧
      Scripted.textOf (start package live leftovers .model).1.models "old" = none ∧
      Scripted.namespaces.held (loadBelow package live [⟨"/p/models"⟩] leftovers).1.models =
        Scripted.namespaces.held (start package live leftovers .model).1.models := by
  have registered := registration package live Scripted.namespaces leftovers
  have waiting : (start package live leftovers .model).2 = .waiting := by decide +kernel
  have again : (loadBelow package live [⟨"/p/models"⟩] leftovers).2 = .waiting := by
    decide +kernel
  have within : package.Within [⟨"/p/models"⟩] (modelFolders live) := by
    rw [modelFolders_live]
    exact fun folder member => ⟨folder, List.mem_cons_of_mem _ member, Or.inl rfl⟩
  have back : package.Within (modelFolders live) [⟨"/p/models"⟩] := by
    rw [modelFolders_live]
    intro folder member
    rcases List.mem_cons.mp member with rfl | outer
    · exact ⟨_, List.mem_cons_self, Or.inr nested_sub⟩
    · exact ⟨folder, outer, Or.inl rfl⟩
  have same := registered.independent (by decide +kernel) [⟨"/p/models"⟩] within back
    (start package live leftovers .model).1 (eq_of_snd waiting) leftovers
    (loadBelow package live [⟨"/p/models"⟩] leftovers).1 (eq_of_snd again)
  exact ⟨registered, waiting, by decide +kernel, by decide +kernel, by decide +kernel, same⟩

end Repeats

end Pass

end TemplateCheck
