import TemplateCheck.Proofs.Engine.Shelf
import TemplateCheck.Proofs.FileSystem.Missing
import TemplateCheck.Proofs.Package.Manifest
import TemplateCheck.Proofs.Pass.LiveText
import TemplateCheck.Proofs.Pass.Recall

/-! # Units whose files are gone

When a pass compiles, every logic file that it found has a unit, and the unit of any other file is
as it was before the pass. A unit whose file is known to be missing is gone, but one whose look-up
fails in another way stays. This is so for a unit below a path at which there is a plain file now,
and such units are all that is registered without a file.
-/

namespace TemplateCheck.Pass

section

variable {engine : Engine} {files : FileSystem} {context : Context}

/-- There is a file at a path, in whatever spelling. -/
def Present (files : FileSystem) (path : Path) : Prop :=
  ∃ own, own.same path = true ∧ files.exists? own = true

/-- A path without a file that a pass takes for one that may have a file. -/
structure Lingers (files : FileSystem) (context : Context) (path : Path) : Prop where
  notOwn : path.same context.path = false
  absent : ¬ Present files path
  unknown : files.isMissing path = false

theorem isMissing_of_present {path : Path} (present : Present files path) :
    files.isMissing path = false := by
  rcases present with ⟨own, same, there⟩
  exact FileSystem.isMissing_of_same same there

/-- A file that is there is found by the components of its path. -/
theorem not_present_of_follow {path : Path} {fault : FileFault}
    (fails : files.follow FileSystem.greatestLinkCount (files.startOf path)
      (path.components.map Path.Component.segment) = .error fault) : ¬ Present files path := by
  rintro ⟨own, same, there⟩
  rcases FileSystem.exists?_iff.mp there with ⟨found, isFound⟩
  rcases FileSystem.entry_eq_ok.mp isFound with ⟨place, resolved, -⟩
  have came := FileSystem.follow_components resolved
  rw [Path.same_iff.mp same, FileSystem.startOf_congr (Path.isAbsolute_of_same same), fails] at came
  cases came

theorem isStaleUnit_iff {path : Path} :
    isStaleUnit files context path = true ↔
      path.same context.path = false ∧ files.isMissing path = true := by
  simp [isStaleUnit]

/-! ## Loading units -/

/-- There is a unit at a path, in whatever spelling. -/
def HasUnit (units : engine.Units) (logic : engine.Logic) (path : Path) : Prop :=
  ∃ own, own.same path = true ∧ (units.stored logic own).isSome = true

/-- A file that loads has a unit then, and the units at other paths are as before. -/
theorem loadUnit_units (units : engine.Units) {work marked loaded : Work engine} {path : Path}
    (listed : work.mark? context path = some marked)
    (answered : loadUnit files context marked path = (loaded, .ok ())) :
    HasUnit units loaded.logic path ∧
      ∀ other, other.same path = false →
        units.stored loaded.logic other = units.stored work.logic other := by
  rcases loadUnit_ok answered with ⟨content, -, updated, -⟩
  rw [(@mark?_unchanged _ _ .logic _ _ _ listed).2.1] at updated
  have stores := units.updateUnit work.logic content path (by rw [updated])
  rw [updated] at stores
  exact ⟨stores.2, stores.1⟩

theorem HasUnit.loaded {units : engine.Units} {work marked loaded : Work engine}
    {path other : Path} (hasUnit : HasUnit units work.logic other)
    (listed : work.mark? context path = some marked)
    (answered : loadUnit files context marked path = (loaded, .ok ())) :
    HasUnit units loaded.logic other := by
  rcases loadUnit_units units listed answered with ⟨⟨own, sameOwn, stored⟩, others⟩
  by_cases same : other.same path = true
  · exact ⟨own, Path.same_trans sameOwn (Path.same_symm same), stored⟩
  · rcases hasUnit with ⟨held, sameHeld, isHeld⟩
    have apart : held.same path = false := by
      rw [Bool.eq_false_iff]
      intro samePath
      exact same (Path.same_trans (Path.same_symm sameHeld) samePath)
    exact ⟨held, sameHeld, by rw [others held apart]; exact isHeld⟩

theorem Loads.hasUnit {work loaded : Work engine} {paths : List Path}
    (loads : Loads (loadUnit files context) context work paths loaded) (units : engine.Units)
    {path : Path}
    (reached : path ∈ paths ∨ HasUnit units work.logic path) :
    HasUnit units loaded.logic path := by
  induction loads with
  | done work => exact reached.resolve_left List.not_mem_nil
  | @next work marked loaded last file rest listed answered later induction =>
      rcases reached with member | hasUnit
      · rcases List.mem_cons.mp member with rfl | further
        · exact induction (Or.inr (loadUnit_units units listed answered).1)
        · exact induction (Or.inl further)
      · exact induction (Or.inr (hasUnit.loaded listed answered))

theorem Loads.stored_eq {work loaded : Work engine} {paths : List Path}
    (loads : Loads (loadUnit files context) context work paths loaded) (units : engine.Units)
    {path : Path} (apart : ∀ file ∈ paths, path.same file = false) :
    units.stored loaded.logic path = units.stored work.logic path := by
  induction loads with
  | done work => rfl
  | next listed answered later induction =>
      rw [induction fun file member => apart file (List.mem_cons_of_mem _ member),
        (loadUnit_units units listed answered).2 path (apart _ List.mem_cons_self)]

/-- A file that loads is there, unless it is the document. -/
theorem Loads.present {work loaded : Work engine} {paths : List Path}
    (loads : Loads (loadUnit files context) context work paths loaded) {file : Path}
    (member : file ∈ paths) : file.same context.path = true ∨ Present files file := by
  rcases @Loads.supplies _ _ _ .logic _ _ _ loads with ⟨sources, rfl, texts, -⟩
  rcases List.mem_map.mp member with ⟨source, isSource, rfl⟩
  have text := texts source isSource
  unfold Context.textOf at text
  split at text
  · next own => exact Or.inl own
  · rcases FileSystem.readText_eq_ok.mp text with ⟨content, found, -⟩
    exact Or.inr ⟨source.1, Path.same_refl _, FileSystem.exists?_iff.mpr ⟨_, found⟩⟩

/-! ## What a pass compiles -/

/-- The units before a pass and those that it compiles. -/
structure Pruned (units : engine.Units) (files : FileSystem) (context : Context)
    (before after : engine.Logic) : Prop where
  /-- Every file that is found has a unit. -/
  loaded : ∀ file ∈ logicFiles files context, ∃ own ∈ engine.unitPaths after, own.same file = true
  /-- A unit of a file that is there and is not found stays as it was. -/
  spared : ∀ path, ¬ Enumerates files context path →
    Present files path ∨ path.same context.path = true →
    units.stored after path = units.stored before path
  /-- The units that are left without a file are those whose files are not known to be missing. -/
  kept : ∀ path, (path ∈ engine.unitPaths after ∧
      ¬ (path.same context.path = true ∨ Present files path)) ↔
    path ∈ engine.unitPaths before ∧ Lingers files context path
  condition : (∀ path ∈ engine.unitPaths after,
      path.same context.path = true ∨ Present files path) ↔
    ∀ path ∈ engine.unitPaths before, ¬ Lingers files context path
  /-- Below a folder that is missing no unit is left. -/
  orphaned : ∀ folder rest : Path, folder.isAbsolute = true → rest.isAbsolute = false →
    files.isMissing folder = true → folder.join rest ∈ engine.unitPaths after →
    (folder.join rest).same context.path = true ∨
      ∃ fault, FileSystem.Unfit fault ∧ files.entry (folder.join rest) = .error fault
  /-- Below a plain file every unit is left. -/
  misplaced : ∀ (folder rest : Path) (content : List UInt8), rest.isAbsolute = false →
    files.entry folder = .ok (.file content) → ¬ Enumerates files context (folder.join rest) →
    folder.join rest ∈ engine.unitPaths before → folder.join rest ∈ engine.unitPaths after

theorem same_of_mem_logicFiles {path file : Path} (outside : ¬ Enumerates files context path)
    (member : file ∈ logicFiles files context) : path.same file = false := by
  rw [Bool.eq_false_iff]
  intro same
  exact outside ⟨file, member, same⟩

/-- What is compiled at a path that is not found. -/
theorem Loads.compiled {work loaded : Work engine}
    (loads : Loads (loadUnit files context) context
      ((procedure files context .logic).prepare work) (logicFiles files context) loaded)
    (units : engine.Units) {path : Path} (outside : ¬ Enumerates files context path) :
    units.stored loaded.logic path = units.keptAt files context work.logic path := by
  rw [loads.stored_eq units fun file member => same_of_mem_logicFiles outside member,
    units.stored_prepare]

theorem Loads.mem_unitPaths {work loaded : Work engine}
    (loads : Loads (loadUnit files context) context
      ((procedure files context .logic).prepare work) (logicFiles files context) loaded)
    (units : engine.Units) {path : Path} (outside : ¬ Enumerates files context path) :
    path ∈ engine.unitPaths loaded.logic ↔
      path ∈ engine.unitPaths work.logic ∧ isStaleUnit files context path = false := by
  rw [units.unitPaths, units.unitPaths, loads.compiled units outside, Engine.Units.keptAt]
  cases isStaleUnit files context path <;> simp

theorem Loads.present_of_enumerates {work loaded : Work engine}
    (loads : Loads (loadUnit files context) context work (logicFiles files context) loaded)
    {path : Path} (enumerated : Enumerates files context path) :
    path.same context.path = true ∨ Present files path := by
  rcases enumerated with ⟨file, member, same⟩
  rcases loads.present member with own | ⟨spelling, sameFile, there⟩
  · exact Or.inl (Path.same_trans same own)
  · exact Or.inr ⟨spelling, Path.same_trans sameFile (Path.same_symm same), there⟩

theorem Loads.pruned {work loaded : Work engine}
    (loads : Loads (loadUnit files context) context
      ((procedure files context .logic).prepare work) (logicFiles files context) loaded)
    (units : engine.Units) : Pruned units files context work.logic loaded.logic := by
  have kept : ∀ path, (path ∈ engine.unitPaths loaded.logic ∧
      ¬ (path.same context.path = true ∨ Present files path)) ↔
      path ∈ engine.unitPaths work.logic ∧ Lingers files context path := by
    intro path
    constructor
    · rintro ⟨member, without⟩
      have outside : ¬ Enumerates files context path :=
        fun enumerated => without (loads.present_of_enumerates enumerated)
      rcases (loads.mem_unitPaths units outside).mp member with ⟨before, notStale⟩
      have notOwn : path.same context.path = false :=
        Bool.eq_false_iff.mpr fun own => without (Or.inl own)
      refine ⟨before, notOwn, fun present => without (Or.inr present), ?_⟩
      rw [Bool.eq_false_iff]
      intro missing
      rw [isStaleUnit_iff.mpr ⟨notOwn, missing⟩] at notStale
      cases notStale
    · rintro ⟨before, lingers⟩
      have without : ¬ (path.same context.path = true ∨ Present files path) := by
        simp [lingers.notOwn, lingers.absent]
      have outside : ¬ Enumerates files context path :=
        fun enumerated => without (loads.present_of_enumerates enumerated)
      refine ⟨(loads.mem_unitPaths units outside).mpr ⟨before, ?_⟩, without⟩
      rw [Bool.eq_false_iff]
      intro stale
      have missing := (isStaleUnit_iff.mp stale).2
      rw [lingers.unknown] at missing
      cases missing
  refine ⟨?loaded, ?spared, kept, ?condition, ?orphaned, ?misplaced⟩
  case loaded =>
    intro file member
    rcases loads.hasUnit units (Or.inl member) with ⟨own, same, stored⟩
    exact ⟨own, (units.unitPaths _ _).mpr stored, same⟩
  case spared =>
    intro path outside there
    rw [loads.compiled units outside, Engine.Units.keptAt, if_neg]
    intro stale
    rcases isStaleUnit_iff.mp stale with ⟨notOwn, missing⟩
    rcases there with present | own
    · rw [isMissing_of_present present] at missing
      cases missing
    · rw [own] at notOwn
      cases notOwn
  case condition =>
    constructor
    · intro all path before lingers
      rcases (kept path).mpr ⟨before, lingers⟩ with ⟨after, without⟩
      exact without (all path after)
    · intro none path after
      by_contra without
      rcases (kept path).mp ⟨after, without⟩ with ⟨before, lingers⟩
      exact none path before lingers
  case orphaned =>
    intro folder rest absolute relative missing after
    by_cases own : (folder.join rest).same context.path = true
    · exact Or.inl own
    · refine Or.inr ?_
      rcases FileSystem.entry_below_missing absolute relative missing with
        ⟨fault, fails, rfl | unfit⟩
      · have isMissing : files.isMissing (folder.join rest) = true := by
          simp [FileSystem.isMissing, fails]
        have absent : ¬ Present files (folder.join rest) := by
          intro present
          rw [isMissing_of_present present] at isMissing
          cases isMissing
        rcases (kept _).mp ⟨after, fun there => there.elim own absent⟩ with ⟨-, lingers⟩
        rw [lingers.unknown] at isMissing
        cases isMissing
      · exact ⟨fault, unfit, fails⟩
  case misplaced =>
    intro folder rest content relative isFile outside before
    rw [loads.mem_unitPaths units outside]
    refine ⟨before, ?_⟩
    rw [Bool.eq_false_iff]
    intro stale
    rcases FileSystem.entry_below_file relative isFile with ⟨fault, fails, known⟩
    have notMissing : files.isMissing (folder.join rest) = false := by
      refine FileSystem.isMissing_of_error fails ?_
      rintro rfl
      rcases known with isDirectory | nul | long
      · cases isDirectory
      · cases nul
      · cases long
    rw [(isStaleUnit_iff.mp stale).2] at notMissing
    cases notMissing

/-! ## The compile call of a pass -/

theorem readSource_logic (work : Work engine) (path : Path) :
    (readSource files context work path).1.logic = work.logic := by
  unfold readSource readFile
  split
  · rfl
  · dsimp only
    split <;> rfl

theorem storeModel_logic (work : Work engine) (path : Path) (content : String) :
    (storeModel work path content).1.logic = work.logic := by
  unfold storeModel
  dsimp only
  split
  · rfl
  · split <;> rfl

theorem loadModel_logic (work : Work engine) (path : Path) :
    (loadModel files context work path).1.logic = work.logic := by
  have reads := @readSource_logic _ files context work path
  unfold loadModel
  split
  · next equal =>
      rw [equal] at reads
      exact reads
  · next equal =>
      rw [equal] at reads
      rw [storeModel_logic]
      exact reads

theorem Loads.logic_eq {work loaded : Work engine} {paths : List Path}
    (loads : Loads (loadModel files context) context work paths loaded) :
    loaded.logic = work.logic := by
  induction loads with
  | done work => rfl
  | @next work marked loaded last path rest listed answered later induction =>
      have kept := @loadModel_logic _ files context marked path
      rw [answered] at kept
      rw [induction, kept, (@mark?_unchanged _ _ .logic _ _ _ listed).2.1]

/-- A model stage that passes leaves the units alone. -/
theorem Course.logic_eq {work result : Work engine} {tried : List Path}
    (course : Course files context .model work tried (.ok ()) result) :
    result.logic = work.logic := by
  cases course with
  | @answered loaded result answer loads answers =>
      have kept : loaded.logic = work.logic := loads.logic_eq
      have same := congrArg (fun outcome => outcome.1.logic) answers
      exact same.symm.trans kept

/-- What a pass does before it compiles: its model stage passes, and the logic files load. -/
structure Compiles (files : FileSystem) (context : Context) (registries : Registries engine)
    (asked : Work engine) : Prop where
  reached : ∃ begun, Passed files context registries.fresh [.model] begun ∧
    start files context begun .logic = (asked, .waiting)

theorem settle_actions (context : Context) (looked : List (Stage × List Path))
    (work : Work engine) (ended : Option (Stage × Setback)) :
    (settle context looked work ended).1.actions = work.actions := by
  rcases ended with _ | ⟨stage, failure | _⟩ <;> rfl

theorem model_before_logic {kind : Package.SourceKind} {past rest : List Stage}
    (split : stagesFor kind = past ++ .logic :: rest) : past = [.model] := by
  have once := stagesFor_nodup kind
  rw [split, List.nodup_append] at once
  have notPast : .logic ∉ past := fun member => once.2.2 _ member _ List.mem_cons_self rfl
  have notRest : .logic ∉ rest := (List.nodup_cons.mp once.2.1).1
  have reached : .logic ∈ stagesFor kind := by simp [split]
  have first : ∃ others, stagesFor kind = [.model] ++ .logic :: others := by
    cases kind with
    | model => exact ⟨_, rfl⟩
    | logic => exact ⟨_, rfl⟩
    | grammar => exact absurd reached (by decide)
    | other => exact absurd reached (by decide)
  rcases first with ⟨others, first⟩
  exact ((List.append_cons_inj_of_notMem notPast notRest).mp (split.symm.trans first)).1

/-- The units are the same before and after the model stage of a pass. -/
theorem Passed.logic_eq (sited : context.Sited files) {begun work : Work engine}
    (passed : Passed files context begun [.model] work) : work.logic = begun.logic := by
  rcases passed_cons.mp passed with ⟨middle, ran, rest⟩
  cases rest
  have ready : Ready begun .model := nofun
  rcases course_runStage sited ready with ⟨tried, answer, result, course, concluded⟩
  rw [concluded] at ran
  rcases answer with setback | _
  · exact absurd (congrArg Prod.snd ran) (endWith_ne_passed context result .model setback)
  · cases ran
    exact course.logic_eq

/-- For every engine with a map of units, and whatever the registries held before. -/
theorem pruned_validate (units : engine.Units) {checker : Checker} {document : Document}
    {registries : Registries engine} {strict : Bool}
    (arrived : arrive files checker document = .ok context)
    (compiled : .call (.compile strict) ∈ (validate files checker document registries).actions) :
    ∃ asked, Compiles files context registries asked ∧
      Pruned units files context registries.logic asked.logic := by
  have sited := (sited_of_arrive arrived).1
  have equal : validate files checker document registries = run files context registries := by
    simp only [validate, arrived]
  rcases journey_stagesFor sited registries List.prefix_rfl with
    ⟨looked, setback, last, journey, ran⟩
  have begins : Passed files context registries.fresh [] registries.fresh := rfl
  rcases journey.traced begins with ⟨more, did, traced⟩
  have actions : (run files context registries).actions = more := by
    have recorded := settle_actions context looked last setback
    rw [← ran, did] at recorded
    exact recorded
  rw [equal, actions] at compiled
  rcases List.append_of_mem compiled with ⟨before, after, split⟩
  rcases traced.asked .logic _ before after rfl rfl split with
    ⟨past, rest, begun, stages, passed, loaded, loads, -⟩
  cases model_before_logic stages
  refine ⟨loaded.pose (procedure files context .logic).question, ⟨begun, passed, ?_⟩, ?_⟩
  · rw [start_eq_loadAll, loads.loadAll_eq]
  · have pruned := loads.pruned units
    rw [passed.logic_eq sited] at pruned
    exact pruned

end

namespace Leftovers

/-! Three units of earlier passes: the file of the first one is gone, that of the second one is
there, and where the folder of the third one was there is a plain file now. -/

def leftBehind : Registries Shelf.engine :=
  ⟨[], [(⟨"/p/gone.ergo"⟩, "alpha"), (⟨"/p/kept.ergo"⟩, "alpha"),
    (⟨"/p/kept.ergo/old.ergo"⟩, "alpha")]⟩

instance : DecidableEq Shelf.engine.Template :=
  inferInstanceAs (DecidableEq Unit)

theorem pruned_leftBehind :
    ∃ asked, Compiles files context leftBehind asked ∧
      Pruned Shelf.maps.units files context leftBehind.logic asked.logic := by
  have compiled : .call (.compile true) ∈
      (validate files checker document leftBehind).actions := by
    decide +kernel
  exact pruned_validate Shelf.maps.units arrived compiled

/-- The work once the models have passed. -/
def begun : Work Shelf.engine :=
  (runStages files context [.model] leftBehind.fresh).1

/-- The work with which the logic is compiled. -/
def asked : Work Shelf.engine :=
  (start files context begun .logic).1

theorem compiles_leftBehind : Compiles files context leftBehind asked := by
  have passed : (runStages files context [.model] leftBehind.fresh).2 =
      some [⟨.model, true⟩] := by
    decide +kernel
  have waiting : (start files context begun .logic).2 = .waiting := by decide +kernel
  refine ⟨begun, ?_, ?_⟩
  · unfold Passed begun
    exact eq_of_snd passed
  · unfold asked
    exact eq_of_snd waiting

/-- The unit below the plain file is compiled, though it has no file. -/
theorem compiled_without_file :
    Compiles files context leftBehind asked ∧
      ⟨"/p/kept.ergo/old.ergo"⟩ ∈ Shelf.unitPaths asked.logic ∧
      (Path.mk "/p/kept.ergo/old.ergo").same context.path = false ∧
      ¬ Present files ⟨"/p/kept.ergo/old.ergo"⟩ ∧
      files.isDirectory ⟨"/p/kept.ergo"⟩ = false ∧
      ⟨"/p/gone.ergo"⟩ ∉ Shelf.unitPaths asked.logic := by
  have fails : files.follow FileSystem.greatestLinkCount
      (files.startOf ⟨"/p/kept.ergo/old.ergo"⟩)
      ((Path.mk "/p/kept.ergo/old.ergo").components.map Path.Component.segment) =
        .error .notDirectory := by
    decide +kernel
  exact ⟨compiles_leftBehind, by decide +kernel, by decide +kernel,
    not_present_of_follow fails, by decide +kernel, by decide +kernel⟩

end Leftovers

end TemplateCheck.Pass
