import TemplateCheck.Proofs.Engine.Units

/-! # Engines with maps

An engine may keep its registries as maps: definitions by namespace, and units by
path. What it answers then follows from what it is given and from what the maps
hold. Two paths of the same components are one key, and the map keeps one spelling
of it; the order of the units and the spelling of their paths are nothing to the
compiler.
-/

namespace TemplateCheck

/-- What an operation answers, and what can be seen of what it leaves, follow from
what can be seen before it. -/
def Determined {state content : Type} (view : state → content)
    (operation : state → state × Answer) : Prop :=
  ∀ left right, view left = view right →
    (operation left).2 = (operation right).2 ∧
      view (operation left).1 = view (operation right).1

structure Engine.Maps (engine : Engine) where
  Definition : Type
  Code : Type
  /-- What is stored under a namespace. -/
  definition : engine.Models → String → Option Definition
  /-- What is stored under a path, as the path is spelled. -/
  stored : engine.Logic → Path → Option Code
  /-- The unit that a text makes. -/
  code : String → Path → Code
  clear : ∀ models name, definition (engine.clear models) name = none
  namespaceOf : ∀ left right content path,
    engine.namespaceOf left content path = engine.namespaceOf right content path
  hasNamespace : ∀ left right name, definition left = definition right →
    engine.hasNamespace left name = engine.hasNamespace right name
  add : ∀ content path, Determined definition fun models => engine.add models content path
  update : ∀ content path, Determined definition fun models => engine.update models content path
  resolve : Determined definition engine.resolve
  single : ∀ logic left right, left.same right = true → (stored logic left).isSome = true →
    (stored logic right).isSome = true → left = right
  unitPaths : ∀ logic path, path ∈ engine.unitPaths logic ↔ (stored logic path).isSome = true
  removeUnit : ∀ logic path other, stored (engine.removeUnit logic path) other =
    if other.same path = true then none else stored logic other
  updateUnit_answer : ∀ left right content path,
    (engine.updateUnit left content path).2 = (engine.updateUnit right content path).2
  updateUnit_ok : ∀ logic content path, (engine.updateUnit logic content path).2 = .ok () →
    (∀ other, other.same path = false →
      stored (engine.updateUnit logic content path).1 other = stored logic other) ∧
    ∃ own, own.same path = true ∧
      stored (engine.updateUnit logic content path).1 own = some (code content path)
  updateUnit_error : ∀ logic content path, (engine.updateUnit logic content path).2 ≠ .ok () →
    stored (engine.updateUnit logic content path).1 = stored logic
  compile_stored : ∀ logic models strict,
    stored (engine.compile logic models strict).1 = stored logic
  compile_answer : ∀ left right leftModels rightModels strict,
    (∀ path content, (∃ own, own.same path = true ∧ stored left own = some content) ↔
      ∃ own, own.same path = true ∧ stored right own = some content) →
    definition leftModels = definition rightModels →
    (engine.compile left leftModels strict).2 = (engine.compile right rightModels strict).2

/-- The units of an engine with maps. -/
def Engine.Maps.units {engine : Engine} (maps : engine.Maps) : engine.Units where
  Code := maps.Code
  stored := maps.stored
  single := maps.single
  unitPaths := maps.unitPaths
  removeUnit := maps.removeUnit
  updateUnit := by
    intro logic content path ok
    rcases maps.updateUnit_ok logic content path ok with ⟨others, own, same, stored⟩
    exact ⟨others, own, same, by simp [stored]⟩

namespace Pass

variable {engine : Engine} (maps : engine.Maps) (files : FileSystem) (context : Context)

/-! ## Units of a pass -/

/-- A path of a logic file that a pass loads. -/
def Enumerates (path : Path) : Prop :=
  ∃ file ∈ logicFiles files context, path.same file = true

/-- Units that are the same wherever a pass neither replaces nor removes them. -/
def AgreeOutside (left right : engine.Logic) : Prop :=
  ∀ path, ¬ Enumerates files context path →
    (files.isMissing path = false ∨ path.same context.path = true) →
    maps.stored left path = maps.stored right path

/-- What is left at a path once the units without a file are removed. -/
def keptAt (logic : engine.Logic) (path : Path) : Option maps.Code :=
  if isStaleUnit files context path then none else maps.stored logic path

/-- The unit at a path, whatever its spelling. -/
def UnitAt (logic : engine.Logic) (path : Path) (content : maps.Code) : Prop :=
  ∃ own, own.same path = true ∧ maps.stored logic own = some content

/-- The units without a file are removed, and no other. -/
theorem stored_prepare (work : Work engine) (path : Path) :
    maps.stored ((procedure files context .logic).prepare work).logic path =
      keptAt maps files context work.logic path :=
  maps.units.stored_prepare files context work path

/-! ## Two registries at once -/

/-- Two registries to which a pass has given the units of some files, from what it
found in them. -/
structure Loading (first second : engine.Logic) (done : List Path) (left right : engine.Logic) :
    Prop where
  leftKept : ∀ path, ¬ Enumerates files context path →
    maps.stored left path = keptAt maps files context first path
  rightKept : ∀ path, ¬ Enumerates files context path →
    maps.stored right path = keptAt maps files context second path
  loaded : ∀ file ∈ done, ∃ content, UnitAt maps left file content ∧ UnitAt maps right file content

variable {maps files context}

theorem UnitAt.updated {logic : engine.Logic} {file path : Path} {content : maps.Code}
    {text : String} (unit : UnitAt maps logic file content) (apart : file.same path = false)
    (ok : (engine.updateUnit logic text path).2 = .ok ()) :
    UnitAt maps (engine.updateUnit logic text path).1 file content := by
  rcases unit with ⟨own, same, present⟩
  have ownApart : own.same path = false := by
    cases ownSame : own.same path with
    | false => rfl
    | true =>
        rw [Path.same_trans (Path.same_symm same) ownSame] at apart
        cases apart
  exact ⟨own, same, by rw [(maps.updateUnit_ok _ _ _ ok).1 own ownApart, present]⟩

theorem stored_updateUnit {logic : engine.Logic} {path other : Path} {text : String}
    (apart : other.same path = false) :
    maps.stored (engine.updateUnit logic text path).1 other = maps.stored logic other := by
  by_cases ok : (engine.updateUnit logic text path).2 = .ok ()
  · exact (maps.updateUnit_ok _ _ _ ok).1 other apart
  · rw [maps.updateUnit_error _ _ _ ok]

theorem AgreeOutside.keptAt {left right : engine.Logic}
    (agree : AgreeOutside maps files context left right) {path : Path}
    (outside : ¬ Enumerates files context path) :
    Pass.keptAt maps files context left path = Pass.keptAt maps files context right path := by
  unfold Pass.keptAt
  split
  · rfl
  · next stays =>
      apply agree path outside
      simp only [isStaleUnit, Bool.and_eq_true, Bool.not_eq_true'] at stays
      cases own : path.same context.path with
      | true => exact Or.inr rfl
      | false => exact Or.inl (by simpa [own] using stays)

namespace Loading

variable {first second left right : engine.Logic} {done : List Path}

theorem same_of_not_enumerates {path file : Path} (outside : ¬ Enumerates files context path)
    (member : file ∈ logicFiles files context) : path.same file = false := by
  cases same : path.same file with
  | false => rfl
  | true => exact absurd ⟨file, member, same⟩ outside

/-- A file that is not loaded leaves no unit behind. -/
theorem outside (loading : Loading maps files context first second done left right) {path : Path}
    (member : path ∈ logicFiles files context) (text : String) :
    Loading maps files context first second []
      (engine.updateUnit left text path).1 (engine.updateUnit right text path).1 where
  leftKept := by
    intro other isOutside
    rw [stored_updateUnit (same_of_not_enumerates isOutside member)]
    exact loading.leftKept other isOutside
  rightKept := by
    intro other isOutside
    rw [stored_updateUnit (same_of_not_enumerates isOutside member)]
    exact loading.rightKept other isOutside
  loaded := by simp

theorem load (loading : Loading maps files context first second done left right) {path : Path}
    (member : path ∈ logicFiles files context) {text : String}
    (ok : (engine.updateUnit left text path).2 = .ok ()) :
    Loading maps files context first second (done ++ [path])
      (engine.updateUnit left text path).1 (engine.updateUnit right text path).1 where
  leftKept := (loading.outside member text).leftKept
  rightKept := (loading.outside member text).rightKept
  loaded := by
    intro file isDone
    have okRight : (engine.updateUnit right text path).2 = .ok () := by
      rw [← maps.updateUnit_answer left right text path]
      exact ok
    rcases (maps.updateUnit_ok _ _ _ ok).2 with ⟨ownLeft, sameLeft, isLeft⟩
    rcases (maps.updateUnit_ok _ _ _ okRight).2 with ⟨ownRight, sameRight, isRight⟩
    cases same : path.same file with
    | true =>
        exact ⟨maps.code text path, ⟨ownLeft, Path.same_trans sameLeft same, isLeft⟩,
          ⟨ownRight, Path.same_trans sameRight same, isRight⟩⟩
    | false =>
        have apart : file.same path = false := by rw [Path.same_comm]; exact same
        rcases List.mem_append.mp isDone with early | late
        · rcases loading.loaded file early with ⟨content, unitLeft, unitRight⟩
          exact ⟨content, unitLeft.updated apart ok, unitRight.updated apart okRight⟩
        · rw [List.mem_singleton.mp late, Path.same_refl] at apart
          cases apart

theorem forget (loading : Loading maps files context first second done left right) :
    Loading maps files context first second [] left right :=
  ⟨loading.leftKept, loading.rightKept, by simp⟩

/-- Once all files are loaded there is no difference left. -/
theorem unitAt_iff
    (loading : Loading maps files context first second (logicFiles files context) left right)
    (agree : AgreeOutside maps files context first second) (path : Path) (content : maps.Code) :
    UnitAt maps left path content ↔ UnitAt maps right path content := by
  by_cases enumerated : Enumerates files context path
  · rcases enumerated with ⟨file, member, same⟩
    rcases loading.loaded file member with
      ⟨common, ⟨ownLeft, sameLeft, isLeft⟩, ⟨ownRight, sameRight, isRight⟩⟩
    have only : ∀ {logic : engine.Logic} {own : Path}, own.same file = true →
        maps.stored logic own = some common → (UnitAt maps logic path content ↔ content = common) := by
      intro logic own sameOwn isOwn
      constructor
      · rintro ⟨other, sameOther, isOther⟩
        have equal := maps.single logic other own
          (Path.same_trans (Path.same_trans sameOther same) (Path.same_symm sameOwn))
          (by simp [isOther]) (by simp [isOwn])
        rw [equal, isOwn] at isOther
        exact (Option.some.inj isOther).symm
      · rintro rfl
        exact ⟨own, Path.same_trans sameOwn (Path.same_symm same), isOwn⟩
    rw [only sameLeft isLeft, only sameRight isRight]
  · have equal : ∀ own, own.same path = true →
        maps.stored left own = maps.stored right own := by
      intro own same
      have outside : ¬ Enumerates files context own := by
        rintro ⟨file, member, sameFile⟩
        exact enumerated ⟨file, member, Path.same_trans (Path.same_symm same) sameFile⟩
      rw [loading.leftKept own outside, loading.rightKept own outside]
      exact agree.keptAt outside
    constructor
    · rintro ⟨own, same, present⟩
      exact ⟨own, same, by rw [← equal own same, present]⟩
    · rintro ⟨own, same, present⟩
      exact ⟨own, same, by rw [equal own same, present]⟩

end Loading

end Pass

end TemplateCheck
