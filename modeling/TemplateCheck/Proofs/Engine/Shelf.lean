import TemplateCheck.Proofs.Engine.Maps

/-! # An engine with maps

An engine that keeps all texts it was given on a shelf, the newest in front. It
compiles if every unit names a namespace of the models. Its registries behave as
maps, whatever is on the shelf.
-/

namespace TemplateCheck.Shelf

abbrev Logic := List (Path × String)

/-- The newest text of a path, if it was given with this spelling. -/
def lookup (logic : Logic) (path : Path) : Option String :=
  match logic.find? fun entry => entry.1.same path with
  | some (own, content) => if own = path then some content else none
  | none => none

def unitPaths (logic : Logic) : List Path :=
  (logic.map Prod.fst).filter fun path => (lookup logic path).isSome

/-- Every unit names a namespace of the models. -/
def compiles (logic : Logic) (models : List String) : Bool :=
  (unitPaths logic).all fun path => (lookup logic path).all models.contains

def rejected : Setback := .failure { message := "rejected" }

def engine : Engine where
  Models := List String
  Logic := Logic
  Template := Unit
  newModels := []
  newLogic := []
  clear _ := []
  namespaceOf _ content _ := .ok content
  hasNamespace models name := models.contains name
  add models content _ := (content :: models, .ok ())
  update models _ _ := (models, .ok ())
  resolve models := (models, .ok ())
  updateUnit logic content path :=
    if content = "" then (logic, .error rejected) else ((path, content) :: logic, .ok ())
  removeUnit logic path := logic.filter fun entry => !entry.1.same path
  unitPaths := unitPaths
  compile logic models _ :=
    (logic, if compiles logic models then .ok () else .error rejected)
  loadTemplate _ _ := .ok ()
  buildGrammar template _ := (template, .ok ())
  validate _ := .ok ()
  parseSample _ _ := .ok ()

theorem lookup_eq_some {logic : Logic} {path : Path} {content : String} :
    lookup logic path = some content ↔
      (logic.find? fun entry => entry.1.same path) = some (path, content) := by
  unfold lookup
  cases found : logic.find? fun entry => entry.1.same path with
  | none => simp
  | some entry =>
      rcases entry with ⟨own, other⟩
      by_cases isOwn : own = path
      · simp [isOwn]
      · simp [isOwn]

theorem find?_of_same {left right : Path} (same : left.same right = true) (logic : Logic) :
    (logic.find? fun entry => entry.1.same left) = logic.find? fun entry => entry.1.same right := by
  congr 1
  funext entry
  rw [Bool.eq_iff_iff]
  exact ⟨fun isSame => Path.same_trans isSame same,
    fun isSame => Path.same_trans isSame (Path.same_symm same)⟩

theorem mem_unitPaths {logic : Logic} {path : Path} :
    path ∈ unitPaths logic ↔ (lookup logic path).isSome = true := by
  constructor
  · intro member
    exact (List.mem_filter.mp member).2
  · intro present
    rcases Option.isSome_iff_exists.mp present with ⟨content, found⟩
    have member := List.mem_of_find?_eq_some (lookup_eq_some.mp found)
    exact List.mem_filter.mpr ⟨List.mem_map_of_mem member, present⟩

theorem lookup_filter (logic : Logic) (path other : Path) :
    lookup (logic.filter fun entry => !entry.1.same path) other =
      if other.same path = true then none else lookup logic other := by
  have found : ((logic.filter fun entry => !entry.1.same path).find?
      fun entry => entry.1.same other) =
      if other.same path = true then none else logic.find? fun entry => entry.1.same other := by
    rw [List.find?_filter]
    split
    · next same =>
        apply List.find?_eq_none.mpr
        intro entry _ both
        simp only [Bool.not_eq_eq_eq_not, Bool.not_true, decide_eq_true_eq] at both
        rw [Path.same_trans both.2 same] at both
        cases both.1
    · next apart =>
        congr 1
        funext entry
        cases isOther : entry.1.same other with
        | false => simp
        | true =>
            have notPath : entry.1.same path = false := by
              cases isPath : entry.1.same path with
              | false => rfl
              | true => exact absurd (Path.same_trans (Path.same_symm isOther) isPath) apart
            simp [notPath]
  unfold lookup
  rw [found]
  cases other.same path with
  | true => simp
  | false => simp

theorem lookup_cons (logic : Logic) (path other : Path) (content : String) :
    lookup ((path, content) :: logic) other =
      if path.same other = true then (if path = other then some content else none)
      else lookup logic other := by
  unfold lookup
  rw [List.find?_cons]
  cases path.same other with
  | true => simp
  | false => simp

theorem compiles_iff {logic : Logic} {models : List String} :
    compiles logic models = true ↔
      ∀ path content, (∃ own : Path, own.same path = true ∧ lookup logic own = some content) →
        content ∈ models := by
  simp only [compiles, List.all_eq_true]
  constructor
  · rintro all path content ⟨own, _, found⟩
    have passes := all own (mem_unitPaths.mpr (by simp [found]))
    simpa [found] using passes
  · intro all path member
    rcases Option.isSome_iff_exists.mp (mem_unitPaths.mp member) with ⟨content, found⟩
    simpa [found] using all path content ⟨path, Path.same_refl path, found⟩

/-- What the models hold under a namespace. -/
def definition (models : List String) (name : String) : Option Unit :=
  if name ∈ models then some () else none

theorem definition_eq_some {models : List String} {name : String} :
    definition models name = some () ↔ name ∈ models := by
  simp [definition]

theorem definition_eq_iff {left right : List String} :
    definition left = definition right ↔ ∀ name, name ∈ left ↔ name ∈ right := by
  constructor
  · intro same name
    rw [← definition_eq_some, ← definition_eq_some, same]
  · intro same
    funext name
    simp only [definition, same name]

theorem contains_eq {left right : List String} (same : definition left = definition right)
    (name : String) : left.contains name = right.contains name := by
  rw [Bool.eq_iff_iff, List.contains_iff_mem, List.contains_iff_mem]
  exact definition_eq_iff.mp same name

theorem definition_cons {left right : List String} (same : definition left = definition right)
    (content : String) : definition (content :: left) = definition (content :: right) := by
  apply definition_eq_iff.mpr
  intro name
  rw [List.mem_cons, List.mem_cons, definition_eq_iff.mp same name]

theorem eq_of_same {logic : Logic} {left right : Path} (same : left.same right = true)
    (isLeft : (lookup logic left).isSome = true) (isRight : (lookup logic right).isSome = true) :
    left = right := by
  rcases Option.isSome_iff_exists.mp isLeft with ⟨leftContent, foundLeft⟩
  rcases Option.isSome_iff_exists.mp isRight with ⟨rightContent, foundRight⟩
  rw [lookup_eq_some, find?_of_same same] at foundLeft
  rw [lookup_eq_some, foundLeft] at foundRight
  exact congrArg Prod.fst (Option.some.inj foundRight)

theorem compiles_eq {left right : Logic} {leftModels rightModels : List String}
    (units : ∀ path content,
      (∃ own : Path, own.same path = true ∧ lookup left own = some content) ↔
        ∃ own : Path, own.same path = true ∧ lookup right own = some content)
    (models : definition leftModels = definition rightModels) :
    compiles left leftModels = compiles right rightModels := by
  rw [Bool.eq_iff_iff, compiles_iff, compiles_iff]
  simp only [units, definition_eq_iff.mp models]

def maps : engine.Maps where
  Definition := Unit
  Code := String
  definition := definition
  stored := lookup
  code content _ := content
  clear _ _ := rfl
  namespaceOf _ _ _ _ := rfl
  hasNamespace _ _ name same := contains_eq same name
  add content _ _ _ same := ⟨rfl, definition_cons same content⟩
  update _ _ _ _ same := ⟨rfl, same⟩
  resolve _ _ same := ⟨rfl, same⟩
  single _ _ _ := eq_of_same
  unitPaths _ _ := mem_unitPaths
  removeUnit := lookup_filter
  updateUnit_answer left right content path := by
    dsimp only [engine]
    split
    · rfl
    · rfl
  updateUnit_ok logic content path := by
    dsimp only [engine]
    split
    · nofun
    · intro _
      refine ⟨?_, path, Path.same_refl path, ?_⟩
      · intro other apart
        refine (lookup_cons logic path other content).trans (if_neg ?_)
        rw [Path.same_comm, apart]
        exact Bool.false_ne_true
      · refine (lookup_cons logic path path content).trans ?_
        rw [if_pos (Path.same_refl path), if_pos rfl]
  updateUnit_error logic content path := by
    dsimp only [engine]
    split
    · exact fun _ => rfl
    · exact fun failed => absurd rfl failed
  compile_stored _ _ _ := rfl
  compile_answer left right _ _ _ units models := by
    have same := compiles_eq units models
    dsimp only [engine]
    rw [same]

end TemplateCheck.Shelf
