import TemplateCheck.Engine.Scripted
import TemplateCheck.Proofs.Path.Order

/-! # Engines that keep texts

An engine may keep what it is given: the text of each model under the namespace that the text
declares, and the text of each unit under its path. The scripted engine does.
-/

namespace TemplateCheck

/-- Put a text in its place, and leave all others where they are. -/
def PlacesText {key : Type} (isPlace : key → Bool) (before after : key → Option String)
    (content : String) : Prop :=
  ∀ other, after other = if isPlace other = true then some content else before other

structure Engine.Texts (engine : Engine) where
  /-- The text under a namespace. -/
  model : engine.Models → String → Option String
  /-- The text at a path, whatever its spelling. -/
  unit : engine.Logic → Path → Option String
  namespaceOf : ∀ left right content path,
    engine.namespaceOf left content path = engine.namespaceOf right content path
  add : ∀ models content path name, engine.namespaceOf models content path = .ok name →
    (engine.add models content path).2 = .ok () →
    PlacesText (· == name) (model models) (model (engine.add models content path).1) content
  update : ∀ models content path name, engine.namespaceOf models content path = .ok name →
    (engine.update models content path).2 = .ok () →
    PlacesText (· == name) (model models) (model (engine.update models content path).1) content
  updateUnit : ∀ logic content path, (engine.updateUnit logic content path).2 = .ok () →
    PlacesText (·.same path) (unit logic) (unit (engine.updateUnit logic content path).1) content

/-- An engine whose registry of models is a map from namespaces to texts. A model that is added or
that replaces another one goes under the namespace that is reported for its text. -/
structure Engine.Namespaces (engine : Engine) where
  /-- The text under a namespace. -/
  held : engine.Models → String → Option String
  /-- The namespace that a text declares. -/
  declared : String → Option String
  namespaceOf : ∀ models content path name, engine.namespaceOf models content path = .ok name →
    declared content = some name
  hasNamespace : ∀ models name, engine.hasNamespace models name = (held models name).isSome
  clear : ∀ models name, held (engine.clear models) name = none
  add : ∀ models content path name, engine.namespaceOf models content path = .ok name →
    (engine.add models content path).2 = .ok () →
    PlacesText (· == name) (held models) (held (engine.add models content path).1) content
  update : ∀ models content path name, engine.namespaceOf models content path = .ok name →
    (engine.update models content path).2 = .ok () →
    PlacesText (· == name) (held models) (held (engine.update models content path).1) content

namespace Scripted

def textOf (models : Models) (name : String) : Option String :=
  (Ordered.find? compare name models).map Prod.snd

theorem placesText_put (models : Models) (name content : String) (path : Path) :
    PlacesText (· == name) (textOf models)
      (textOf (Ordered.put compare name (path, content) models)) content := by
  intro other
  simp only [textOf, Ordered.find?_put Ordered.lawful, Std.LawfulEqOrd.compare_eq_iff_eq,
    beq_iff_eq]
  split
  · rfl
  · rfl

/-- A model that is stored is stored under its namespace. -/
theorem placesText_store {operation : String} {models : Models} {content name : String} {path : Path}
    (named : namespaceOf content path = .ok name)
    (stored : (store operation models content path).2 = .ok ()) :
    PlacesText (· == name) (textOf models) (textOf (store operation models content path).1)
      content := by
  unfold store at stored ⊢
  cases obeyed : Directive.obey operation content with
  | error setback => simp [obeyed, bind, Except.bind] at stored
  | ok _ =>
      simp only [named, bind, Except.bind]
      exact placesText_put models name content path

theorem placesText_updateUnit {logic : Logic} {content : String} {path : Path}
    (stored : (updateUnit logic content path).2 = .ok ()) :
    PlacesText (·.same path) (fun other => Ordered.find? Path.compare other logic)
      (fun other => Ordered.find? Path.compare other (updateUnit logic content path).1)
      content := by
  intro other
  unfold updateUnit at stored ⊢
  cases obeyed : Directive.obey "update_unit" content with
  | error setback => simp [obeyed] at stored
  | ok _ => simp only [Ordered.find?_put Ordered.lawful, Path.compare_eq_iff]

def texts : engine.Texts where
  model := textOf
  unit logic path := Ordered.find? Path.compare path logic
  namespaceOf _ _ _ _ := rfl
  add _ _ _ _ := placesText_store
  update _ _ _ _ := placesText_store
  updateUnit _ _ _ := placesText_updateUnit

theorem namespace?_of_namespaceOf {content name : String} {path : Path}
    (named : namespaceOf content path = .ok name) : Directive.namespace? content = some name := by
  unfold namespaceOf at named
  cases obeyed : Directive.obey "namespace_of" content with
  | error setback => simp [obeyed, bind, Except.bind] at named
  | ok _ =>
      simp only [obeyed, bind, Except.bind] at named
      split at named
      · next own found =>
          cases named
          exact found
      · cases named

theorem hasNamespace_eq (models : Models) (name : String) :
    hasNamespace models name = (textOf models name).isSome := by
  simp only [textOf, Option.isSome_map, Ordered.isSome_find?, hasNamespace]
  congr 1
  funext entry
  rw [Bool.eq_iff_iff, beq_iff_eq, beq_iff_eq, Std.LawfulEqOrd.compare_eq_iff_eq]
  exact eq_comm

def namespaces : engine.Namespaces where
  held := textOf
  declared := Directive.namespace?
  namespaceOf _ _ _ _ := namespace?_of_namespaceOf
  hasNamespace := hasNamespace_eq
  clear _ _ := rfl
  add _ _ _ _ := placesText_store
  update _ _ _ _ := placesText_store

end Scripted

end TemplateCheck
