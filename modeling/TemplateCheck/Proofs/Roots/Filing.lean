import TemplateCheck.Proofs.Roots.Bookkeeping
import TemplateCheck.Roots.Handle

/-! # Handles and their roots

A store makes handles as its cache asks for them, and never takes one back. So the cache, the
roots of the handles and those who hold them can be followed through a request together.
-/

namespace TemplateCheck.Roots.Store

variable {engine : Engine}

theorem request_cache (store : Store engine) (held : Nat → Bool) (root : Path) :
    (store.request held root).1.cache =
      (store.cache.request held store.handles.length root).1 := by
  simp only [request]
  split <;> rfl

theorem request_chosen (store : Store engine) (held : Nat → Bool) (root : Path) :
    (store.request held root).2.1 = (store.cache.request held store.handles.length root).2 := by
  simp only [request]
  split <;> rfl

/-- A request makes at most one new handle, and changes no other. -/
theorem handle?_request (store : Store engine) (held : Nat → Bool) (root : Path) (number : Nat) :
    (store.request held root).1.handle? number =
      if number = store.handles.length ∧ (store.request held root).2.1 = store.handles.length
      then some (.fresh engine root) else store.handle? number := by
  simp only [request]
  by_cases isNew : (store.cache.request held store.handles.length root).2 = store.handles.length
  · by_cases last : number = store.handles.length
    · simp [handle?, isNew, last]
    · simp only [isNew, last, handle?, if_true, false_and, if_false, List.getElem?_append]
      split
      · rfl
      · next outside =>
          have beyond : store.handles.length < number := by omega
          simp [List.getElem?_eq_none (Nat.le_of_lt beyond),
            Nat.sub_ne_zero_of_lt beyond]
  · simp [handle?, isNew]

/-- The root that a handle was made for. -/
def rootOf? (store : Store engine) (number : Nat) : Option Path :=
  (store.handle? number).map Handle.root

theorem rootOf?_eq_some {store : Store engine} {number : Nat} {root : Path} :
    store.rootOf? number = some root ↔
      ∃ handle, store.handle? number = some handle ∧ handle.root = root :=
  Option.map_eq_some_iff

theorem rootOf?_request_of_some {store : Store engine} {held : Nat → Bool} {root own : Path}
    {number : Nat} (known : store.rootOf? number = some own) :
    (store.request held root).1.rootOf? number = some own := by
  have before : number ≠ store.handles.length := by
    intro equal
    simp [rootOf?, handle?, equal] at known
  simp only [rootOf?, handle?_request, before, false_and, if_false]
  exact known

theorem rootOf?_request_new {store : Store engine} {held : Nat → Bool} {root : Path}
    (isNew : (store.request held root).2.1 = store.handles.length) :
    (store.request held root).1.rootOf? store.handles.length = some root := by
  simp [rootOf?, handle?_request, isNew, Handle.fresh]

/-- A request files the handle that it gives under its root. -/
theorem keeps_request {store : Store engine} {held : Nat → Bool}
    (keeps : Keeps held store.rootOf? store.cache.known) (root : Path) :
    Keeps (fun other => held other || other == (store.request held root).2.1)
      (store.request held root).1.rootOf? (store.request held root).1.cache.known := by
  have extended : Keeps held (store.request held root).1.rootOf? store.cache.known :=
    keeps.extend fun _ _ => rootOf?_request_of_some
  have chosen := request_chosen store held root
  rw [request_cache, chosen]
  apply Cache.keeps_request extended
  intro isNew
  exact ⟨root, rootOf?_request_new (chosen.trans isNew), Path.same_refl root⟩

end TemplateCheck.Roots.Store
