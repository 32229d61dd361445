import TemplateCheck.Path

/-! # The cache of package roots

At most a fixed number of roots stay cached, the most recently requested ones.
An evicted root is remembered for as long as somebody still holds its handle, so
that a request brings back the same handle and a root never has two. Handles are
known by number here. -/

namespace TemplateCheck.Roots

structure Cache where
  capacity : Nat
  /-- The cached roots, most recently requested first. -/
  cached : List (Path × Nat) := []
  /-- The roots that were evicted, with their handles. -/
  evicted : List (Path × Nat) := []
  deriving Repr, DecidableEq, Inhabited

/-- Look a path up by its components. -/
def lookup? (root : Path) (entries : List (Path × Nat)) : Option Nat :=
  (entries.find? fun entry => entry.1.same root).map Prod.snd

/-- Take a path out, by its components. -/
def without (root : Path) (entries : List (Path × Nat)) : List (Path × Nat) :=
  entries.filter fun entry => !entry.1.same root

namespace Cache

def size (cache : Cache) : Nat := cache.cached.length

def contains (cache : Cache) (root : Path) : Bool := (lookup? root cache.cached).isSome

/-- Remember an evicted root, and forget those that nobody holds any more. -/
def retire (cache : Cache) (held : Nat → Bool) (root : Path) (handle : Nat) : Cache :=
  let remembered := cache.evicted.filter fun entry => held entry.2
  { cache with evicted := (root, handle) :: without root remembered }

/-- Cache a root in front of all others, at the cost of the last one if there
are too many. -/
def insert (cache : Cache) (held : Nat → Bool) (root : Path) (handle : Nat) : Cache :=
  let entries := (root, handle) :: cache.cached
  if entries.length ≤ cache.capacity then { cache with cached := entries }
  else
    match entries.getLast? with
    | none => cache
    | some (oldest, oldestHandle) =>
        { cache with cached := entries.dropLast }.retire held oldest oldestHandle

/-- The handle of a root: the cached one, or the evicted one that is still held,
or else the fresh one. -/
def request (cache : Cache) (held : Nat → Bool) (fresh : Nat) (root : Path) : Cache × Nat :=
  match cache.cached.find? fun entry => entry.1.same root with
  | some entry => ({ cache with cached := entry :: without root cache.cached }, entry.2)
  | none =>
      let handle := ((lookup? root cache.evicted).filter held).getD fresh
      let cache := { cache with evicted := without root cache.evicted }
      (cache.insert held root handle, handle)

/-- Evict one root; says whether it was cached. -/
def evict (cache : Cache) (held : Nat → Bool) (root : Path) : Cache × Bool :=
  match lookup? root cache.cached with
  | none => (cache, false)
  | some handle =>
      ({ cache with cached := without root cache.cached }.retire held root handle, true)

/-- Evict the roots at or below a folder; says how many there were. -/
def evictUnder (cache : Cache) (held : Nat → Bool) (folder : Path) : Cache × Nat :=
  let doomed := (cache.cached.map Prod.fst).filter fun root => root.isUnder folder
  (doomed.foldl (fun cache root => (cache.evict held root).1) cache, doomed.length)

end Cache

end TemplateCheck.Roots
