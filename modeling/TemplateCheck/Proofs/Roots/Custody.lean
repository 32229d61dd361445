import TemplateCheck.Proofs.Roots.Filing

/-! # Roots in use

A store is asked for handles, and told to evict roots. Who asks for a handle holds it until he
lets it go, at any later time and whatever became of its root. Questions about the store stand
among the other commands. A run is any sequence of commands, and what it makes of the cache is
the work of one command after the other.
-/

namespace TemplateCheck.Roots

inductive Command where
  | request (root : Path)
  | letGo (holder : Nat)
  | evict (root : Path)
  | evictUnder (folder : Path)
  | size
  | contains (root : Path)
  deriving Repr, DecidableEq

inductive Reply where
  | handle (number : Nat)
  | found (isCached : Bool)
  | count (roots : Nat)
  | done
  deriving Repr, DecidableEq

/-- A store, and the handles that its holders have, one for each of them. -/
structure Custody (engine : Engine) where
  store : Store engine
  holders : List Nat := []

namespace Custody

variable {engine : Engine}

def empty (engine : Engine) (capacity : Nat) : Custody engine where
  store := .empty engine capacity

def cache (custody : Custody engine) : Cache := custody.store.cache

def holds (custody : Custody engine) (number : Nat) : Bool :=
  custody.holders.contains number

def perform (custody : Custody engine) : Command → Custody engine × Reply
  | .request root =>
      let (store, number, _) := custody.store.request custody.holds root
      (⟨store, number :: custody.holders⟩, .handle number)
  | .letGo holder => ({ custody with holders := custody.holders.eraseIdx holder }, .done)
  | .evict root =>
      let (store, found) := custody.store.evict custody.holds root
      ({ custody with store }, .found found)
  | .evictUnder folder =>
      let (store, count) := custody.store.evictUnder custody.holds folder
      ({ custody with store }, .count count)
  | .size => (custody, .count custody.store.cache.size)
  | .contains root => (custody, .found (custody.store.cache.contains root))

def after (custody : Custody engine) (command : Command) : Custody engine :=
  (custody.perform command).1

def run (custody : Custody engine) (commands : List Command) : Custody engine :=
  commands.foldl after custody

theorem run_cons (custody : Custody engine) (command : Command) (commands : List Command) :
    custody.run (command :: commands) = (custody.after command).run commands :=
  rfl

theorem cache_request (custody : Custody engine) (root : Path) :
    (custody.after (.request root)).cache =
      (custody.cache.request custody.holds custody.store.handles.length root).1 :=
  Store.request_cache _ _ _

end Custody

namespace Cache

variable (held : Nat → Bool)

/-! ## The cached roots -/

/-- The roots in the cache, by their components, most recently requested first. -/
def roots (cache : Cache) : List (List Path.Component) :=
  cache.cached.map fun entry => entry.1.components

theorem contains_iff {cache : Cache} {root : Path} :
    cache.contains root = true ↔ root.components ∈ cache.roots := by
  simp only [contains, lookup?, Option.isSome_map, List.find?_isSome, Path.same_iff, roots,
    List.mem_map]

theorem roots_without (root : Path) (entries : List (Path × Nat)) :
    (without root entries).map (fun entry => entry.1.components) =
      (entries.map fun entry => entry.1.components).filter (· ≠ root.components) := by
  rw [without, List.filter_map]
  congr 1
  apply List.filter_congr
  intro entry _
  rw [Path.same, Function.comp_apply, Bool.eq_iff_iff]
  simp

/-- A request puts its root in front, and the cache keeps as many as it can. -/
theorem roots_request {cache : Cache} (fits : cache.cached.length ≤ cache.capacity)
    (fresh : Nat) (root : Path) :
    (cache.request held fresh root).1.roots =
      (root.components :: cache.roots.filter (· ≠ root.components)).take cache.capacity := by
  unfold request
  cases found : cache.cached.find? (fun entry => entry.1.same root) with
  | some entry =>
      have isSame : entry.1.same root = true := by simpa using List.find?_some found
      have same := Path.same_iff.mp isSame
      have fewer : (without root cache.cached).length < cache.cached.length := by
        apply List.length_filter_lt_length_iff_exists.mpr
        exact ⟨entry, List.mem_of_find?_eq_some found, by simp [isSame]⟩
      have promoted : roots { cache with cached := entry :: without root cache.cached } =
          root.components :: cache.roots.filter (· ≠ root.components) := by
        simp only [roots, List.map_cons, roots_without, same]
      rw [← promoted, List.take_of_length_le]
      simp only [roots, List.length_map, List.length_cons]
      omega
  | none =>
      have others : cache.roots.filter (· ≠ root.components) = cache.roots := by
        apply List.filter_eq_self.mpr
        intro components member
        rcases List.mem_map.mp member with ⟨entry, cached, rfl⟩
        have apart := List.find?_eq_none.mp found entry cached
        simpa [Path.same_iff] using apart
      rw [others]
      simp only [insert, List.length_cons]
      split
      · next fitting =>
          rw [List.take_of_length_le (by simpa [roots] using fitting)]
          rfl
      · next full =>
          have exact : cache.cached.length = cache.capacity := by omega
          rw [List.getLast?_cons]
          simp only [roots, retire, List.map_dropLast, List.map_cons]
          rw [List.dropLast_eq_take]
          simp [exact]

/-! ## Evictions -/

theorem contains_eq_false {cache : Cache} {root : Path} :
    cache.contains root = false ↔ ∀ entry ∈ cache.cached, entry.1.same root = false := by
  rw [contains, Option.isSome_eq_false_iff, Option.isNone_iff_eq_none, lookup?_eq_none]

theorem without_of_absent {cache : Cache} {root : Path} (absent : cache.contains root = false) :
    without root cache.cached = cache.cached := by
  apply List.filter_eq_self.mpr
  intro entry cached
  rw [contains_eq_false.mp absent entry cached, Bool.not_false]

theorem evict_cached (cache : Cache) (root : Path) :
    (cache.evict held root).1.cached = without root cache.cached := by
  unfold evict
  cases found : lookup? root cache.cached with
  | none =>
      have absent : cache.contains root = false := by simp [contains, found]
      exact (without_of_absent absent).symm
  | some handle => rfl

theorem evict_found (cache : Cache) (root : Path) :
    (cache.evict held root).2 = cache.contains root := by
  unfold evict contains
  cases lookup? root cache.cached with
  | none => rfl
  | some handle => rfl

theorem isUnder_congr {left right : Path} (same : left.same right = true) (folder : Path) :
    left.isUnder folder = right.isUnder folder := by
  rw [Path.isUnder, Path.isUnder, Path.same_iff.mp same]

/-- Several roots that are evicted one after the other. -/
theorem evictAll_cached (roots : List Path) (cache : Cache) :
    (roots.foldl (fun cache root => (cache.evict held root).1) cache).cached =
      cache.cached.filter fun entry => !roots.any entry.1.same := by
  induction roots generalizing cache with
  | nil => exact (List.filter_eq_self.mpr fun _ _ => rfl).symm
  | cons root rest induction =>
      rw [List.foldl_cons, induction, evict_cached, without, List.filter_filter]
      apply List.filter_congr
      intro entry _
      simp [Bool.and_comm]

theorem evictUnder_cached (cache : Cache) (folder : Path) :
    (cache.evictUnder held folder).1.cached =
      cache.cached.filter fun entry => !entry.1.isUnder folder := by
  unfold evictUnder
  dsimp only
  rw [evictAll_cached]
  apply List.filter_congr
  intro entry cached
  congr 1
  rw [Bool.eq_iff_iff, List.any_eq_true]
  constructor
  · rintro ⟨root, doomed, same⟩
    rw [isUnder_congr same]
    exact (List.mem_filter.mp doomed).2
  · intro under
    exact ⟨entry.1, List.mem_filter.mpr ⟨List.mem_map_of_mem cached, under⟩, Path.same_refl _⟩

theorem evictUnder_count (cache : Cache) (folder : Path) :
    (cache.evictUnder held folder).2 =
      cache.cached.countP fun entry => entry.1.isUnder folder := by
  unfold evictUnder
  dsimp only
  rw [← List.countP_eq_length_filter, List.countP_map]
  rfl

/-! ## The capacity -/

theorem request_capacity (cache : Cache) (fresh : Nat) (root : Path) :
    (cache.request held fresh root).1.capacity = cache.capacity := by
  unfold request
  split
  · rfl
  · simp only [insert]
    split
    · rfl
    · split <;> rfl

theorem evict_capacity (cache : Cache) (root : Path) :
    (cache.evict held root).1.capacity = cache.capacity := by
  unfold evict
  split <;> rfl

theorem evictUnder_capacity (cache : Cache) (folder : Path) :
    (cache.evictUnder held folder).1.capacity = cache.capacity := by
  unfold evictUnder
  generalize (cache.cached.map Prod.fst).filter (fun root => root.isUnder folder) = doomed
  induction doomed generalizing cache with
  | nil => rfl
  | cons root rest induction => exact (induction _).trans (evict_capacity held cache root)

end Cache

namespace Custody

variable {engine : Engine}

/-! ## Runs -/

theorem capacity_after (custody : Custody engine) (command : Command) :
    (custody.after command).cache.capacity = custody.cache.capacity := by
  cases command with
  | request root => rw [cache_request, Cache.request_capacity]
  | letGo holder => rfl
  | evict root => exact Cache.evict_capacity custody.holds custody.cache root
  | evictUnder folder => exact Cache.evictUnder_capacity custody.holds custody.cache folder
  | size => rfl
  | contains root => rfl

theorem run_concat (custody : Custody engine) (commands : List Command) (last : Command) :
    custody.run (commands ++ [last]) = (custody.run commands).after last :=
  List.foldl_append

theorem capacity_run (custody : Custody engine) (commands : List Command) :
    (custody.run commands).cache.capacity = custody.cache.capacity := by
  induction commands generalizing custody with
  | nil => rfl
  | cons command rest induction => exact (induction _).trans (capacity_after custody command)

theorem run_evict (custody : Custody engine) (roots : List Path) :
    custody.run (roots.map Command.evict) =
      let cache := roots.foldl (fun cache root => (cache.evict custody.holds root).1) custody.cache
      { custody with store := { custody.store with cache } } := by
  induction roots generalizing custody with
  | nil => rfl
  | cons root rest induction => exact induction (custody.after (.evict root))

/-- An eviction of a folder comes to evictions of its roots. So what holds after every run also
holds when handles are let go between them. -/
theorem after_evictUnder (custody : Custody engine) (folder : Path) :
    custody.after (.evictUnder folder) = custody.run
      (((custody.cache.cached.map Prod.fst).filter fun root => root.isUnder folder).map
        Command.evict) :=
  (run_evict custody _).symm

/-- The cache does not hold more roots than it can. -/
def Fits (custody : Custody engine) : Prop :=
  custody.cache.cached.length ≤ custody.cache.capacity

theorem Fits.after {custody : Custody engine} (fits : custody.Fits) (command : Command) :
    (custody.after command).Fits := by
  unfold Fits
  rw [capacity_after]
  cases command with
  | request root =>
      have length := congrArg List.length
        (Cache.roots_request custody.holds fits custody.store.handles.length root)
      rw [Cache.roots, List.length_map] at length
      rw [cache_request, length]
      exact List.length_take_le _ _
  | letGo holder => exact fits
  | evict root =>
      have cached := Cache.evict_cached custody.holds custody.cache root
      have fewer := (without_sublist root custody.cache.cached).length_le
      exact Nat.le_trans (Nat.le_of_eq (congrArg List.length cached)) (Nat.le_trans fewer fits)
  | evictUnder folder =>
      have cached := Cache.evictUnder_cached custody.holds custody.cache folder
      have fewer := List.length_filter_le (fun entry => !entry.1.isUnder folder)
        custody.cache.cached
      exact Nat.le_trans (Nat.le_of_eq (congrArg List.length cached)) (Nat.le_trans fewer fits)
  | size => exact fits
  | contains root => exact fits

theorem Fits.run {custody : Custody engine} (fits : custody.Fits) (commands : List Command) :
    (custody.run commands).Fits := by
  induction commands generalizing custody with
  | nil => exact fits
  | cons command rest induction => exact induction (fits.after command)

theorem fits_empty (engine : Engine) (capacity : Nat) : (empty engine capacity).Fits :=
  Nat.zero_le _

end Custody

end TemplateCheck.Roots
