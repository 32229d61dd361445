import TemplateCheck.Proofs.Roots.Custody
import TemplateCheck.Engine.Scripted
import Mathlib.Data.List.Dedup
import Mathlib.Data.List.Perm.Subperm

/-! # The records of evicted roots

The entries of evicted roots are there for the handles that are still held. Those of the others
are dropped whenever one more root is retired, so after that there are at most as many entries as
handles in use, and the new one.
-/

namespace TemplateCheck.Roots

theorem Distinct.nodup {entries : List (Path × Nat)} (distinct : Distinct entries) :
    entries.Nodup := by
  refine List.Pairwise.imp ?_ distinct
  rintro left right apart rfl
  simp [Path.same_refl] at apart

/-- Every handle has one entry, so those of the held handles are not more than the handles. -/
theorem Keeps.length_held_le {held : Nat → Bool} {rootOf : Nat → Option Path}
    {entries : List (Path × Nat)} (keeps : Keeps held rootOf entries) {holders : List Nat}
    (inUse : ∀ number, held number = true → number ∈ holders) :
    (entries.filter fun entry => held entry.2).length ≤ holders.dedup.length := by
  let numbers := (entries.filter fun entry => held entry.2).map Prod.snd
  have once : numbers.Nodup := by
    refine List.Nodup.map_on ?_ (keeps.distinct.nodup.filter _)
    intro left leftMem right rightMem equal
    exact keeps.eq_of_number left right (List.mem_of_mem_filter leftMem)
      (List.mem_of_mem_filter rightMem) equal
  have among : numbers ⊆ holders.dedup := by
    intro number member
    rcases List.mem_map.mp member with ⟨entry, kept, rfl⟩
    exact List.mem_dedup.mpr (inUse _ (List.mem_filter.mp kept).2)
  calc (entries.filter fun entry => held entry.2).length
      = numbers.length := (List.length_map _).symm
    _ ≤ holders.dedup.length := (once.subperm among).length_le

namespace Cache

variable {held : Nat → Bool} {rootOf : Nat → Option Path}

/-- What an operation makes of the entries: either every cached root stays and there are no more
entries of evicted ones, or a root is retired and there are at most so many, and one. -/
inductive Settles (inUse : Nat) (before after : Cache) : Prop where
  | stay (cached : ∀ entry ∈ before.cached, after.contains entry.1 = true)
      (fewer : after.evicted.length ≤ before.evicted.length)
  | retire (gone : ∃ entry ∈ before.cached, after.contains entry.1 = false)
      (few : after.evicted.length ≤ inUse + 1)

theorem contains_of_mem {cache : Cache} {entry : Path × Nat} (member : entry ∈ cache.cached) :
    cache.contains entry.1 = true :=
  contains_iff.mpr (List.mem_map_of_mem member)

/-- A root that is retired leaves no entries but its own and those of held handles. -/
theorem length_retire_le (cache : Cache) (root : Path) (number : Nat) :
    (cache.retire held root number).evicted.length ≤
      (cache.evicted.filter fun entry => held entry.2).length + 1 :=
  Nat.succ_le_succ (without_sublist root _).length_le

theorem settles_insert (cache : Cache) {root : Path} {number : Nat}
    (distinct : Distinct ((root, number) :: cache.cached)) (room : 0 < cache.capacity)
    {inUse : Nat} (few : (cache.evicted.filter fun entry => held entry.2).length ≤ inUse) :
    Settles inUse cache (cache.insert held root number) := by
  unfold insert
  dsimp only
  split
  · refine .stay (fun other member => ?_) (Nat.le_refl _)
    exact contains_of_mem (List.mem_cons_of_mem _ member)
  · next full =>
      rcases List.eq_nil_or_concat cache.cached with empty | ⟨front, oldest, split⟩
      · rw [empty] at full
        exact absurd room full
      · rw [List.concat_eq_append] at split
        rw [split, ← List.cons_append] at distinct ⊢
        rw [List.getLast?_concat, List.dropLast_concat]
        -- The last root was the only entry of its own.
        have gone := (List.pairwise_append.mp distinct).2.2
        refine .retire ⟨oldest, by simp [split], contains_eq_false.mpr fun other kept => ?_⟩
          (Nat.le_trans (length_retire_le _ _ _) (Nat.succ_le_succ few))
        exact gone other kept oldest List.mem_cons_self

theorem settles_request {cache : Cache} (keeps : Keeps held rootOf cache.known)
    (room : 0 < cache.capacity) {inUse : Nat}
    (few : (cache.evicted.filter fun entry => held entry.2).length ≤ inUse)
    (fresh : Nat) (root : Path) :
    Settles inUse cache (cache.request held fresh root).1 := by
  have cachedDistinct := (List.pairwise_append.mp keeps.distinct).1
  unfold request
  cases found : cache.cached.find? (fun entry => entry.1.same root) with
  | some entry =>
      have promoted := promote_perm cachedDistinct found
      refine .stay (fun other member => ?_) (Nat.le_refl _)
      exact contains_of_mem (promoted.mem_iff.mp member)
  | none =>
      have missing : ∀ entry ∈ cache.cached, entry.1.same root = false := by simpa using found
      have fewer := without_sublist root cache.evicted
      have distinct (number : Nat) : Distinct ((root, number) :: cache.cached) := by
        refine List.pairwise_cons.mpr ⟨fun entry member => ?_, cachedDistinct⟩
        exact (Path.same_comm root entry.1).trans (missing entry member)
      have inserted := settles_insert { cache with evicted := without root cache.evicted }
        (distinct (((lookup? root cache.evicted).filter held).getD fresh)) room
        (Nat.le_trans (fewer.filter _).length_le few)
      cases inserted with
      | stay cached fewerStill => exact .stay cached (Nat.le_trans fewerStill fewer.length_le)
      | retire gone few => exact .retire gone few

theorem evict_of_cached {cache : Cache} {root : Path} (isCached : cache.contains root = true)
    {inUse : Nat} (few : (cache.evicted.filter fun entry => held entry.2).length ≤ inUse) :
    (∃ entry ∈ cache.cached, (cache.evict held root).1.contains entry.1 = false) ∧
      (cache.evict held root).1.evicted.length ≤ inUse + 1 := by
  rcases Option.isSome_iff_exists.mp isCached with ⟨number, found⟩
  rw [evict, found]
  rcases lookup?_eq_some found with ⟨entry, member, same, rfl⟩
  refine ⟨⟨entry, member, contains_eq_false.mpr fun other kept => ?_⟩,
    Nat.le_trans (length_retire_le _ _ _) (Nat.succ_le_succ few)⟩
  rw [Bool.eq_false_iff]
  intro both
  have apart := (mem_without.mp kept).2
  rw [Path.same_trans both same] at apart
  cases apart

theorem evict_of_absent {cache : Cache} {root : Path} (absent : cache.contains root = false) :
    (cache.evict held root).1 = cache := by
  rw [contains, Option.isSome_eq_false_iff, Option.isNone_iff_eq_none] at absent
  rw [evict, absent]

theorem length_held_le {cache : Cache} (keeps : Keeps held rootOf cache.known)
    {holders : List Nat} (inUse : ∀ number, held number = true → number ∈ holders) :
    (cache.evicted.filter fun entry => held entry.2).length ≤ holders.dedup.length :=
  Nat.le_trans ((List.sublist_append_right _ _).filter _).length_le (keeps.length_held_le inUse)

/-- One eviction after the other, while nobody asks for a handle. -/
theorem settles_evictAll (roots : List Path) {cache : Cache}
    (keeps : Keeps held rootOf cache.known) {holders : List Nat}
    (inUse : ∀ number, held number = true → number ∈ holders) :
    Settles holders.dedup.length cache
      (roots.foldl (fun cache root => (cache.evict held root).1) cache) := by
  induction roots generalizing cache with
  | nil => exact .stay (fun entry => contains_of_mem) (Nat.le_refl _)
  | cons root rest induction =>
      rw [List.foldl_cons]
      cases isCached : cache.contains root with
      | false =>
          rw [evict_of_absent isCached]
          exact induction keeps
      | true =>
          rcases evict_of_cached isCached (length_held_le keeps inUse) with
            ⟨⟨entry, member, gone⟩, few⟩
          have stillGone : (rest.foldl (fun cache root => (cache.evict held root).1)
              (cache.evict held root).1).contains entry.1 = false := by
            refine contains_eq_false.mpr fun other kept => contains_eq_false.mp gone other ?_
            rw [evictAll_cached] at kept
            exact List.mem_of_mem_filter kept
          refine .retire ⟨entry, member, stillGone⟩ ?_
          cases induction (keeps_evict keeps root) with
          | stay cached fewer => exact Nat.le_trans fewer few
          | retire gone few => exact few

end Cache

namespace Custody

variable {engine : Engine}

/-- How many handles are in use. -/
def inUse (custody : Custody engine) : Nat := custody.holders.dedup.length

/-- Whether a command takes a root out of the cache. -/
def retires (custody : Custody engine) (command : Command) : Bool :=
  custody.cache.cached.any fun entry => !(custody.after command).cache.contains entry.1

/-- How many handles were in use when a root was last taken out of the cache. The given number
is for a run in which none is. -/
def lastInUse? (custody : Custody engine) (last : Option Nat) : List Command → Option Nat
  | [] => last
  | command :: rest =>
      let last := if custody.retires command then some custody.inUse else last
      (custody.after command).lastInUse? last rest

/-- How many entries of evicted roots there may be. -/
def allowance : Option Nat → Nat
  | none => 0
  | some inUse => inUse + 1

/-- What every command keeps. -/
structure Kept (custody : Custody engine) (last : Option Nat) : Prop where
  fits : custody.Fits
  room : 0 < custody.cache.capacity
  keeps : Keeps custody.holds custody.store.rootOf? custody.cache.known
  recorded : custody.cache.evicted.length ≤ allowance last

theorem mem_holders {custody : Custody engine} (number : Nat)
    (holds : custody.holds number = true) : number ∈ custody.holders :=
  List.contains_iff_mem.mp holds

/-- How the records settle is seen at the cached roots. -/
theorem recorded_after {custody : Custody engine} {last : Option Nat}
    (recorded : custody.cache.evicted.length ≤ allowance last) {command : Command}
    (settles : Cache.Settles custody.inUse custody.cache (custody.after command).cache) :
    (custody.after command).cache.evicted.length ≤
      allowance (if custody.retires command then some custody.inUse else last) := by
  cases settles with
  | stay cached fewer =>
      have none : custody.retires command = false := by
        rw [retires, List.any_eq_false]
        intro entry member
        simp [cached entry member]
      rw [none]
      exact Nat.le_trans fewer recorded
  | retire gone few =>
      rcases gone with ⟨entry, member, gone⟩
      have one : custody.retires command = true :=
        List.any_eq_true.mpr ⟨entry, member, by simp [gone]⟩
      rw [one]
      exact few

theorem settles_after {custody : Custody engine} {last : Option Nat} (kept : custody.Kept last)
    (command : Command) :
    Cache.Settles custody.inUse custody.cache (custody.after command).cache := by
  cases command with
  | request root =>
      rw [cache_request]
      exact Cache.settles_request kept.keeps kept.room
        (Cache.length_held_le kept.keeps mem_holders) _ root
  | evict root => exact Cache.settles_evictAll [root] kept.keeps mem_holders
  | evictUnder folder => exact Cache.settles_evictAll _ kept.keeps mem_holders
  | letGo holder => exact .stay (fun entry => Cache.contains_of_mem) (Nat.le_refl _)
  | size => exact .stay (fun entry => Cache.contains_of_mem) (Nat.le_refl _)
  | contains root => exact .stay (fun entry => Cache.contains_of_mem) (Nat.le_refl _)

theorem keeps_after {custody : Custody engine}
    (keeps : Keeps custody.holds custody.store.rootOf? custody.cache.known) (command : Command) :
    Keeps (custody.after command).holds (custody.after command).store.rootOf?
      (custody.after command).cache.known := by
  cases command with
  | request root =>
      refine (Store.keeps_request keeps root).letGo fun number holds => ?_
      rcases List.mem_cons.mp (mem_holders number holds) with rfl | before
      · exact Bool.or_eq_true_iff.mpr (Or.inr (beq_self_eq_true _))
      · exact Bool.or_eq_true_iff.mpr (Or.inl (List.contains_iff_mem.mpr before))
  | evict root => exact Cache.keeps_evict keeps root
  | evictUnder folder => exact Cache.keeps_evictUnder keeps folder
  | letGo holder =>
      refine keeps.letGo fun number holds => ?_
      exact List.contains_iff_mem.mpr (List.mem_of_mem_eraseIdx (mem_holders number holds))
  | size => exact keeps
  | contains root => exact keeps

theorem Kept.after {custody : Custody engine} {last : Option Nat} (kept : custody.Kept last)
    (command : Command) :
    (custody.after command).Kept
      (if custody.retires command then some custody.inUse else last) where
  fits := kept.fits.after command
  room := (capacity_after custody command).symm ▸ kept.room
  keeps := keeps_after kept.keeps command
  recorded := recorded_after kept.recorded (settles_after kept command)

theorem Kept.run {custody : Custody engine} {last : Option Nat} (kept : custody.Kept last)
    (commands : List Command) :
    (custody.run commands).Kept (custody.lastInUse? last commands) := by
  induction commands generalizing custody last with
  | nil => exact kept
  | cons command rest induction => exact induction (kept.after command)

theorem kept_empty (engine : Engine) {capacity : Nat} (room : 0 < capacity) :
    (empty engine capacity).Kept none where
  fits := fits_empty engine capacity
  room := room
  keeps := Keeps.empty _
  recorded := Nat.le_refl _

/-- A cache whose books are in order, when so many handles were in use as a root was last taken
out of it. -/
structure InOrder (custody : Custody engine) (capacity : Nat) (last : Option Nat) : Prop where
  bounded : custody.cache.size ≤ capacity
  /-- No root is cached twice, evicted twice, or both. -/
  once : (custody.cache.known.map fun entry => entry.1.components).Nodup
  /-- Every entry is that of a handle, under the root of the handle. -/
  rooted : ∀ entry ∈ custody.cache.known, ∃ handle, custody.store.handle? entry.2 = some handle ∧
    handle.root.components = entry.1.components
  /-- The records of evicted roots do not get more than the handles that were in use, and one. -/
  recorded : custody.cache.evicted.length ≤ allowance last

theorem inOrder_run (engine : Engine) {capacity : Nat} (room : 0 < capacity)
    (commands : List Command) :
    ((empty engine capacity).run commands).InOrder capacity
      ((empty engine capacity).lastInUse? none commands) := by
  have kept := (kept_empty engine room).run commands
  refine ⟨?_, ?_, fun entry member => ?_, kept.recorded⟩
  · have fits := kept.fits
    rwa [Fits, capacity_run] at fits
  · refine List.pairwise_map.mpr (kept.keeps.distinct.imp fun {left right} apart => ?_)
    rw [Bool.eq_false_iff] at apart
    exact fun equal => apart (Path.same_iff.mpr equal)
  · rcases kept.keeps.rooted entry member with ⟨root, found, same⟩
    rcases Store.rootOf?_eq_some.mp found with ⟨handle, isHandle, rfl⟩
    exact ⟨handle, isHandle, Path.same_iff.mp same⟩

/-! A root is let go before the next one is requested, and one that comes after them finds only
the entry of the other. -/

namespace Turnover

def commands : List Command :=
  [.request ⟨"/a"⟩, .letGo 0, .request ⟨"/b"⟩, .request ⟨"/c"⟩]

theorem inOrder_turnover :
    0 < 1 ∧ ((empty Scripted.engine 1).run commands).InOrder 1 (some 1) ∧
      ((empty Scripted.engine 1).run commands).cache.known = [(⟨"/c"⟩, 2), (⟨"/b"⟩, 1)] := by
  have last : (empty Scripted.engine 1).lastInUse? none commands = some 1 := by decide +kernel
  have inOrder := inOrder_run Scripted.engine (by decide : 0 < 1) commands
  rw [last] at inOrder
  exact ⟨by decide, inOrder, by decide +kernel⟩

end Turnover

end Custody

end TemplateCheck.Roots
