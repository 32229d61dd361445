import TemplateCheck.Proofs.Roots.Custody
import Mathlib.Data.List.Dedup
import Mathlib.Data.List.Induction

/-! # The most recently requested roots

A cache that no root was evicted from by a command holds the roots that were requested last,
each once and the latest in front, as many as it has room for. Questions leave everything as it
was, and an eviction takes out just the roots that it names.
-/

namespace TemplateCheck.Roots

namespace Recency

variable {item : Type} [DecidableEq item]

/-! ## Lists without repetitions -/

/-- A repeated element counts where it comes last. -/
theorem dedup_concat (items : List item) (last : item) :
    (items ++ [last]).dedup = items.dedup.filter (· ≠ last) ++ [last] := by
  induction items with
  | nil => rfl
  | cons first rest induction =>
      by_cases repeated : first ∈ rest
      · have later : first ∈ rest ++ [last] := List.mem_append_left _ repeated
        rw [List.cons_append, List.dedup_cons_of_mem later, induction,
          List.dedup_cons_of_mem repeated]
      · rw [List.cons_append, List.dedup_cons_of_notMem repeated]
        by_cases equal : first = last
        · subst equal
          rw [List.dedup_cons_of_mem (by simp), induction]
          simp
        · have absent : first ∉ rest ++ [last] := by simp [repeated, equal]
          rw [List.dedup_cons_of_notMem absent, induction,
            List.filter_cons_of_pos (by simpa using equal), List.cons_append]

/-- Of the first elements one may be dropped, and the others are still there. -/
theorem take_filter_take {items : List item} (distinct : items.Nodup) (dropped : item)
    (count : Nat) :
    ((items.take (count + 1)).filter (· ≠ dropped)).take count =
      (items.filter (· ≠ dropped)).take count := by
  induction items generalizing count with
  | nil => rfl
  | cons first rest induction =>
      rcases List.nodup_cons.mp distinct with ⟨absent, restDistinct⟩
      rw [List.take_succ_cons]
      by_cases equal : first = dropped
      · subst equal
        -- It does not come again, so nothing else is dropped.
        have others : ∀ other ∈ rest, decide (other ≠ first) = true := by
          intro other member
          exact decide_eq_true fun same => absent (same ▸ member)
        have front : ∀ other ∈ rest.take count, decide (other ≠ first) = true :=
          fun other member => others other (List.mem_of_mem_take member)
        rw [List.filter_cons_of_neg (by simp), List.filter_cons_of_neg (by simp),
          List.filter_eq_self.mpr others, List.filter_eq_self.mpr front, List.take_take,
          Nat.min_self]
      · have kept : decide (first ≠ dropped) = true := decide_eq_true equal
        simp only [List.filter_cons, kept, if_true]
        cases count with
        | zero => rfl
        | succ count => rw [List.take_succ_cons, List.take_succ_cons, induction restDistinct]

/-- One more element in front, and as many as before. -/
theorem take_cons_filter_take {items : List item} (distinct : items.Nodup) (added : item)
    (count : Nat) :
    (added :: (items.take count).filter (· ≠ added)).take count =
      (added :: items.filter (· ≠ added)).take count := by
  cases count with
  | zero => rfl
  | succ count =>
      rw [List.take_succ_cons, List.take_succ_cons, take_filter_take distinct]

end Recency

namespace Command

/-- Commands that evict roots. -/
def evicts : Command → Bool
  | .evict _ => true
  | .evictUnder _ => true
  | _ => false

/-- Commands that only ask. -/
def asks : Command → Bool
  | .size => true
  | .contains _ => true
  | _ => false

/-- The root that a command requests, by its components. -/
def requested? : Command → Option (List Path.Component)
  | .request root => some root.components
  | _ => none

end Command

/-- The requested roots, each once, the one that was requested last in front. -/
def recentRoots (commands : List Command) : List (List Path.Component) :=
  (commands.filterMap Command.requested?).dedup.reverse

theorem recentRoots_nodup (commands : List Command) : (recentRoots commands).Nodup :=
  List.nodup_reverse.mpr (List.nodup_dedup _)

theorem recentRoots_request (commands : List Command) (root : Path) :
    recentRoots (commands ++ [.request root]) =
      root.components :: (recentRoots commands).filter (· ≠ root.components) := by
  have last : [Command.request root].filterMap Command.requested? = [root.components] := rfl
  rw [recentRoots, List.filterMap_append, last, Recency.dedup_concat, List.reverse_append,
    List.filter_reverse.symm]
  rfl

theorem recentRoots_other (commands : List Command) (command : Command)
    (other : command.requested? = none) :
    recentRoots (commands ++ [command]) = recentRoots commands := by
  rw [recentRoots, List.filterMap_append, List.filterMap_cons_none other, List.filterMap_nil,
    List.append_nil]
  rfl

namespace Custody

variable {engine : Engine}

/-- What one command makes of the cached roots, if it does not evict any. -/
theorem roots_after {custody : Custody engine} (fits : custody.Fits) {command : Command}
    (keeps : command.evicts = false) {commands : List Command}
    (before : custody.cache.roots = (recentRoots commands).take custody.cache.capacity) :
    (custody.after command).cache.roots =
      (recentRoots (commands ++ [command])).take custody.cache.capacity := by
  cases command with
  | request root =>
      rw [cache_request, Cache.roots_request _ fits, before, recentRoots_request,
        Recency.take_cons_filter_take (recentRoots_nodup commands)]
  | letGo holder =>
      rw [recentRoots_other _ _ rfl]
      exact before
  | size =>
      rw [recentRoots_other _ _ rfl]
      exact before
  | contains root =>
      rw [recentRoots_other _ _ rfl]
      exact before
  | evict root => cases keeps
  | evictUnder folder => cases keeps

theorem roots_run (capacity : Nat) (commands : List Command)
    (keeps : ∀ command ∈ commands, command.evicts = false) :
    ((empty engine capacity).run commands).cache.roots =
      (recentRoots commands).take capacity := by
  have capacities (commands : List Command) :
      ((empty engine capacity).run commands).cache.capacity = capacity :=
    capacity_run _ commands
  induction commands using List.reverseRecOn with
  | nil => exact List.take_nil.symm
  | append_singleton commands last induction =>
      have earlier := induction fun command member => keeps command (List.mem_append_left _ member)
      have now := keeps last (List.mem_append_right _ List.mem_cons_self)
      rw [run_concat]
      have next := roots_after ((fits_empty engine capacity).run commands) now
        (earlier.trans (by rw [capacities]))
      rw [next, capacities]

/-- Questions leave everything as it is. -/
theorem after_asks (custody : Custody engine) {command : Command} (asks : command.asks = true) :
    custody.after command = custody := by
  cases command with
  | size => rfl
  | contains root => rfl
  | request root => cases asks
  | letGo holder => cases asks
  | evict root => cases asks
  | evictUnder folder => cases asks

theorem run_unasked (custody : Custody engine) (commands : List Command) :
    custody.run (commands.filter fun command => !command.asks) = custody.run commands := by
  induction commands generalizing custody with
  | nil => rfl
  | cons command rest induction =>
      cases asks : command.asks with
      | true =>
          rw [List.filter_cons_of_neg (by simp [asks]), induction, run_cons,
            after_asks custody asks]
      | false => rw [List.filter_cons_of_pos (by simp [asks]), run_cons, run_cons, induction]

/-- A root comes into the cache by a request only. -/
theorem absent_after {custody : Custody engine} (fits : custody.Fits) {root : Path}
    (absent : custody.cache.contains root = false) {command : Command}
    (unrequested : command.requested? ≠ some root.components) :
    (custody.after command).cache.contains root = false := by
  rw [← Bool.not_eq_true, Cache.contains_iff] at absent ⊢
  have sublist (entries : List (Path × Nat))
      (fewer : entries.Sublist custody.cache.cached) :
      root.components ∉ entries.map fun entry => entry.1.components :=
    fun member => absent ((fewer.map _).subset member)
  cases command with
  | request other =>
      rw [cache_request, Cache.roots_request _ fits]
      intro member
      rcases List.mem_cons.mp (List.mem_of_mem_take member) with here | older
      · exact unrequested (congrArg some here.symm)
      · exact absent (List.mem_of_mem_filter older)
  | letGo holder => exact absent
  | evict other =>
      have cached := Cache.evict_cached custody.holds custody.cache other
      exact sublist _ (cached ▸ without_sublist other _)
  | evictUnder folder =>
      have cached := Cache.evictUnder_cached custody.holds custody.cache folder
      exact sublist _ (cached ▸ List.filter_sublist)
  | size => exact absent
  | contains other => exact absent

theorem absent_run {custody : Custody engine} (fits : custody.Fits) {root : Path}
    (absent : custody.cache.contains root = false) (commands : List Command)
    (unrequested : ∀ command ∈ commands, command.requested? ≠ some root.components) :
    (custody.run commands).cache.contains root = false := by
  induction commands generalizing custody with
  | nil => exact absent
  | cons command rest induction =>
      rcases List.forall_mem_cons.mp unrequested with ⟨first, others⟩
      exact induction (fits.after command) (absent_after fits absent first) others

end Custody

/-- How a cache with room for so many roots keeps them. -/
structure KeepsRecent (engine : Engine) (capacity : Nat) : Prop where
  /-- Without evictions by command, the latest roots are cached, most recent first. -/
  recent : ∀ commands : List Command, (∀ command ∈ commands, command.evicts = false) →
    ((Custody.empty engine capacity).run commands).cache.roots =
      (recentRoots commands).take capacity
  /-- And questions are answered accordingly. -/
  answers : ∀ commands : List Command, (∀ command ∈ commands, command.evicts = false) →
    (((Custody.empty engine capacity).run commands).perform .size).2 =
        .count (min capacity (recentRoots commands).length) ∧
      ∀ root, (((Custody.empty engine capacity).run commands).perform (.contains root)).2 =
        .found (decide (root.components ∈ (recentRoots commands).take capacity))
  /-- Without the questions the run comes to the same. -/
  unasked : ∀ (custody : Custody engine) (commands : List Command),
    custody.run (commands.filter fun command => !command.asks) = custody.run commands
  /-- An eviction takes out one root, whatever its spelling, and says whether it was there. -/
  evicts : ∀ (custody : Custody engine) (root : Path),
    (custody.perform (.evict root)).2 = .found (custody.cache.contains root) ∧
      (custody.after (.evict root)).cache.cached = custody.cache.cached.filter fun entry =>
        decide (entry.1.components ≠ root.components)
  /-- An eviction of a folder takes out the roots at or below it, and says how many there were. -/
  evictsUnder : ∀ (custody : Custody engine) (folder : Path),
    (custody.perform (.evictUnder folder)).2 = .count (custody.cache.cached.countP fun entry =>
        decide (folder.components <+: entry.1.components)) ∧
      (custody.after (.evictUnder folder)).cache.cached = custody.cache.cached.filter fun entry =>
        decide (¬ folder.components <+: entry.1.components)
  /-- A root that is not cached comes back by a request only. -/
  absent : ∀ (commands later : List Command) (root : Path),
    ((Custody.empty engine capacity).run commands).cache.contains root = false →
    (∀ command ∈ later, command.requested? ≠ some root.components) →
    ((Custody.empty engine capacity).run (commands ++ later)).cache.contains root = false

theorem keepsRecent (engine : Engine) (capacity : Nat) : KeepsRecent engine capacity where
  recent := Custody.roots_run capacity
  answers commands keeps := by
    have roots := @Custody.roots_run engine capacity commands keeps
    constructor
    · have length := congrArg List.length roots
      rw [Cache.roots, List.length_map, List.length_take] at length
      exact congrArg Reply.count length
    · intro root
      refine congrArg Reply.found ?_
      rw [Bool.eq_iff_iff, decide_eq_true_iff, ← roots]
      exact Cache.contains_iff
  unasked := Custody.run_unasked
  evicts custody root := by
    refine ⟨congrArg Reply.found (Cache.evict_found _ _ _), (Cache.evict_cached _ _ _).trans ?_⟩
    apply List.filter_congr
    intro entry _
    rw [Bool.eq_iff_iff, Bool.not_eq_true', ← Bool.not_eq_true, Path.same_iff]
    exact (decide_eq_true_iff).symm
  evictsUnder custody folder := by
    have under (entry : Path × Nat) :
        entry.1.isUnder folder = decide (folder.components <+: entry.1.components) := by
      rw [Bool.eq_iff_iff, decide_eq_true_iff]
      exact List.isPrefixOf_iff_prefix
    constructor
    · have count := Cache.evictUnder_count custody.holds custody.cache folder
      refine congrArg Reply.count (count.trans ?_)
      exact List.countP_congr fun entry _ => by rw [under]
    · refine (Cache.evictUnder_cached _ _ _).trans ?_
      apply List.filter_congr
      intro entry _
      rw [under, decide_not]
  absent commands later root missing unrequested := by
    have fits := (Custody.fits_empty engine capacity).run commands
    have stays := Custody.absent_run fits missing later unrequested
    rwa [Custody.run, Custody.run, ← List.foldl_append] at stays

end TemplateCheck.Roots
