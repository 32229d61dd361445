import Mathlib.Logic.Function.Basic
import TemplateCheck.Proofs.Pool.Turns
import TemplateCheck.Proofs.Roots.Filing

/-! # Who uses the registries

The registries of a handle are under a lock: one task owns them and others wait
in line. Seen from here a pool is what its tasks claim and how the locks stand,
and a turn changes both in one of five ways. In every reachable pool a task that
uses registries owns their lock, so no two tasks use the registries of one
handle, and those who wait stand in one line behind an owner.
-/

namespace TemplateCheck.Pool

open Function (update)
open Roots (Ticket Handle Store)

variable {engine : Engine}

/-! ## Claims and locks -/

/-- What a task has to do with registries. -/
inductive Claim where
  | none
  | waits (number : Nat)
  | uses (number : Nat)
  deriving DecidableEq

def Activity.claim : Activity engine → Claim
  | .queued _ number _ => .waits number
  | .running pass => .uses pass.handle
  | _ => .none

def claim (pool : Pool engine) (task : Nat) : Claim :=
  ((pool.activity? task).map Activity.claim).getD .none

/-- The state of the lock of a handle. -/
structure Lock where
  owner : Option Nat := none
  waiting : List Nat := []

def Lock.ofHandle (handle : Handle engine) : Lock := ⟨handle.owner, handle.waiting⟩

/-- The lock after its owner has let go. -/
def Lock.next (lock : Lock) : Lock := ⟨lock.waiting.head?, lock.waiting.tail⟩

/-- One thing about the handles of a pool, by number, with a default for those
that are not there yet. -/
def view {content : Type} (see : Handle engine → content) (absent : content)
    (pool : Pool engine) (number : Nat) : content :=
  ((pool.store.handle? number).map see).getD absent

/-- The lock of a handle; of a handle that is not there yet it is free. -/
def lock : Pool engine → Nat → Lock := view Lock.ofHandle {}

theorem Lock.ofHandle_release (handle : Handle engine) :
    Lock.ofHandle handle.release = (Lock.ofHandle handle).next := by
  unfold Handle.release
  split
  · next line => simp [Lock.ofHandle, Lock.next, line]
  · next line => simp [Lock.ofHandle, Lock.next, line]

/-! ## What a turn changes -/

theorem handle?_change (store : Store engine) (number other : Nat)
    (edit : Handle engine → Handle engine) :
    (store.change number edit).handle? other =
      if number = other then (store.handle? other).map edit else store.handle? other := by
  simp only [Store.change, Store.handle?, List.getElem?_modify]
  split <;> simp

theorem claim_place {pool next : Pool engine} {task : Nat} {old : Task engine}
    (found : pool.tasks[task]? = some old) (sameTasks : next.tasks = pool.tasks)
    (new : Task engine) : (next.place task new).claim = update pool.claim task new.activity.claim := by
  have inRange : task < pool.tasks.length := (List.getElem?_eq_some_iff.mp found).1
  funext other
  by_cases same : other = task
  · subst same
    simp [claim, activity?, place, sameTasks, inRange]
  · have different : task ≠ other := fun equal => same equal.symm
    simp [claim, activity?, place, sameTasks, Function.update_of_ne same, different]

theorem claim_place_same {pool next : Pool engine} {task : Nat} {old new : Task engine}
    (found : pool.tasks[task]? = some old) (sameTasks : next.tasks = pool.tasks)
    (sameClaim : new.activity.claim = old.activity.claim) :
    (next.place task new).claim = pool.claim := by
  rw [claim_place found sameTasks]
  have before : pool.claim task = new.activity.claim := by
    simp [claim, activity?, found, sameClaim]
  rw [← before, Function.update_eq_self]

section

variable {content : Type} {see : Handle engine → content} {absent : content}
  (pool : Pool engine) {next : Pool engine} {number : Nat} {edit : Handle engine → Handle engine}

theorem view_of_known {handle : Handle engine} (known : pool.store.handle? number = some handle) :
    pool.view see absent number = see handle := by
  simp [view, known]

theorem view_change {handle : Handle engine} (known : pool.store.handle? number = some handle)
    (changed : next.store = pool.store.change number edit) :
    next.view see absent = update (pool.view see absent) number (see (edit handle)) := by
  funext other
  by_cases same : other = number
  · subst same
    simp [view, changed, handle?_change, known]
  · have different : number ≠ other := fun equal => same equal.symm
    simp [view, changed, handle?_change, different, Function.update_of_ne same]

theorem view_change_same (changed : next.store = pool.store.change number edit)
    (unseen : ∀ handle, pool.store.handle? number = some handle → see (edit handle) = see handle) :
    next.view see absent = pool.view see absent := by
  funext other
  by_cases same : number = other
  · subst same
    cases known : pool.store.handle? number with
    | none => simp [view, changed, handle?_change, known]
    | some handle => simp [view, changed, handle?_change, known, unseen handle known]
  · simp [view, changed, handle?_change, same]

theorem view_replace_same {old new : Handle engine} (known : pool.store.handle? number = some old)
    (changed : next.store = pool.store.change number fun _ => new)
    (unseen : see new = see old) : next.view see absent = pool.view see absent := by
  apply view_change_same pool changed
  intro handle found
  rw [known] at found
  cases found
  exact unseen

end

theorem request_store (pool : Pool engine) (task : Option Nat) (root : Path) :
    (pool.request task root).1.store = (pool.store.request pool.holds root).1 := by
  simp only [request]
  split <;> rfl

theorem request_number (pool : Pool engine) (task : Option Nat) (root : Path) :
    (pool.request task root).2 = (pool.store.request pool.holds root).2.1 := by
  simp only [request]
  split <;> rfl

/-- A new handle looks like one that is not there. -/
theorem view_request {content : Type} {see : Handle engine → content} {absent : content}
    (pool : Pool engine) (task : Option Nat) (root : Path)
    (blank : see (.fresh engine root) = absent) :
    (pool.request task root).1.view see absent = pool.view see absent := by
  funext number
  simp only [view, request_store, Store.handle?_request]
  split
  · next isNew =>
      have missing : pool.store.handle? number = none := by
        simp [Store.handle?, isNew.1]
      simp [missing, blank]
  · rfl

/-- How a turn changes claims and locks. -/
inductive LockChange (claims : Nat → Claim) (locks : Nat → Lock) (task : Nat) :
    (Nat → Claim) → (Nat → Lock) → Prop
  | unchanged : LockChange claims locks task claims locks
  | takes {number : Nat} (before : claims task = .none) (isFree : (locks number).owner = none) :
      LockChange claims locks task (update claims task (.uses number))
        (update locks number ⟨some task, (locks number).waiting⟩)
  | queues {number other : Nat} (before : claims task = .none)
      (owned : (locks number).owner = some other) :
      LockChange claims locks task (update claims task (.waits number))
        (update locks number ⟨some other, (locks number).waiting ++ [task]⟩)
  | resumes {number : Nat} (before : claims task = .waits number)
      (owned : (locks number).owner = some task) :
      LockChange claims locks task (update claims task (.uses number)) locks
  | letsGo {number : Nat} (before : claims task = .uses number) :
      LockChange claims locks task (update claims task .none)
        (update locks number (locks number).next)

theorem claim_of_found {pool : Pool engine} {task : Nat} {current : Task engine}
    (found : pool.tasks[task]? = some current) : pool.claim task = current.activity.claim := by
  simp [claim, activity?, found]

theorem lock_of_known {pool : Pool engine} {number : Nat} {handle : Handle engine}
    (known : pool.store.handle? number = some handle) :
    pool.lock number = Lock.ofHandle handle :=
  view_of_known pool known

private theorem lockChange_of_eq {pool next : Pool engine} {task : Nat} {claims : Nat → Claim}
    {locks : Nat → Lock} (sameClaims : next.claim = claims) (sameLocks : next.lock = locks)
    (change : LockChange pool.claim pool.lock task claims locks) :
    LockChange pool.claim pool.lock task next.claim next.lock := by
  rw [sameClaims, sameLocks]
  exact change

theorem lock_worked (pool : Pool engine) (task number : Nat) (work : Pass.Work engine) :
    (pool.worked task number work).lock = pool.lock :=
  view_change_same pool rfl fun _ _ => rfl

theorem lock_unlock {pool : Pool engine} {number : Nat} {handle : Handle engine}
    (known : pool.store.handle? number = some handle) :
    (pool.unlock number).lock = update pool.lock number (pool.lock number).next := by
  rw [lock_of_known known, ← Lock.ofHandle_release]
  exact view_change pool known rfl

theorem handle?_worked {pool : Pool engine} {task number : Nat} {work : Pass.Work engine}
    {handle : Handle engine} (known : pool.store.handle? number = some handle) :
    (pool.worked task number work).store.handle? number = some (withWork work handle) := by
  simp [worked, handle?_change, known]

theorem Turn.lockChange {pool next : Pool engine} {task : Nat} {deeds : List (Deed engine)}
    (turn : Turn pool task deeds next) :
    LockChange pool.claim pool.lock task next.claim next.lock := by
  cases turn with
  | halts stuck => exact .unchanged
  | takesUp found => exact lockChange_of_eq (claim_place_same found rfl rfl) rfl .unchanged
  | evicts found => exact lockChange_of_eq (claim_place_same found rfl rfl) rfl .unchanged
  | turnsBack found arrived =>
      exact lockChange_of_eq (claim_place_same found rfl rfl) rfl .unchanged
  | arrives found arrived =>
      exact lockChange_of_eq (claim_place_same found rfl rfl) rfl .unchanged
  | enters found =>
      exact lockChange_of_eq (claim_place_same found (request_tasks _ _ _) rfl)
        (view_request pool _ _ rfl) .unchanged
  | registers found known =>
      exact lockChange_of_eq (claim_place_same found rfl rfl)
        (view_replace_same pool known rfl rfl) .unchanged
  | locks found known isFree =>
      have before := lock_of_known known
      refine lockChange_of_eq (claim_place found rfl _) (view_change pool known rfl) ?_
      have change := @LockChange.takes _ pool.lock _ _ (claim_of_found found)
        (by rw [before]; exact isFree)
      rw [before] at change
      exact change
  | queues found known owned =>
      have before := lock_of_known known
      refine lockChange_of_eq (claim_place found rfl _) (view_change pool known rfl) ?_
      have change := @LockChange.queues _ pool.lock _ _ _ (claim_of_found found)
        (by rw [before]; exact owned)
      rw [before, ← owned] at change
      exact change
  | resumes found known owned =>
      have before := lock_of_known known
      refine lockChange_of_eq (claim_place found rfl _) rfl ?_
      exact .resumes (claim_of_found found) (by rw [before]; exact owned)
  | passes found known phase current =>
      exact lockChange_of_eq (claim_place_same found rfl rfl) rfl .unchanged
  | yields found known phase outdated =>
      exact lockChange_of_eq (claim_place found rfl _) (lock_unlock known)
        (.letsGo (claim_of_found found))
  | waits found known remaining half reached =>
      exact lockChange_of_eq (claim_place_same found rfl rfl) (lock_worked pool task _ _) .unchanged
  | proceeds found known remaining half more =>
      exact lockChange_of_eq (claim_place_same found rfl rfl) (lock_worked pool task _ _) .unchanged
  | ends found known remaining half last =>
      refine lockChange_of_eq (claim_place found rfl _) (lock_unlock (handle?_worked known)) ?_
      rw [lock_worked]
      exact .letsGo (claim_of_found found)
  | departs found => exact lockChange_of_eq (claim_place_same found rfl rfl) rfl .unchanged
  | delivers found => exact lockChange_of_eq (claim_place_same found rfl rfl) rfl .unchanged

/-! ## Orderly locks -/

/-- Users own what they use, and all others wait in line behind an owner. -/
structure Orderly (claims : Nat → Claim) (locks : Nat → Lock) : Prop where
  user_owns : ∀ task number, claims task = .uses number → (locks number).owner = some task
  owner_claims : ∀ task number, (locks number).owner = some task →
    claims task = .waits number ∨ claims task = .uses number
  owner_apart : ∀ task number, (locks number).owner = some task → task ∉ (locks number).waiting
  waiter_claims : ∀ task number, task ∈ (locks number).waiting → claims task = .waits number
  waiter_stands : ∀ task number, claims task = .waits number →
    task ∈ (locks number).waiting ∨ (locks number).owner = some task
  line : ∀ number, (locks number).waiting.Nodup
  led : ∀ number, (locks number).owner = none → (locks number).waiting = []

namespace Orderly

variable {claims : Nat → Claim} {locks : Nat → Lock} {task number : Nat}

theorem takes (orderly : Orderly claims locks) (before : claims task = .none)
    (isFree : (locks number).owner = none) :
    Orderly (update claims task (.uses number))
      (update locks number ⟨some task, (locks number).waiting⟩) := by
  have unled := orderly.led number isFree
  rcases orderly with ⟨users, owners, apart, waiters, stands, line, led⟩
  constructor <;> grind [Function.update_apply]

theorem queues (orderly : Orderly claims locks) {other : Nat} (before : claims task = .none)
    (owned : (locks number).owner = some other) :
    Orderly (update claims task (.waits number))
      (update locks number ⟨some other, (locks number).waiting ++ [task]⟩) := by
  rcases orderly with ⟨users, owners, apart, waiters, stands, line, led⟩
  constructor <;> grind [Function.update_apply]

theorem resumes (orderly : Orderly claims locks) (before : claims task = .waits number)
    (owned : (locks number).owner = some task) :
    Orderly (update claims task (.uses number)) locks := by
  rcases orderly with ⟨users, owners, apart, waiters, stands, line, led⟩
  constructor <;> grind [Function.update_apply]

theorem letsGo (orderly : Orderly claims locks) (before : claims task = .uses number) :
    Orderly (update claims task .none) (update locks number (locks number).next) := by
  have owned := orderly.user_owns task number before
  cases waiting : (locks number).waiting with
  | nil =>
      simp only [Lock.next, waiting]
      rcases orderly with ⟨users, owners, apart, waiters, stands, line, led⟩
      constructor <;> grind [Function.update_apply]
  | cons first rest =>
      have firstWaits := orderly.waiter_claims first number (by simp [waiting])
      have firstOnce : first ∉ rest := by
        have line := orderly.line number
        rw [waiting] at line
        exact (List.nodup_cons.mp line).1
      simp only [Lock.next, waiting]
      rcases orderly with ⟨users, owners, apart, waiters, stands, line, led⟩
      constructor <;> grind [Function.update_apply]

theorem changed {nextClaims : Nat → Claim} {nextLocks : Nat → Lock}
    (orderly : Orderly claims locks)
    (change : LockChange claims locks task nextClaims nextLocks) :
    Orderly nextClaims nextLocks := by
  cases change with
  | unchanged => exact orderly
  | takes before isFree => exact orderly.takes before isFree
  | queues before owned => exact orderly.queues before owned
  | resumes before owned => exact orderly.resumes before owned
  | letsGo before => exact orderly.letsGo before

/-- Registries have one user. -/
theorem user_unique (orderly : Orderly claims locks) {left right : Nat}
    (leftUses : claims left = .uses number) (rightUses : claims right = .uses number) :
    left = right := by
  have leftOwns := orderly.user_owns left number leftUses
  have rightOwns := orderly.user_owns right number rightUses
  rw [leftOwns] at rightOwns
  exact Option.some.inj rightOwns

end Orderly

/-! ## Runs -/

theorem claim_of_activities {pool next : Pool engine}
    (same : ∀ task, (next.activity? task).map Activity.claim =
      (pool.activity? task).map Activity.claim) : next.claim = pool.claim := by
  funext task
  simp [claim, same]

theorem claim_spawn (pool : Pool engine) (jobs : List Job) : (pool.spawn jobs).claim = pool.claim := by
  funext task
  simp only [claim, activity?, spawn, List.getElem?_append]
  split
  · rfl
  · next outside =>
      cases position : task - pool.tasks.length with
      | zero => simp [List.getElem?_eq_none (Nat.le_of_not_lt outside), Activity.claim]
      | succ index => simp [List.getElem?_eq_none (Nat.le_of_not_lt outside)]

theorem claim_release (pool : Pool engine) : pool.release.claim = pool.claim := by
  apply claim_of_activities
  intro task
  simp only [activity?, release, List.getElem?_map, Option.map_map]
  congr 1
  funext current
  cases activity : current.activity with
  | running pass =>
      simp only [Function.comp_apply, activity, Activity.unblock]
      split <;> rfl
  | _ => simp [activity, Activity.unblock]

theorem issue_store (store : Store engine) (number : Nat) (document : Uri) :
    (store.issue number document).1 =
      store.change number fun handle => (handle.issue document).1 := by
  cases known : store.handle? number with
  | none =>
      have outside : store.handles.length ≤ number := List.getElem?_eq_none_iff.mp known
      simp [Store.issue, known, Store.change, List.modify_eq_self outside]
  | some handle =>
      have found : store.handles[number]? = some handle := known
      simp [Store.issue, known, Store.change, modify_eq_set found]

theorem view_issue {content : Type} {see : Handle engine → content} {absent : content}
    (pool : Pool engine) {next : Pool engine} {number : Nat} {document : Uri}
    (issued : next.store = (pool.store.issue number document).1)
    (unseen : ∀ handle : Handle engine, see (handle.issue document).1 = see handle) :
    next.view see absent = pool.view see absent := by
  rw [issue_store] at issued
  exact view_change_same pool issued fun handle _ => unseen handle

theorem orderly_after {pool : Pool engine} (orderly : Orderly pool.claim pool.lock) (move : Move) :
    Orderly (pool.after move).claim (pool.after move).lock := by
  cases move with
  | spawn jobs =>
      simp only [after, claim_spawn]
      exact orderly
  | step task => exact orderly.changed (turn_step pool task).lockChange
  | evict root => exact orderly
  | evictUnder folder => exact orderly
  | ticket root document =>
      have claims : (pool.requestTicket root document).1.claim = pool.claim := by
        apply claim_of_activities
        intro task
        simp [requestTicket, activity?]
      have locks : (pool.requestTicket root document).1.lock = pool.lock :=
        (view_issue (pool.request none root).1 rfl fun _ => rfl).trans
          (view_request pool none root rfl)
      simp only [after, claims, locks]
      exact orderly
  | arm point =>
      simp only [after, arm]
      split
      · exact orderly
      · exact orderly
  | release =>
      simp only [after, claim_release]
      exact orderly
  | change files => exact orderly

theorem orderly_empty (engine : Engine) (files : FileSystem) (capacity : Nat) :
    Orderly (Pool.empty engine files capacity).claim (Pool.empty engine files capacity).lock := by
  constructor <;> simp [claim, activity?, lock, view, empty, Store.empty, Store.handle?]

/-- In every run locks stay orderly. -/
theorem orderly_run (engine : Engine) (files : FileSystem) (capacity : Nat) (moves : List Move) :
    Orderly ((Pool.empty engine files capacity).run moves).claim
      ((Pool.empty engine files capacity).run moves).lock :=
  run_induction (fun _ pool => Orderly pool.claim pool.lock)
    (orderly_empty engine files capacity) (fun _ _ move orderly => orderly_after orderly move) moves

end TemplateCheck.Pool
