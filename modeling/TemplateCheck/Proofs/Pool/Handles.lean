import TemplateCheck.Proofs.Pool.Locks

/-! # One live handle for every root

A handle is live while it is cached or some task holds it. Through every run,
whatever is evicted on the way, every live handle is filed under its own root,
and no root has two. So a request finds the live handle of its root, it makes
registries only where there is none, and the lock of the one handle keeps the
passes of a root apart.
-/

namespace TemplateCheck.Pool

open Roots (Ticket Handle Store Keeps)

variable {engine : Engine}

def rootOf? : Pool engine → Nat → Option Path := view (fun handle => some handle.root) none

/-- The root that a pass works on, with the handle it holds for it. -/
def Activity.site? : Activity engine → Option (Path × Nat)
  | .admitted context number => some (context.root, number)
  | .ticketed context number _ => some (context.root, number)
  | .queued context number _ => some (context.root, number)
  | .running pass => some (pass.context.root, pass.handle)
  | _ => none

/-- The cache knows the root of every handle that is held, and passes hold the
handles of their roots. -/
structure Tidy (pool : Pool engine) : Prop where
  keeps : Keeps pool.holds pool.rootOf? pool.store.cache.known
  sited : ∀ (task : Nat) (current : Task engine) (root : Path) (number : Nat),
    pool.tasks[task]? = some current → current.activity.site? = some (root, number) →
    ∃ own, pool.rootOf? number = some own ∧ own.same root = true

theorem rootOf?_unlock (pool : Pool engine) (number : Nat) :
    (pool.unlock number).rootOf? = pool.rootOf? := by
  apply view_change_same pool rfl
  intro handle known
  unfold Handle.release
  split <;> rfl

theorem rootOf?_worked (pool : Pool engine) (task number : Nat) (work : Pass.Work engine) :
    (pool.worked task number work).rootOf? = pool.rootOf? :=
  view_change_same pool rfl fun _ _ => rfl

/-- The holders after a task was put in place hold what they held, or what the
task holds. -/
theorem holds_of_place {pool next : Pool engine} {task : Nat} {new : Task engine}
    (sameTasks : next.tasks = pool.tasks) {number : Nat}
    (holds : (next.place task new).holds number = true) :
    pool.holds number = true ∨ new.activity.handle? = some number := by
  rcases holds_iff.mp holds with ⟨other, current, found, equal⟩
  simp only [place, List.getElem?_set, sameTasks] at found
  split at found
  · split at found
    · cases found
      exact Or.inr equal
    · cases found
  · exact Or.inl (holds_iff.mpr ⟨other, current, found, equal⟩)

theorem Tidy.of_views {pool : Pool engine} (tidy : pool.Tidy) (next : Pool engine)
    (sameCache : next.store.cache = pool.store.cache) (sameRoots : next.rootOf? = pool.rootOf?)
    (holders : ∀ number, next.holds number = true → pool.holds number = true)
    (sites : ∀ (task : Nat) (current : Task engine) (root : Path) (number : Nat),
      next.tasks[task]? = some current → current.activity.site? = some (root, number) →
      ∃ (other : Nat) (before : Task engine), pool.tasks[other]? = some before ∧
        before.activity.site? = some (root, number)) : next.Tidy where
  keeps := by
    rw [sameCache, sameRoots]
    exact tidy.keeps.letGo holders
  sited := by
    intro task current root number found site
    rcases sites task current root number found site with ⟨other, before, foundBefore, siteBefore⟩
    rw [sameRoots]
    exact tidy.sited other before root number foundBefore siteBefore

/-- A turn that leaves handles and cache alone, and takes up no handle. -/
theorem Tidy.place {pool next : Pool engine} (tidy : pool.Tidy) {task : Nat}
    {old new : Task engine} (found : pool.tasks[task]? = some old)
    (sameTasks : next.tasks = pool.tasks)
    (sameCache : next.store.cache = pool.store.cache)
    (sameRoots : next.rootOf? = pool.rootOf?)
    (handle : new.activity.handle? = old.activity.handle? ∨ new.activity.handle? = none)
    (site : new.activity.site? = old.activity.site? ∨ new.activity.site? = none) :
    (next.place task new).Tidy := by
  apply tidy.of_views (next.place task new) sameCache sameRoots
  · intro number holds
    rcases holds_of_place sameTasks holds with before | taken
    · exact before
    · rcases handle with same | nothing
      · exact holds_iff.mpr ⟨task, old, found, same ▸ taken⟩
      · rw [nothing] at taken
        cases taken
  · intro other current root number foundOther sites
    simp only [Pool.place, List.getElem?_set, sameTasks] at foundOther
    split at foundOther
    · split at foundOther
      · cases foundOther
        rcases site with same | nothing
        · exact ⟨task, old, found, same ▸ sites⟩
        · rw [nothing] at sites
          cases sites
      · cases foundOther
    · exact ⟨other, current, foundOther, sites⟩

/-- The cache may be changed as long as it keeps what is held. -/
theorem Tidy.recache {pool : Pool engine} (tidy : pool.Tidy) {cache : Roots.Cache}
    (keeps : Keeps pool.holds pool.rootOf? cache.known) :
    { pool with store := { pool.store with cache } }.Tidy where
  keeps := keeps
  sited := tidy.sited

theorem rootOf?_eq_store (pool : Pool engine) : pool.rootOf? = pool.store.rootOf? := by
  funext number
  cases known : pool.store.handle? number with
  | none => simp [rootOf?, view, Store.rootOf?, known]
  | some handle => simp [rootOf?, view, Store.rootOf?, known]

theorem rootOf?_eq_some {pool : Pool engine} {number : Nat} {root : Path} :
    pool.rootOf? number = some root ↔
      ∃ handle, pool.store.handle? number = some handle ∧ handle.root = root := by
  rw [rootOf?_eq_store]
  exact Store.rootOf?_eq_some

theorem rootOf?_request_of_some {pool : Pool engine} {task : Option Nat} {root own : Path}
    {number : Nat} (known : pool.rootOf? number = some own) :
    (pool.request task root).1.rootOf? number = some own := by
  rw [rootOf?_eq_store] at known
  rw [rootOf?_eq_store, request_store]
  exact Store.rootOf?_request_of_some known

theorem rootOf?_request_new {pool : Pool engine} {task : Option Nat} {root : Path}
    (isNew : (pool.request task root).2 = pool.store.handles.length) :
    (pool.request task root).1.rootOf? pool.store.handles.length = some root := by
  rw [request_number] at isNew
  rw [rootOf?_eq_store, request_store]
  exact Store.rootOf?_request_new isNew

/-- A request files the handle that it gives under its root. -/
theorem keeps_request {pool : Pool engine} (tidy : pool.Tidy) (task : Option Nat) (root : Path) :
    Keeps (fun other => pool.holds other || other == (pool.request task root).2)
      (pool.request task root).1.rootOf? (pool.request task root).1.store.cache.known := by
  have keeps := tidy.keeps
  rw [rootOf?_eq_store] at keeps
  rw [rootOf?_eq_store, request_store, request_number]
  exact Store.keeps_request keeps root

theorem rootOf?_request {pool : Pool engine} (tidy : pool.Tidy) (task : Option Nat) (root : Path) :
    ∃ own, (pool.request task root).1.rootOf? (pool.request task root).2 = some own ∧
      own.same root = true := by
  have chosen : (pool.request task root).2 =
      (pool.store.cache.request pool.holds pool.store.handles.length root).2 := by
    rw [request_number, Store.request_chosen]
  rcases Roots.Cache.request_known pool.holds pool.store.cache root pool.store.handles.length
    with isNew | ⟨entry, member, same, equal⟩
  · have number := chosen.trans isNew
    rw [number]
    exact ⟨root, rootOf?_request_new number, Path.same_refl root⟩
  · rcases tidy.keeps.rooted entry member with ⟨own, known, sameOwn⟩
    rw [chosen, ← equal]
    exact ⟨own, rootOf?_request_of_some known, Path.same_trans sameOwn same⟩

theorem Tidy.enters {pool : Pool engine} (tidy : pool.Tidy) (task : Nat) (jobs : List Job)
    (context : Pass.Context) :
    ((pool.request (some task) context.root).1.place task
      ⟨jobs, .admitted context (pool.request (some task) context.root).2⟩).Tidy where
  keeps := by
    apply (keeps_request tidy (some task) context.root).letGo
    intro number holds
    rcases holds_of_place (request_tasks pool _ _) holds with before | taken
    · simp [before]
    · have equal : (pool.request (some task) context.root).2 = number := by
        simpa [Activity.handle?] using taken
      simp [equal]
  sited := by
    intro other current root number foundOther sites
    simp only [Pool.place, List.getElem?_set, request_tasks] at foundOther
    split at foundOther
    · split at foundOther
      · cases foundOther
        cases sites
        exact rootOf?_request tidy (some task) context.root
      · cases foundOther
    · rcases tidy.sited other current root number foundOther sites with ⟨own, known, same⟩
      exact ⟨own, rootOf?_request_of_some known, same⟩

theorem Tidy.turned {pool next : Pool engine} (tidy : pool.Tidy) {task : Nat}
    {deeds : List (Deed engine)} (turn : Turn pool task deeds next) : next.Tidy := by
  cases turn with
  | halts stuck => exact tidy
  | takesUp found => exact tidy.place found rfl rfl rfl (Or.inl rfl) (Or.inl rfl)
  | @evicts folder jobs found =>
      have evicted := tidy.recache (Roots.Cache.keeps_evictUnder tidy.keeps folder)
      exact evicted.place found rfl rfl rfl (Or.inl rfl) (Or.inl rfl)
  | turnsBack found arrived => exact tidy.place found rfl rfl rfl (Or.inl rfl) (Or.inl rfl)
  | arrives found arrived => exact tidy.place found rfl rfl rfl (Or.inl rfl) (Or.inl rfl)
  | enters found => exact tidy.enters task _ _
  | registers found known =>
      exact tidy.place found rfl rfl (view_replace_same pool known rfl rfl) (Or.inl rfl) (Or.inl rfl)
  | locks found known isFree =>
      exact tidy.place found rfl rfl (view_replace_same pool known rfl rfl) (Or.inl rfl) (Or.inl rfl)
  | queues found known owned =>
      exact tidy.place found rfl rfl (view_replace_same pool known rfl rfl) (Or.inl rfl) (Or.inl rfl)
  | resumes found known owned => exact tidy.place found rfl rfl rfl (Or.inl rfl) (Or.inl rfl)
  | passes found known phase current =>
      exact tidy.place found rfl rfl rfl (Or.inl rfl) (Or.inl rfl)
  | yields found known phase outdated =>
      exact tidy.place found rfl rfl (rootOf?_unlock pool _) (Or.inl rfl) (Or.inr rfl)
  | waits found known remaining half reached =>
      exact tidy.place found rfl rfl (rootOf?_worked pool task _ _) (Or.inl rfl) (Or.inl rfl)
  | proceeds found known remaining half more =>
      exact tidy.place found rfl rfl (rootOf?_worked pool task _ _) (Or.inl rfl) (Or.inl rfl)
  | ends found known remaining half last =>
      exact tidy.place found rfl rfl
        ((rootOf?_unlock _ _).trans (rootOf?_worked pool task _ _)) (Or.inl rfl) (Or.inr rfl)
  | departs found => exact tidy.place found rfl rfl rfl (Or.inr rfl) (Or.inr rfl)
  | delivers found => exact tidy.place found rfl rfl rfl (Or.inl rfl) (Or.inl rfl)

theorem Tidy.spawned {pool : Pool engine} (tidy : pool.Tidy) (jobs : List Job) :
    (pool.spawn jobs).Tidy := by
  have old : ∀ (task : Nat) (current : Task engine), (pool.spawn jobs).tasks[task]? = some current →
      pool.tasks[task]? = some current ∨ current.activity = .idle := by
    intro task current found
    simp only [spawn, List.getElem?_append] at found
    split at found
    · exact Or.inl found
    · have member := List.mem_of_getElem? found
      rw [List.mem_singleton] at member
      exact Or.inr (by rw [member])
  apply tidy.of_views (pool.spawn jobs) rfl rfl
  · intro number holds
    rcases holds_iff.mp holds with ⟨task, current, found, handle⟩
    rcases old task current found with before | isIdle
    · exact holds_iff.mpr ⟨task, current, before, handle⟩
    · rw [isIdle] at handle
      cases handle
  · intro task current root number found site
    rcases old task current found with before | isIdle
    · exact ⟨task, current, before, site⟩
    · rw [isIdle] at site
      cases site

theorem Tidy.released {pool : Pool engine} (tidy : pool.Tidy) : pool.release.Tidy := by
  have sameViews : ∀ activity : Activity engine, activity.unblock.handle? = activity.handle? ∧
      activity.unblock.site? = activity.site? := by
    intro activity
    cases activity with
    | running pass =>
        simp only [Activity.unblock]
        split <;> exact ⟨rfl, rfl⟩
    | _ => exact ⟨rfl, rfl⟩
  have old : ∀ (task : Nat) (current : Task engine), pool.release.tasks[task]? = some current →
      ∃ before : Task engine, pool.tasks[task]? = some before ∧
        current.activity = before.activity.unblock := by
    intro task current found
    simp only [release, List.getElem?_map] at found
    rcases Option.map_eq_some_iff.mp found with ⟨before, foundBefore, equal⟩
    exact ⟨before, foundBefore, by rw [← equal]⟩
  apply tidy.of_views pool.release rfl rfl
  · intro number holds
    rcases holds_iff.mp holds with ⟨task, current, found, handle⟩
    rcases old task current found with ⟨before, foundBefore, unblocked⟩
    rw [unblocked, (sameViews before.activity).1] at handle
    exact holds_iff.mpr ⟨task, before, foundBefore, handle⟩
  · intro task current root number found site
    rcases old task current found with ⟨before, foundBefore, unblocked⟩
    rw [unblocked, (sameViews before.activity).2] at site
    exact ⟨task, before, foundBefore, site⟩

theorem Tidy.requested {pool : Pool engine} (tidy : pool.Tidy) (task : Option Nat) (root : Path) :
    (pool.request task root).1.Tidy where
  keeps := by
    apply (keeps_request tidy task root).letGo
    intro number holds
    have before : pool.holds number = true := by simpa [holds_iff] using holds
    simp [before]
  sited := by
    intro other current path number found site
    rw [request_tasks] at found
    rcases tidy.sited other current path number found site with ⟨own, known, same⟩
    exact ⟨own, rootOf?_request_of_some known, same⟩

theorem Tidy.after {pool : Pool engine} (tidy : pool.Tidy) (move : Move) :
    (pool.after move).Tidy := by
  cases move with
  | spawn jobs => exact tidy.spawned jobs
  | step task => exact tidy.turned (turn_step pool task)
  | evict root => exact tidy.recache (Roots.Cache.keeps_evict tidy.keeps root)
  | evictUnder folder => exact tidy.recache (Roots.Cache.keeps_evictUnder tidy.keeps folder)
  | ticket root document =>
      have requested := tidy.requested none root
      refine requested.of_views _ ?_ (view_issue _ rfl fun _ => rfl) ?_ ?_
      · have issued := issue_store (pool.request none root).1.store (pool.request none root).2 document
        exact (congrArg Store.cache issued).trans rfl
      · exact fun number holds => holds
      · exact fun task current path number found site => ⟨task, current, found, site⟩
  | arm point =>
      simp only [Pool.after, arm]
      split
      · exact tidy
      · exact ⟨tidy.keeps, tidy.sited⟩
  | release => exact tidy.released
  | change files => exact ⟨tidy.keeps, tidy.sited⟩

theorem tidy_empty (engine : Engine) (files : FileSystem) (capacity : Nat) :
    (Pool.empty engine files capacity).Tidy where
  keeps := Keeps.empty _
  sited := by simp [empty]

theorem tidy_run (engine : Engine) (files : FileSystem) (capacity : Nat) (moves : List Move) :
    ((Pool.empty engine files capacity).run moves).Tidy :=
  run_induction (fun _ pool => pool.Tidy) (tidy_empty engine files capacity)
    (fun _ _ move tidy => tidy.after move) moves

/-! ## Live handles -/

/-- A handle is live while it is cached or held. -/
def Live (pool : Pool engine) (number : Nat) : Prop :=
  (∃ entry ∈ pool.store.cache.cached, entry.2 = number) ∨ pool.holds number = true

/-- The entry of a live handle in the books of the cache. -/
theorem Tidy.entry_of_live {pool : Pool engine} (tidy : pool.Tidy) {number : Nat}
    (live : pool.Live number) :
    ∃ entry ∈ pool.store.cache.known, entry.2 = number ∧
      (entry ∈ pool.store.cache.cached ∨ pool.holds entry.2 = true) ∧
      ∃ handle, pool.store.handle? number = some handle ∧ handle.root.same entry.1 = true := by
  have rooted : ∀ entry ∈ pool.store.cache.known, entry.2 = number →
      ∃ handle, pool.store.handle? number = some handle ∧ handle.root.same entry.1 = true := by
    intro entry member equal
    rcases tidy.keeps.rooted entry member with ⟨root, found, same⟩
    rw [equal] at found
    rcases rootOf?_eq_some.mp found with ⟨handle, known, own⟩
    exact ⟨handle, known, own ▸ same⟩
  rcases live with ⟨entry, cached, equal⟩ | holds
  · have member : entry ∈ pool.store.cache.known := List.mem_append_left _ cached
    exact ⟨entry, member, equal, Or.inl cached, rooted entry member equal⟩
  · rcases tidy.keeps.remembered number holds with ⟨entry, member, equal⟩
    exact ⟨entry, member, equal, Or.inr (equal ▸ holds), rooted entry member equal⟩

theorem Tidy.live_unique {pool : Pool engine} (tidy : pool.Tidy) {left right : Nat}
    {leftHandle rightHandle : Handle engine} (leftLive : pool.Live left)
    (rightLive : pool.Live right) (leftKnown : pool.store.handle? left = some leftHandle)
    (rightKnown : pool.store.handle? right = some rightHandle)
    (same : leftHandle.root.same rightHandle.root = true) : left = right := by
  rcases tidy.entry_of_live leftLive with ⟨leftEntry, leftMember, leftNumber, _, handle, known, filed⟩
  rw [leftKnown] at known
  cases known
  rcases tidy.entry_of_live rightLive with
    ⟨rightEntry, rightMember, rightNumber, _, handle, known, filedRight⟩
  rw [rightKnown] at known
  cases known
  have sameEntry := tidy.keeps.distinct.eq_of_same leftMember rightMember
    (Path.same_trans (Path.same_symm filed) (Path.same_trans same filedRight))
  rw [← leftNumber, ← rightNumber, sameEntry]

theorem number_of_known {pool : Pool engine} {number : Nat} {handle : Handle engine}
    (known : pool.store.handle? number = some handle) : number < pool.store.handles.length :=
  (List.getElem?_eq_some_iff.mp known).1

/-- A request that finds a handle builds nothing. -/
theorem request_of_old {pool : Pool engine} {asker : Option Nat} {root : Path}
    (old : (pool.request asker root).2 < pool.store.handles.length) :
    (pool.request asker root).1.store.handles = pool.store.handles ∧
      (pool.request asker root).1.log = pool.log := by
  have notNew : (pool.store.cache.request pool.holds pool.store.handles.length root).2 ≠
      pool.store.handles.length := by
    rw [request_number, Store.request_chosen] at old
    exact Nat.ne_of_lt old
  simp [request, Store.request, notNew]

/-- A request that makes a handle builds its registries. -/
theorem request_of_new {pool : Pool engine} {asker : Option Nat} {root : Path}
    (isNew : (pool.request asker root).2 = pool.store.handles.length) :
    (pool.request asker root).1.store.handles = pool.store.handles ++ [.fresh engine root] ∧
      (pool.request asker root).1.log =
        pool.log ++ [.did asker (.call .newModels), .did asker (.call .newLogic)] := by
  rw [request_number, Store.request_chosen] at isNew
  simp [request, Store.request, isNew, note]

theorem Tidy.request_of_live {pool : Pool engine} (tidy : pool.Tidy) {number : Nat}
    (live : pool.Live number) {handle : Handle engine}
    (known : pool.store.handle? number = some handle) {root : Path}
    (same : handle.root.same root = true) (asker : Option Nat) :
    (pool.request asker root).2 = number := by
  rcases tidy.entry_of_live live with ⟨entry, member, equal, alive, found, foundKnown, filed⟩
  rw [known] at foundKnown
  cases foundKnown
  rw [request_number, Store.request_chosen, ← equal]
  exact Roots.Cache.request_of_live tidy.keeps member
    (Path.same_trans (Path.same_symm filed) same) alive

theorem Tidy.request_of_none_live {pool : Pool engine} (tidy : pool.Tidy) {root : Path}
    (none : ∀ number handle, pool.Live number → pool.store.handle? number = some handle →
      handle.root.same root = false) (asker : Option Nat) :
    (pool.request asker root).2 = pool.store.handles.length := by
  have dead : ∀ entry ∈ pool.store.cache.known, entry.1.same root = true →
      ¬ pool.Live entry.2 := by
    intro entry member same live
    rcases tidy.keeps.rooted entry member with ⟨own, found, filed⟩
    rcases rootOf?_eq_some.mp found with ⟨handle, known, equal⟩
    have apart := none entry.2 handle live known
    rw [equal, Path.same_trans filed same] at apart
    cases apart
  rw [request_number, Store.request_chosen]
  apply Roots.Cache.request_of_none_live
  intro entry member same
  constructor
  · intro cached
    exact dead entry member same (Or.inl ⟨entry, cached, rfl⟩)
  · cases holds : pool.holds entry.2 with
    | false => rfl
    | true => exact absurd (Or.inr holds) (dead entry member same)

/-! ## Passes of one root -/

/-- The owner of a lock holds the handle of the lock. -/
theorem live_of_owner {pool : Pool engine} (orderly : Orderly pool.claim pool.lock) {number : Nat}
    {handle : Handle engine} (known : pool.store.handle? number = some handle) {task : Nat}
    (owned : handle.owner = some task) : pool.Live number := by
  have owner : (pool.lock number).owner = some task := by
    rw [lock_of_known known]
    exact owned
  rcases found : pool.tasks[task]? with _ | current
  · have nothing : pool.claim task = .none := by simp [claim, activity?, found]
    rcases orderly.owner_claims task number owner with waits | uses
    · rw [nothing] at waits
      cases waits
    · rw [nothing] at uses
      cases uses
  · have claims := claim_of_found found
    refine Or.inr (holds_iff.mpr ⟨task, current, found, ?_⟩)
    rcases orderly.owner_claims task number owner with waits | uses
    · rw [claims] at waits
      cases activity : current.activity with
      | queued context other ticket => simpa [Activity.claim, activity, Activity.handle?] using waits
      | _ => simp [Activity.claim, activity] at waits
    · rw [claims] at uses
      cases activity : current.activity with
      | running pass => simpa [Activity.claim, activity, Activity.handle?] using uses
      | _ => simp [Activity.claim, activity] at uses

/-- A pass that runs owns the lock of the handle of its root. -/
theorem Tidy.owns {pool : Pool engine} (tidy : pool.Tidy)
    (orderly : Orderly pool.claim pool.lock) {task : Nat} {pass : Running engine}
    (runs : pool.activity? task = some (.running pass)) :
    ∃ handle, pool.store.handle? pass.handle = some handle ∧ handle.owner = some task ∧
      handle.root.same pass.context.root = true := by
  rcases Option.map_eq_some_iff.mp runs with ⟨current, found, activity⟩
  rcases tidy.sited task current pass.context.root pass.handle found (by rw [activity]; rfl) with
    ⟨own, rooted, same⟩
  rcases rootOf?_eq_some.mp rooted with ⟨handle, known, equal⟩
  have uses : pool.claim task = .uses pass.handle := by
    rw [claim_of_found found, activity]
    rfl
  have owner := orderly.user_owns task pass.handle uses
  rw [lock_of_known known] at owner
  exact ⟨handle, known, owner, equal ▸ same⟩

/-- What the handles of a pool promise to passes. -/
structure OneHandlePerRoot (pool : Pool engine) : Prop where
  known : ∀ number, pool.Live number → ∃ handle, pool.store.handle? number = some handle
  unique : ∀ left right leftHandle rightHandle, pool.Live left → pool.Live right →
    pool.store.handle? left = some leftHandle → pool.store.handle? right = some rightHandle →
    leftHandle.root.same rightHandle.root = true → left = right
  /-- A request gives the live handle of its root, and builds nothing. -/
  found : ∀ asker root number handle, pool.Live number →
    pool.store.handle? number = some handle → handle.root.same root = true →
    (pool.request asker root).2 = number ∧
      (pool.request asker root).1.store.handles = pool.store.handles ∧
      (pool.request asker root).1.log = pool.log
  /-- Where no handle is live, a request gives a new one with new registries. -/
  built : ∀ asker root,
    (∀ number handle, pool.Live number → pool.store.handle? number = some handle →
      handle.root.same root = false) →
    (pool.request asker root).2 = pool.store.handles.length ∧
      (pool.request asker root).1.store.handles = pool.store.handles ++ [.fresh engine root] ∧
      (pool.request asker root).1.log =
        pool.log ++ [.did asker (.call .newModels), .did asker (.call .newLogic)]
  /-- The locks of one root, whoever has been given them, are one lock. -/
  locked : ∀ left right leftHandle rightHandle,
    pool.store.handle? left = some leftHandle → pool.store.handle? right = some rightHandle →
    leftHandle.owner ≠ none → rightHandle.owner ≠ none →
    leftHandle.root.same rightHandle.root = true → left = right
  owns : ∀ task pass, pool.activity? task = some (.running pass) →
    ∃ handle, pool.store.handle? pass.handle = some handle ∧ handle.owner = some task ∧
      handle.root.same pass.context.root = true
  exclusive : ∀ left right leftPass rightPass,
    pool.activity? left = some (.running leftPass) →
    pool.activity? right = some (.running rightPass) →
    leftPass.context.root.same rightPass.context.root = true → left = right

/-- In every run a root has one live handle, and one pass at a time uses its
registries. -/
theorem oneHandlePerRoot_run (engine : Engine) (files : FileSystem) (capacity : Nat)
    (moves : List Move) : ((Pool.empty engine files capacity).run moves).OneHandlePerRoot := by
  have tidy := tidy_run engine files capacity moves
  have orderly := orderly_run engine files capacity moves
  generalize (Pool.empty engine files capacity).run moves = pool at tidy orderly
  have locked : ∀ left right leftHandle rightHandle,
      pool.store.handle? left = some leftHandle → pool.store.handle? right = some rightHandle →
      leftHandle.owner ≠ none → rightHandle.owner ≠ none →
      leftHandle.root.same rightHandle.root = true → left = right := by
    intro left right leftHandle rightHandle leftKnown rightKnown leftOwned rightOwned same
    rcases Option.ne_none_iff_exists'.mp leftOwned with ⟨leftTask, leftOwner⟩
    rcases Option.ne_none_iff_exists'.mp rightOwned with ⟨rightTask, rightOwner⟩
    exact tidy.live_unique (live_of_owner orderly leftKnown leftOwner)
      (live_of_owner orderly rightKnown rightOwner) leftKnown rightKnown same
  refine ⟨?known, ?unique, ?found, ?built, locked, ?owns, ?exclusive⟩
  case known =>
    intro number live
    rcases tidy.entry_of_live live with ⟨_, _, _, _, handle, known, _⟩
    exact ⟨handle, known⟩
  case unique =>
    intro left right leftHandle rightHandle leftLive rightLive leftKnown rightKnown same
    exact tidy.live_unique leftLive rightLive leftKnown rightKnown same
  case found =>
    intro asker root number handle live known same
    have given := tidy.request_of_live live known same asker
    have old : (pool.request asker root).2 < pool.store.handles.length := by
      rw [given]
      exact number_of_known known
    exact ⟨given, request_of_old old⟩
  case built =>
    intro asker root none
    have given := tidy.request_of_none_live none asker
    exact ⟨given, request_of_new given⟩
  case owns =>
    intro task pass runs
    exact tidy.owns orderly runs
  case exclusive =>
    intro left right leftPass rightPass leftRuns rightRuns same
    rcases tidy.owns orderly leftRuns with ⟨leftHandle, leftKnown, leftOwner, leftRoot⟩
    rcases tidy.owns orderly rightRuns with ⟨rightHandle, rightKnown, rightOwner, rightRoot⟩
    have sameRoot := Path.same_trans leftRoot (Path.same_trans same (Path.same_symm rightRoot))
    have oneHandle : leftPass.handle = rightPass.handle :=
      locked _ _ leftHandle rightHandle leftKnown rightKnown (by simp [leftOwner])
        (by simp [rightOwner]) sameRoot
    rw [oneHandle, rightKnown] at leftKnown
    cases leftKnown
    rw [leftOwner] at rightOwner
    exact Option.some.inj rightOwner

end TemplateCheck.Pool
