import WatchFirmware.RuntimeManager.RuntimeManager

set_option autoImplicit false

namespace WatchFirmware.RuntimeManager

variable {Call : Type}

inductive QueueName where
  | work (type : WorkType)
  | pending (type : WorkType)
  deriving DecidableEq, Repr

def QueueName.capacity : QueueName → Nat
  | .work type => queueCapacity type
  | .pending type => pendingCapacity type

/-- The static variables behind the calls of `runtime_manager.h`; a NULL handle is `none`. -/
structure Manager (Call : Type) where
  initialized : Bool
  shutdownInitialized : Bool
  runtimeLock : Bool
  runtimeState : RuntimeState
  queues : QueueName → Option (List (WorkItem Call))
  windowHooks : List (Option Hook)
  activeHookCount : Nat
  -- Init sets `initialized` when all queues are there; deinit deletes the pending queues last.
  pending_created : initialized = true →
    ∀ type, (queues (.work type)).isSome → (queues (.pending type)).isSome
  hooks_length : windowHooks.length = maxCurfewHooks
  count_le : activeHookCount ≤ maxCurfewHooks

namespace Manager

def hookTable (s : Manager Call) : List (Option Hook) := s.windowHooks.take s.activeHookCount

/-- `taken` is what the timed `xSemaphoreTakeRecursive` answers. -/
def acquireLockRuntime (s : Manager Call) (taken : Bool) : Bool := s.runtimeLock && taken

/-- The loop of `WITH_RUNTIME_LOCK` runs its body once, or not at all. -/
def withRuntimeLock {α : Type} (s : Manager Call) (taken : Bool) (skipped body : α) : α :=
  if s.acquireLockRuntime taken then body else skipped

theorem created_update {queues : QueueName → Option (List (WorkItem Call))}
    (created : ∀ type, (queues (.work type)).isSome → (queues (.pending type)).isSome)
    {name : QueueName} {queue : List (WorkItem Call)} (given : queues name = some queue)
    (sent : List (WorkItem Call)) (type : WorkType)
    (exists_work : (Function.update queues name (some sent) (.work type)).isSome) :
    (Function.update queues name (some sent) (.pending type)).isSome := by
  by_cases pending : QueueName.pending type = name
  · rw [pending, Function.update_self]
    rfl
  · rw [Function.update_of_ne pending]
    apply created
    by_cases work : QueueName.work type = name
    · rw [work, given]
      rfl
    · rwa [Function.update_of_ne work] at exists_work

/-- `none` for a NULL handle, which the assertion in the kernel does not survive. -/
def xQueueSend (s : Manager Call) (name : QueueName) (item : WorkItem Call) :
    Option (Bool × Manager Call) :=
  match given : s.queues name with
  | none => none
  | some queue =>
      match BoundedQueue.send name.capacity queue item with
      | none => some (false, s)
      | some sent =>
          some (true, { s with
            queues := Function.update s.queues name (some sent)
            pending_created := fun ready => created_update (s.pending_created ready) given sent })

theorem xQueueSend_eq {s : Manager Call} {name : QueueName} {queue : List (WorkItem Call)}
    (given : s.queues name = some queue) (item : WorkItem Call) :
    s.xQueueSend name item =
      match BoundedQueue.send name.capacity queue item with
      | none => some (false, s)
      | some sent =>
          some (true, { s with
            queues := Function.update s.queues name (some sent)
            pending_created := fun ready => created_update (s.pending_created ready) given sent }) := by
  unfold xQueueSend
  split
  next missing => cases missing.symm.trans given
  next found =>
    obtain rfl := Option.some.inj (found.symm.trans given)
    rfl

/-- The guards of the schedule calls, before they try the lock. -/
def refusesWork (s : Manager Call) (type : WorkType) (item : Option (WorkItem Call)) : Bool :=
  !s.initialized || (s.queues (.work type)).isNone || (item.bind WorkItem.handler).isNone ||
    s.shutdownInitialized

def scheduleWork (s : Manager Call) (taken : Bool) (type : WorkType) (item : Option (WorkItem Call)) :
    Option (Bool × Manager Call) :=
  if s.refusesWork type item then some (false, s)
  else
    item.bind fun item =>
      s.withRuntimeLock taken (some (true, s))
        (if s.runtimeState = .gracePeriod then s.xQueueSend (.pending type) item
        else s.xQueueSend (.work type) item)

def scheduleUserWork (s : Manager Call) (taken : Bool) (item : Option (WorkItem Call)) :
    Option (Bool × Manager Call) := s.scheduleWork taken .user item

def scheduleSystemWork (s : Manager Call) (taken : Bool) (item : Option (WorkItem Call)) :
    Option (Bool × Manager Call) := s.scheduleWork taken .system item

def refusesHook (s : Manager Call) (hook : Option Hook) : Bool :=
  !s.initialized || hook.isNone || s.shutdownInitialized

def registerHook (s : Manager Call) (taken : Bool) (hook : Option Hook) : Bool × Manager Call :=
  if s.refusesHook hook then (false, s)
  else
    s.withRuntimeLock taken (true, s)
      (if room : s.activeHookCount < maxCurfewHooks then
        (true, { s with
          windowHooks := s.windowHooks.set s.activeHookCount hook
          activeHookCount := s.activeHookCount + 1
          hooks_length := by rw [List.length_set, s.hooks_length]
          count_le := room })
      else (false, s))

structure HookScan where
  success : Bool
  windowHooks : List (Option Hook)

/-- One turn of the loop of `runtime_manager_unregister_hook`. -/
def unregisterBody (hook : Option Hook) (count : Nat) (scan : HookScan) (i : Nat) : HookScan :=
  let success := scan.success || decide (scan.windowHooks[i]? = some hook)
  { success
    windowHooks :=
      if success ∧ i ≠ count - 1 then scan.windowHooks.set i (scan.windowHooks[i + 1]?.join)
      else scan.windowHooks }

def unregisterScan (hook : Option Hook) (count : Nat) (windowHooks : List (Option Hook)) : HookScan :=
  (List.range count).foldl (unregisterBody hook count) ⟨false, windowHooks⟩

theorem unregisterBody_length (hook : Option Hook) (count : Nat) (scan : HookScan) (i : Nat) :
    (unregisterBody hook count scan i).windowHooks.length = scan.windowHooks.length := by
  unfold unregisterBody
  simp only
  split
  · exact List.length_set
  · rfl

/-- The loop has gone through the first `i` entries: from the first match on they have moved up. -/
structure Scanned (hook : Option Hook) (count : Nat) (table : List (Option Hook)) (i : Nat)
    (scan : HookScan) : Prop where
  success : scan.success = decide (hook ∈ table.take i)
  length : scan.windowHooks.length = table.length
  moved : ∀ j, scan.windowHooks[j]? =
    if hook ∈ table.take (j + 1) ∧ j < i ∧ j ≠ count - 1 then table[j + 1]? else table[j]?

theorem mem_take_succ {hook : Option Hook} {table : List (Option Hook)} {i : Nat} :
    hook ∈ table.take (i + 1) ↔ hook ∈ table.take i ∨ table[i]? = some hook := by
  rw [List.take_add_one, List.mem_append, Option.mem_toList]

theorem Scanned.step {hook : Option Hook} {count i : Nat} {table : List (Option Hook)} {scan : HookScan}
    (scanned : Scanned hook count table i scan) (inside : i < count) (fits : count ≤ table.length) :
    Scanned hook count table (i + 1) (unregisterBody hook count scan i) := by
  have here : scan.windowHooks[i]? = table[i]? := by
    rw [scanned.moved, if_neg (fun moved => Nat.lt_irrefl i moved.2.1)]
  have ahead : scan.windowHooks[i + 1]? = table[i + 1]? := by
    rw [scanned.moved, if_neg (fun moved => absurd moved.2.1 (by omega))]
  have success : (scan.success || decide (scan.windowHooks[i]? = some hook)) =
      decide (hook ∈ table.take (i + 1)) := by
    rw [scanned.success, here, decide_eq_decide.mpr mem_take_succ, Bool.decide_or]
  refine ⟨success, (unregisterBody_length hook count scan i).trans scanned.length, ?_⟩
  intro j
  simp only [unregisterBody, success, decide_eq_true_eq, ahead]
  by_cases moves : hook ∈ table.take (i + 1) ∧ i ≠ count - 1
  · obtain ⟨next, given⟩ : ∃ next, table[i + 1]? = some next := by
      apply Option.isSome_iff_exists.mp
      simp only [isSome_getElem?]
      omega
    rw [if_pos moves, given, Option.join_some, List.getElem?_set]
    by_cases same : i = j
    · subst same
      rw [if_pos rfl, if_pos (by rw [scanned.length]; omega), if_pos ⟨moves.1, by omega, moves.2⟩, given]
    · rw [if_neg same, scanned.moved]
      have reached : j < i ↔ j < i + 1 := by omega
      simp only [reached]
  · rw [if_neg moves, scanned.moved]
    by_cases same : i = j
    · subst same
      rw [if_neg (fun moved => Nat.lt_irrefl i moved.2.1), if_neg (fun moved => moves ⟨moved.1, moved.2.2⟩)]
    · have reached : j < i ↔ j < i + 1 := by omega
      simp only [reached]

theorem unregisterScan_scanned (hook : Option Hook) {count : Nat} {table : List (Option Hook)}
    (fits : count ≤ table.length) : Scanned hook count table count (unregisterScan hook count table) := by
  have turns : ∀ i, i ≤ count → Scanned hook count table i
      ((List.range i).foldl (unregisterBody hook count) ⟨false, table⟩) := by
    intro i
    induction i with
    | zero =>
        intro _
        exact ⟨by simp, rfl, fun j => by simp⟩
    | succ i ih =>
        intro within
        rw [List.range_succ, List.foldl_append]
        exact (ih (by omega)).step (by omega) fits
  exact turns count (Nat.le_refl _)

def unregisterHook (s : Manager Call) (taken : Bool) (hook : Option Hook) : Bool × Manager Call :=
  if !s.initialized || hook.isNone then (false, s)
  else
    s.withRuntimeLock taken (false, s)
      (let scan := unregisterScan hook s.activeHookCount s.windowHooks
      if scan.success then
        (true, { s with
          windowHooks := scan.windowHooks.set (s.activeHookCount - 1) none
          activeHookCount := s.activeHookCount - 1
          hooks_length := by
            rw [List.length_set, (unregisterScan_scanned hook (by rw [s.hooks_length]; exact s.count_le)).length,
              s.hooks_length]
          count_le := Nat.le_trans (Nat.sub_le _ _) s.count_le })
      else
        (false, { s with
          windowHooks := scan.windowHooks
          hooks_length := by
            rw [(unregisterScan_scanned hook (by rw [s.hooks_length]; exact s.count_le)).length,
              s.hooks_length] }))

def Enqueues (s : Manager Call) (item : Option (WorkItem Call)) (after : Manager Call) : Prop :=
  ∃ name queue work, item = some work ∧ s.queues name = some queue ∧
    after.queues = Function.update s.queues name (some (queue ++ [work])) ∧
    after.hookTable = s.hookTable

def Registers (s : Manager Call) (hook : Option Hook) (after : Manager Call) : Prop :=
  after.hookTable = s.hookTable ++ [hook] ∧ after.queues = s.queues

def RemovesFirst (s : Manager Call) (hook : Option Hook) (after : Manager Call) : Prop :=
  ∃ front back, s.hookTable = front ++ hook :: back ∧ hook ∉ front ∧
    after.hookTable = front ++ back ∧ after.queues = s.queues

def Unchanged (s after : Manager Call) : Prop :=
  after.queues = s.queues ∧ after.hookTable = s.hookTable

/-- The answer is true when, and only when, the call did its work; else nothing changed. -/
def Tells (s : Manager Call) (done : Manager Call → Prop) (result : Bool × Manager Call) : Prop :=
  (result.1 = true ↔ done result.2) ∧ (result.1 = false → s.Unchanged result.2)

theorem not_enqueues (s : Manager Call) (item : Option (WorkItem Call)) : ¬ s.Enqueues item s := by
  rintro ⟨name, queue, work, _, given, queues, _⟩
  have same := congrFun queues name
  rw [given, Function.update_self, Option.some.injEq] at same
  have length := congrArg List.length same
  rw [List.length_append, List.length_singleton] at length
  omega

theorem not_registers (s : Manager Call) (hook : Option Hook) : ¬ s.Registers hook s := by
  intro ⟨table, _⟩
  have length := congrArg List.length table
  rw [List.length_append, List.length_singleton] at length
  omega

theorem not_removesFirst (s : Manager Call) (hook : Option Hook) {after : Manager Call}
    (same : after.hookTable = s.hookTable) : ¬ s.RemovesFirst hook after := by
  rintro ⟨front, back, before, _, table, _⟩
  have length := congrArg List.length (before.symm.trans (same.symm.trans table))
  rw [List.length_append, List.length_append, List.length_cons] at length
  omega

theorem tells_false {s after : Manager Call} {done : Manager Call → Prop} (none : ¬ done after)
    (unchanged : s.Unchanged after) : s.Tells done (false, after) :=
  ⟨⟨fun said => Bool.noConfusion said, fun did => absurd did none⟩, fun _ => unchanged⟩

theorem tells_true {s after : Manager Call} {done : Manager Call → Prop} :
    s.Tells done (true, after) ↔ done after := by
  constructor
  · intro tells
    exact tells.1.mp rfl
  · intro did
    exact ⟨iff_of_true rfl did, fun said => Bool.noConfusion said⟩

theorem refusesWork_false {s : Manager Call} {type : WorkType} {item : Option (WorkItem Call)}
    (goes : ¬ s.refusesWork type item = true) :
    s.initialized = true ∧ (s.queues (.work type)).isSome ∧ ∃ work, item = some work := by
  simp only [refusesWork, Bool.or_eq_true, not_or, Bool.not_eq_true] at goes
  obtain ⟨⟨⟨ready, created⟩, handler⟩, _⟩ := goes
  refine ⟨by simpa using ready, by simpa using created, ?_⟩
  cases item with
  | none => cases handler
  | some work => exact ⟨work, rfl⟩

theorem xQueueSend_tells {s : Manager Call} {name : QueueName} (created : (s.queues name).isSome)
    (work : WorkItem Call) :
    ∃ answer, s.xQueueSend name work = some answer ∧ s.Tells (s.Enqueues (some work)) answer := by
  obtain ⟨queue, given⟩ := Option.isSome_iff_exists.mp created
  rw [xQueueSend_eq given, BoundedQueue.send]
  by_cases room : queue.length < name.capacity
  · rw [if_pos room]
    exact ⟨_, rfl, tells_true.mpr ⟨name, queue, work, rfl, given, rfl, rfl⟩⟩
  · rw [if_neg room]
    exact ⟨_, rfl, tells_false (s.not_enqueues _) ⟨rfl, rfl⟩⟩

theorem scheduleWork_tells (s : Manager Call) (taken : Bool) (type : WorkType)
    (item : Option (WorkItem Call)) :
    ∃ answer, s.scheduleWork taken type item = some answer ∧
      (s.Tells (s.Enqueues item) answer ↔
        s.refusesWork type item = true ∨ s.acquireLockRuntime taken = true) := by
  unfold scheduleWork
  by_cases refused : s.refusesWork type item = true
  · rw [if_pos refused]
    exact ⟨_, rfl, fun _ => .inl refused, fun _ => tells_false (s.not_enqueues _) ⟨rfl, rfl⟩⟩
  · rw [if_neg refused]
    obtain ⟨ready, created, work, rfl⟩ := refusesWork_false refused
    simp only [Option.bind_some, withRuntimeLock]
    by_cases locked : s.acquireLockRuntime taken = true
    · rw [if_pos locked]
      obtain ⟨answer, sent, tells⟩ : ∃ answer,
          (if s.runtimeState = .gracePeriod then s.xQueueSend (.pending type) work
            else s.xQueueSend (.work type) work) = some answer ∧
            s.Tells (s.Enqueues (some work)) answer := by
        split
        · exact xQueueSend_tells (s.pending_created ready type created) work
        · exact xQueueSend_tells created work
      exact ⟨answer, sent, fun _ => .inr locked, fun _ => tells⟩
    · -- The result variable still holds pdPASS.
      rw [if_neg locked]
      refine ⟨_, rfl, ?_⟩
      rw [tells_true]
      exact ⟨fun did => absurd did (s.not_enqueues _), fun either => absurd either (not_or.mpr ⟨refused, locked⟩)⟩

theorem registerHook_tells (s : Manager Call) (taken : Bool) (hook : Option Hook) :
    s.Tells (s.Registers hook) (s.registerHook taken hook) ↔
      s.refusesHook hook = true ∨ s.acquireLockRuntime taken = true := by
  unfold registerHook
  by_cases refused : s.refusesHook hook = true
  · rw [if_pos refused]
    exact ⟨fun _ => .inl refused, fun _ => tells_false (s.not_registers _) ⟨rfl, rfl⟩⟩
  · rw [if_neg refused, withRuntimeLock]
    by_cases locked : s.acquireLockRuntime taken = true
    · rw [if_pos locked]
      refine ⟨fun _ => .inr locked, fun _ => ?_⟩
      split
      next room =>
        rw [tells_true]
        refine ⟨?_, rfl⟩
        have inside : s.activeHookCount < s.windowHooks.length := by
          rw [s.hooks_length]
          exact room
        rw [hookTable, hookTable, List.take_add_one, List.getElem?_set_self inside,
          List.take_set_of_le (Nat.le_refl _)]
        rfl
      next => exact tells_false (s.not_registers _) ⟨rfl, rfl⟩
    · rw [if_neg locked, tells_true]
      exact ⟨fun did => absurd did (s.not_registers _), fun either => absurd either (not_or.mpr ⟨refused, locked⟩)⟩

theorem Scanned.removes {hook : Option Hook} {count : Nat} {hooks : List (Option Hook)} {scan : HookScan}
    (scanned : Scanned hook count hooks count scan) (fits : count ≤ hooks.length)
    {front back : List (Option Hook)} (table : hooks.take count = front ++ hook :: back)
    (first : hook ∉ front) :
    (scan.windowHooks.set (count - 1) none).take (count - 1) = front ++ back := by
  have count_eq : count = front.length + 1 + back.length := by
    have length := congrArg List.length table
    rw [List.length_take, Nat.min_eq_left fits, List.length_append, List.length_cons] at length
    omega
  have entry (j : Nat) (inside : j < count) : hooks[j]? = (front ++ hook :: back)[j]? := by
    rw [← table, List.getElem?_take_of_lt inside]
  have early (j : Nat) (below : j < front.length) : hook ∉ hooks.take (j + 1) := by
    have taken : hooks.take (j + 1) = front.take (j + 1) := by
      rw [← Nat.min_eq_left (show j + 1 ≤ count by omega), ← List.take_take, table,
        Nat.min_eq_left (show j + 1 ≤ count by omega), List.take_append_of_le_length (by omega)]
    rw [taken]
    exact fun member => first (List.mem_of_mem_take member)
  have late (j : Nat) (above : front.length ≤ j) : hook ∈ hooks.take (j + 1) := by
    have found : hooks[front.length]? = some hook := by
      rw [entry _ (by omega), List.getElem?_append_right (Nat.le_refl _), Nat.sub_self,
        List.getElem?_cons_zero]
    exact List.mem_of_getElem? ((List.getElem?_take_of_lt (Nat.lt_succ_of_le above)).trans found)
  rw [List.take_set_of_le (Nat.le_refl _)]
  apply List.ext_getElem?
  intro j
  by_cases inside : j < count - 1
  · rw [List.getElem?_take_of_lt inside, scanned.moved]
    by_cases below : j < front.length
    · rw [if_neg (fun moved => early j below moved.1), entry j (by omega),
        List.getElem?_append_left below, List.getElem?_append_left below]
    · rw [if_pos ⟨late j (by omega), by omega, by omega⟩, entry (j + 1) (by omega),
        List.getElem?_append_right (by omega), List.getElem?_append_right (by omega),
        show j + 1 - front.length = (j - front.length) + 1 by omega, List.getElem?_cons_succ]
  · rw [List.getElem?_eq_none (by rw [List.length_take]; omega),
      List.getElem?_eq_none (by rw [List.length_append]; omega)]

theorem Scanned.keeps {hook : Option Hook} {count : Nat} {hooks : List (Option Hook)} {scan : HookScan}
    (scanned : Scanned hook count hooks count scan) (absent : hook ∉ hooks.take count) :
    scan.windowHooks.take count = hooks.take count := by
  apply List.ext_getElem?
  intro j
  by_cases inside : j < count
  · rw [List.getElem?_take_of_lt inside, List.getElem?_take_of_lt inside, scanned.moved, if_neg]
    intro moved
    exact absent (List.take_subset_take_left _ inside moved.1)
  · simp only [List.getElem?_take, if_neg inside]

theorem unregisterHook_locked {s : Manager Call} {taken : Bool} {hook : Option Hook}
    (goes : ¬ (!s.initialized || hook.isNone) = true) (locked : s.acquireLockRuntime taken = true) :
    (hook ∈ s.hookTable ∧ (s.unregisterHook taken hook).1 = true ∧
        s.RemovesFirst hook (s.unregisterHook taken hook).2) ∨
      (hook ∉ s.hookTable ∧ (s.unregisterHook taken hook).1 = false ∧
        s.Unchanged (s.unregisterHook taken hook).2) := by
  have fits : s.activeHookCount ≤ s.windowHooks.length := by
    rw [s.hooks_length]
    exact s.count_le
  have scanned := unregisterScan_scanned hook fits
  have success := scanned.success
  rw [unregisterHook, if_neg goes, withRuntimeLock, if_pos locked]
  by_cases member : hook ∈ s.windowHooks.take s.activeHookCount
  · simp only [success, decide_eq_true member, if_true]
    obtain ⟨front, back, table, first⟩ := List.eq_append_cons_of_mem member
    exact .inl ⟨member, trivial, front, back, table, first, scanned.removes fits table first, rfl⟩
  · simp only [success, decide_eq_false member, Bool.false_eq_true, if_false]
    exact .inr ⟨member, trivial, rfl, scanned.keeps member⟩

theorem unregisterHook_tells (s : Manager Call) (taken : Bool) (hook : Option Hook) :
    s.Tells (s.RemovesFirst hook) (s.unregisterHook taken hook) := by
  by_cases refused : (!s.initialized || hook.isNone) = true
  · rw [unregisterHook, if_pos refused]
    exact tells_false (s.not_removesFirst _ rfl) ⟨rfl, rfl⟩
  by_cases locked : s.acquireLockRuntime taken = true
  · rcases unregisterHook_locked refused locked with ⟨_, said, removed⟩ | ⟨_, said, unchanged⟩
    · exact ⟨iff_of_true said removed, fun other => absurd (said.symm.trans other) (by decide)⟩
    · refine ⟨iff_of_false ?_ (s.not_removesFirst _ unchanged.2), fun _ => unchanged⟩
      rw [said]
      decide
  · rw [unregisterHook, if_neg refused, withRuntimeLock, if_neg locked]
    exact tells_false (s.not_removesFirst _ rfl) ⟨rfl, rfl⟩

/-- The API tells the truth exactly when a call that gets as far as the lock also gets it. -/
theorem answers_truthful_iff (s : Manager Call) (taken : Bool) :
    (∀ item, ∃ answer, s.scheduleUserWork taken item = some answer ∧
      (s.Tells (s.Enqueues item) answer ↔
        s.refusesWork .user item = true ∨ s.acquireLockRuntime taken = true)) ∧
    (∀ item, ∃ answer, s.scheduleSystemWork taken item = some answer ∧
      (s.Tells (s.Enqueues item) answer ↔
        s.refusesWork .system item = true ∨ s.acquireLockRuntime taken = true)) ∧
    (∀ hook, s.Tells (s.Registers hook) (s.registerHook taken hook) ↔
      s.refusesHook hook = true ∨ s.acquireLockRuntime taken = true) ∧
    ∀ hook, s.Tells (s.RemovesFirst hook) (s.unregisterHook taken hook) :=
  ⟨s.scheduleWork_tells taken .user, s.scheduleWork_tells taken .system, s.registerHook_tells taken,
    s.unregisterHook_tells taken⟩

/-- What `runtime_manager_init` leaves. -/
def fresh : Manager Nat where
  initialized := true
  shutdownInitialized := false
  runtimeLock := true
  runtimeState := .sleep
  queues := fun _ => some []
  windowHooks := List.replicate maxCurfewHooks none
  activeHookCount := 0
  pending_created := fun _ _ _ => rfl
  hooks_length := List.length_replicate
  count_le := Nat.zero_le _

/-- The lock stays taken for 50 ms: an item and a hook are dropped, and both calls answer true. -/
theorem timeout_answers_true :
    (∃ answer, fresh.scheduleUserWork false (some ⟨some (.call 1), .user⟩) = some answer ∧
      ¬ fresh.Tells (fresh.Enqueues (some ⟨some (.call 1), .user⟩)) answer) ∧
    (∃ answer, fresh.scheduleSystemWork false (some ⟨some (.call 1), .system⟩) = some answer ∧
      ¬ fresh.Tells (fresh.Enqueues (some ⟨some (.call 1), .system⟩)) answer) ∧
    ¬ fresh.Tells (fresh.Registers (some 7)) (fresh.registerHook false (some 7)) := by
  refine ⟨⟨(true, fresh), rfl, ?_⟩, ⟨(true, fresh), rfl, ?_⟩, ?_⟩
  · rw [tells_true]
    exact fresh.not_enqueues _
  · rw [tells_true]
    exact fresh.not_enqueues _
  · rw [show fresh.registerHook false (some 7) = (true, fresh) from rfl, tells_true]
    exact fresh.not_registers _

end Manager

end WatchFirmware.RuntimeManager
