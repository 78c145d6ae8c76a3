import WatchFirmware.RuntimeManager.Api
import WatchFirmware.RuntimeManager.Deferral

set_option autoImplicit false

namespace WatchFirmware.RuntimeManager

open Transition

variable {Call : Type}

namespace Runtime

section HookTable

variable {s : Runtime Call}

theorem setRuntimeState_windowHooks (s : Runtime Call) (target : RuntimeState) :
    (s.setRuntimeState target).1.window.windowHooks = s.window.windowHooks := by
  unfold setRuntimeState
  split
  next => rfl
  next =>
    cases target with
    | uiActive | backgroundActive =>
        dsimp only
        split
        next => rfl
        next => rfl
    | sleep | gracePeriod => rfl

theorem armSettlement_windowHooks (s : Runtime Call) :
    s.armSettlement.window.windowHooks = s.window.windowHooks := by
  unfold armSettlement
  dsimp only
  split
  next => rfl
  next =>
    split
    next => rfl
    next => rfl

/-- Only the two hook calls change the table. -/
theorem runSection_windowHooks {body : Section Call} (register : ∀ hook, body ≠ .registerHook hook)
    (unregister : ∀ hook, body ≠ .unregisterHook hook) (created : Bool) :
    (s.runSection body created).1.window.windowHooks = s.window.windowHooks := by
  cases body with
  | registerHook hook => exact absurd rfl (register hook)
  | unregisterHook hook => exact absurd rfl (unregister hook)
  | scheduleWork queue item => exact congrArg _ (s.scheduleWork_onlyQueues queue item).window
  | startWork | sleep => exact s.setRuntimeState_windowHooks _
  | evaluateEarlyCurfew | workWindowExpiry | gracePeriodExpiry | curfewSettlementExpiry =>
      simp only [runSection]
      split
      next => rfl
      next => rfl
  | hasWork reading =>
      cases reading with
      | active =>
          simp only [runSection]
          split
          next => rfl
          next => rfl
      | system | user => rfl
  | idle asking =>
      cases asking with
      | evaluate => exact s.armSettlement_windowHooks
      | settlement =>
          simp only [runSection]
          split
          next => rfl
          next => rfl
      | curfew => rfl
  | busy asking =>
      cases asking with
      | curfew | evaluate | settlement => rfl
  | submitHooks rest =>
      cases rest with
      | nil => rfl
      | cons hook rest => exact congrArg _ (s.submitHook_onlyQueues hook).window
  | drainPending queue =>
      simp only [runSection]
      cases drained : s.drainPendingQueue queue with
      | none => rfl
      | some after => exact congrArg _ (drainPendingQueue_onlyQueues drained).window
  | forceAbort rest =>
      cases rest with
      | nil | cons => rfl
  | recover i stage rest =>
      cases stage with
      | stop | exchange =>
          simp only [runSection]
          split
          next => rfl
          next => rfl
      | delete => exact congrArg _ (s.deleteWorker_onlyWorkers i).window
      | subtract | create | clearAbort | clearWorking | park => rfl
  | getState | resetSettlementTimer | suspendAll | done => rfl

def HooksFit (s : Runtime Call) : Prop := s.window.windowHooks.length ≤ maxCurfewHooks

theorem HooksFit.section (fit : s.HooksFit) (body : Section Call) (created : Bool) :
    (s.runSection body created).1.HooksFit := by
  by_cases register : ∃ hook, body = .registerHook hook
  next =>
    obtain ⟨hook, rfl⟩ := register
    by_cases full : maxCurfewHooks ≤ s.window.windowHooks.length
    next =>
      rw [runSection, if_pos full]
      exact fit
    next =>
      rw [runSection, if_neg full, HooksFit, List.length_append, List.length_singleton]
      omega
  next =>
    by_cases unregister : ∃ hook, body = .unregisterHook hook
    next =>
      obtain ⟨hook, rfl⟩ := unregister
      exact (List.length_erase_le).trans fit
    next =>
      rw [HooksFit, runSection_windowHooks (not_exists.mp register) (not_exists.mp unregister)]
      exact fit

theorem HooksFit.step {after : Runtime Call} {action : Action Call} (fit : s.HooksFit)
    (taken : s.step action = some after) : after.HooksFit := by
  cases action with
  | advance created =>
      obtain ⟨owner, body, _, _, ⟨rfl, rfl⟩ | ⟨_, rfl⟩⟩ := advance_cases taken
      next =>
        rw [HooksFit, release_window]
        exact fit
      next => exact fit.section body created
  | _ =>
      rw [HooksFit, (outside_of_step taken (by simp)).hooks]
      exact fit

theorem hooksFit_of_reach {guard : Runtime Call → Action Call → Prop} (reached : Reach step Initial guard s) :
    s.HooksFit := by
  refine reached.invariant (fun state initial => ?_) fun state action after fit _ taken => fit.step taken
  rw [HooksFit, initial.window]
  exact Nat.zero_le _

end HookTable

def namedQueue (s : Runtime Call) : QueueName → Option (List (WorkItem Call))
  | .work type => some ((s.queues type).map Work.item)
  | .pending type => some ((s.pendings type).map Work.item)

def manager (s : Runtime Call) (bounded : s.HooksFit) : Manager Call where
  initialized := true
  shutdownInitialized := false
  runtimeLock := true
  runtimeState := s.window.runtimeState
  queues := s.namedQueue
  windowHooks := s.window.windowHooks.map some ++
    List.replicate (maxCurfewHooks - s.window.windowHooks.length) none
  activeHookCount := s.window.windowHooks.length
  pending_created := fun _ _ _ => rfl
  hooks_length := by
    rw [List.length_append, List.length_map, List.length_replicate]
    exact Nat.add_sub_of_le bounded
  count_le := bounded

variable {s : Runtime Call} {bounded : s.HooksFit}

theorem manager_hookTable : (s.manager bounded).hookTable = s.window.windowHooks.map some := by
  rw [Manager.hookTable, manager]
  exact List.take_left' (List.length_map _)

theorem namedQueue_pending {after : Runtime Call} (type : WorkType) (sent : List (Work Call))
    (queues : after.queues = s.queues) (pendings : after.pendings = Function.update s.pendings type sent) :
    Function.update s.namedQueue (.pending type) (some (sent.map Work.item)) = after.namedQueue := by
  funext name
  cases name with
  | work other =>
      rw [Function.update_of_ne (by simp), namedQueue, namedQueue, queues]
  | pending other =>
      by_cases same : other = type
      next =>
        rw [same, Function.update_self, namedQueue, pendings, Function.update_self]
      next =>
        rw [Function.update_of_ne (by simpa using same), namedQueue, namedQueue, pendings,
          Function.update_of_ne same]

theorem namedQueue_work {after : Runtime Call} (type : WorkType) (sent : List (Work Call))
    (pendings : after.pendings = s.pendings) (queues : after.queues = Function.update s.queues type sent) :
    Function.update s.namedQueue (.work type) (some (sent.map Work.item)) = after.namedQueue := by
  funext name
  cases name with
  | pending other =>
      rw [Function.update_of_ne (by simp), namedQueue, namedQueue, pendings]
  | work other =>
      by_cases same : other = type
      next =>
        rw [same, Function.update_self, namedQueue, queues, Function.update_self]
      next =>
        rw [Function.update_of_ne (by simpa using same), namedQueue, namedQueue, queues,
          Function.update_of_ne same]

/-- A step of a schedule section is the body of the call, and the call answers what the queue did. -/
theorem scheduleWork_manager (queue : WorkType) (item : WorkItem Call) (given : item.handler.isSome) :
    ∃ after, (s.manager bounded).scheduleWork true queue (some item) =
        some ((s.scheduleWork queue item).1, after) ∧
      after.queues = (s.scheduleWork queue item).2.namedQueue ∧
      after.hookTable = (s.manager bounded).hookTable := by
  have goes : ¬ (s.manager bounded).refusesWork queue (some item) = true := by
    simp [Manager.refusesWork, manager, namedQueue, Option.isSome_iff_ne_none.mp given]
  have locked : (s.manager bounded).acquireLockRuntime true = true := rfl
  let work : Work Call := ⟨s.ledger.nextId, queue, item⟩
  rw [Manager.scheduleWork, if_neg goes, Option.bind_some, Manager.withRuntimeLock, if_pos locked]
  by_cases grace : s.window.runtimeState = .gracePeriod
  next =>
    have sent : BoundedQueue.send (pendingCapacity queue) ((s.pendings queue).map Work.item) item =
        (BoundedQueue.send (pendingCapacity queue) (s.pendings queue) work).map (List.map Work.item) :=
      BoundedQueue.send_map Work.item _ _ work
    rw [if_pos (show (s.manager bounded).runtimeState = .gracePeriod from grace),
      Manager.xQueueSend_eq (show (s.manager bounded).queues (.pending queue) = _ from rfl),
      show (QueueName.pending queue).capacity = pendingCapacity queue from rfl, sent]
    simp only [scheduleWork, if_pos grace]
    cases BoundedQueue.send (pendingCapacity queue) (s.pendings queue) work with
    | none => exact ⟨_, rfl, rfl, rfl⟩
    | some sent => exact ⟨_, rfl, namedQueue_pending queue sent rfl rfl, rfl⟩
  next =>
    have sent : BoundedQueue.send (queueCapacity queue) ((s.queues queue).map Work.item) item =
        (BoundedQueue.send (queueCapacity queue) (s.queues queue) work).map (List.map Work.item) :=
      BoundedQueue.send_map Work.item _ _ work
    rw [if_neg (show (s.manager bounded).runtimeState ≠ .gracePeriod from grace),
      Manager.xQueueSend_eq (show (s.manager bounded).queues (.work queue) = _ from rfl),
      show (QueueName.work queue).capacity = queueCapacity queue from rfl, sent]
    simp only [scheduleWork, if_neg grace]
    cases BoundedQueue.send (queueCapacity queue) (s.queues queue) work with
    | none => exact ⟨_, rfl, rfl, rfl⟩
    | some sent => exact ⟨_, rfl, namedQueue_work queue sent rfl rfl, rfl⟩

/-- The steps of the other two sections are the bodies of their calls. -/
theorem registerHook_manager (hook : Hook) (created : Bool) :
    ((s.manager bounded).registerHook true (some hook)).2.hookTable =
      (s.runSection (.registerHook hook) created).1.window.windowHooks.map some := by
  have goes : ¬ (s.manager bounded).refusesHook (some hook) = true := by
    simp [Manager.refusesHook, manager]
  have locked : (s.manager bounded).acquireLockRuntime true = true := rfl
  have tells := ((s.manager bounded).registerHook_tells true (some hook)).mpr (.inr locked)
  by_cases room : s.window.windowHooks.length < maxCurfewHooks
  next =>
    have said : ((s.manager bounded).registerHook true (some hook)).1 = true := by
      rw [Manager.registerHook, if_neg goes, Manager.withRuntimeLock, if_pos locked,
        dif_pos (show (s.manager bounded).activeHookCount < maxCurfewHooks from room)]
    rw [(tells.1.mp said).1, manager_hookTable, runSection, if_neg (Nat.not_le.mpr room),
      List.map_append, List.map_singleton]
  next =>
    have said : ((s.manager bounded).registerHook true (some hook)).1 = false := by
      rw [Manager.registerHook, if_neg goes, Manager.withRuntimeLock, if_pos locked,
        dif_neg (show ¬ (s.manager bounded).activeHookCount < maxCurfewHooks from room)]
    rw [(tells.2 said).2, manager_hookTable, runSection, if_pos (Nat.le_of_not_lt room)]

theorem unregisterHook_manager (hook : Hook) (created : Bool) :
    ((s.manager bounded).unregisterHook true (some hook)).2.hookTable =
      (s.runSection (.unregisterHook hook) created).1.window.windowHooks.map some := by
  have erased : (s.window.windowHooks.erase hook).map some =
      (s.window.windowHooks.map some).erase (some hook) :=
    List.map_erase (Option.some_injective _) _
  have goes : ¬ (!(s.manager bounded).initialized || (some hook).isNone) = true := by simp [manager]
  have locked : (s.manager bounded).acquireLockRuntime true = true := rfl
  have hooks : (s.manager bounded).hookTable = s.window.windowHooks.map some := manager_hookTable
  rw [runSection, erased, ← hooks]
  rcases Manager.unregisterHook_locked goes locked with
    ⟨_, _, front, back, table, first, after, _⟩ | ⟨absent, _, unchanged⟩
  next =>
    rw [after, table, List.erase_append_right _ first, List.erase_cons_head]
  next =>
    rw [unchanged.2, List.erase_of_not_mem absent]

/-- A call that times out leaves the queues as they are. -/
theorem timedOut_manager (queue : WorkType) (item : WorkItem Call) (given : item.handler.isSome) :
    (s.manager bounded).scheduleWork false queue (some item) = some (true, s.manager bounded) ∧
      (s.timedOut (.scheduleWork queue item)).namedQueue = s.namedQueue := by
  have goes : ¬ (s.manager bounded).refusesWork queue (some item) = true := by
    simp [Manager.refusesWork, manager, namedQueue, Option.isSome_iff_ne_none.mp given]
  refine ⟨?_, rfl⟩
  rw [Manager.scheduleWork, if_neg goes]
  rfl

/-- The calls of the API, modelled on their own, do to a running manager what its locked sections do. -/
theorem calls_simulated {guard : Runtime Call → Action Call → Prop} (reached : Reach step Initial guard s) :
    ∃ bounded : s.HooksFit,
      (∀ queue (item : WorkItem Call), item.handler.isSome →
        (∃ after, (s.manager bounded).scheduleWork true queue (some item) =
            some ((s.scheduleWork queue item).1, after) ∧
          after.queues = (s.runSection (.scheduleWork queue item) true).1.namedQueue ∧
          after.hookTable = (s.runSection (.scheduleWork queue item) true).1.window.windowHooks.map some) ∧
        (s.manager bounded).scheduleWork false queue (some item) = some (true, s.manager bounded) ∧
        (s.timedOut (.scheduleWork queue item)).namedQueue = s.namedQueue) ∧
      (∀ hook, ((s.manager bounded).registerHook true (some hook)).2.hookTable =
        (s.runSection (.registerHook hook) true).1.window.windowHooks.map some) ∧
      ∀ hook, ((s.manager bounded).unregisterHook true (some hook)).2.hookTable =
        (s.runSection (.unregisterHook hook) true).1.window.windowHooks.map some := by
  have bounded := hooksFit_of_reach reached
  refine ⟨bounded, fun queue item given => ⟨?_, timedOut_manager queue item given⟩,
    fun hook => registerHook_manager hook true, fun hook => unregisterHook_manager hook true⟩
  obtain ⟨after, answered, queues, hooks⟩ := @scheduleWork_manager _ s bounded queue item given
  have same : (s.runSection (.scheduleWork queue item) true).1.window.windowHooks = s.window.windowHooks :=
    runSection_windowHooks (by simp) (by simp) true
  exact ⟨after, answered, queues, by rw [hooks, same, manager_hookTable]⟩

theorem calls_simulated_booted : ∃ bounded : booted.HooksFit,
    ((booted.manager bounded).registerHook true (some 5)).2.hookTable = [some 5] ∧
      ∃ after, (booted.manager bounded).scheduleWork true .system (some ⟨some (.call 1), .system⟩) =
          some (true, after) ∧
        after.queues (.work .system) = some [⟨some (.call 1), .system⟩] := by
  obtain ⟨bounded, schedule, register, _⟩ := @calls_simulated _ _ Unguarded (Reach.start booted_initial)
  obtain ⟨⟨after, answered, queues, _⟩, _⟩ := schedule .system ⟨some (.call 1), .system⟩ rfl
  exact ⟨bounded, register 5, after, answered, congrFun queues _⟩

end Runtime

end WatchFirmware.RuntimeManager
