import WatchFirmware.RuntimeManager.Accounting

set_option autoImplicit false

namespace WatchFirmware.RuntimeManager

open Transition

variable {Call : Type}

namespace Runtime

section Settled

variable {s after : Runtime Call}

variable {owner : Owner} {body rest : Section Call}

theorem Settled.ordinary (settled : s.Settled) (locked : s.lock = some (owner, body))
    (before : body.isOrdinary = true) (lock : after.lock = some (owner, rest))
    (next : rest.isOrdinary = true) (pendings : after.pendings = s.pendings)
    (state : s.window.runtimeState = .gracePeriod → after.window.runtimeState = .gracePeriod) :
    after.Settled := by
  intro queue settles
  rw [running_held lock, Section.settles_ordinary next] at settles
  rw [pendings]
  refine settled queue ?_
  rw [running_held locked, Section.settles_ordinary before]
  exact decide_eq_true fun grace => of_decide_eq_true settles (state grace)

theorem setRuntimeState_grace {target : RuntimeState} (active : target.isActive = true)
    (grace : s.window.runtimeState = .gracePeriod) :
    (s.setRuntimeState target).1 = s := by
  unfold setRuntimeState
  cases target with
  | uiActive | backgroundActive => simp [grace]
  | sleep | gracePeriod => cases active

theorem setRuntimeState_pendings (target : RuntimeState) :
    (s.setRuntimeState target).1.pendings = s.pendings := congrArg Items.pendings (s.items_setRuntimeState target)

theorem begin_ordinary (s : Runtime Call) : s.runtimeManagerBeginCurfewUnsafe.2.isOrdinary = true := by
  unfold runtimeManagerBeginCurfewUnsafe
  dsimp only
  split <;> rfl

theorem Settled.drain {queue : WorkType} (settled : s.Settled)
    (locked : s.lock = some (owner, .drainPending queue)) (asleep : s.window.runtimeState = .sleep)
    (created : Bool) :
    Settled { (s.runSection (.drainPending queue) created).1 with
      lock := some (owner, (s.runSection (.drainPending queue) created).2) } := by
  have running := running_held locked
  simp only [runSection]
  cases drained : s.drainPendingQueue queue with
  | none =>
      have empty := drainPendingQueue_none drained (by rw [asleep]; simp)
      cases queue with
      | user =>
          intro other settles
          have isUser : other = .user := of_decide_eq_true settles
          rw [isUser]
          exact empty
      | system =>
          intro other _
          cases other with
          | user => exact settled .user (by rw [running]; rfl)
          | system => exact empty
  | some after =>
      obtain ⟨work, left, list, _, isMoved⟩ := drainPendingQueue_cases drained
      have pendings : after.pendings = Function.update s.pendings queue left := by
        rcases isMoved with ⟨_, rfl⟩ | ⟨_, rfl⟩ <;> rfl
      intro other settles
      cases queue with
      | user => cases settles
      | system =>
          obtain rfl : other = .user := of_decide_eq_true settles
          rw [show Runtime.pendings _ = after.pendings from rfl, pendings,
            Function.update_of_ne (by simp)]
          exact settled .user (by rw [running]; rfl)

theorem Settled.section (settled : s.Settled) (orderly : s.Orderly) (created : Bool)
    (locked : s.lock = some (owner, body)) :
    Settled { (s.runSection body created).1 with lock := some (owner, (s.runSection body created).2) } := by
  have fits := orderly.fits _ _ locked
  cases body with
  | scheduleWork queue item =>
      have kept := (s.scheduleWork_onlyQueues queue item).window
      by_cases grace : s.window.runtimeState = .gracePeriod
      · intro other settles
        refine absurd ?_ (of_decide_eq_true settles)
        exact (congrArg _ kept).trans grace
      · refine settled.ordinary locked rfl rfl rfl ?_ fun deferring => absurd deferring grace
        simp only [runSection, scheduleWork, grace, if_false]
        cases BoundedQueue.send (queueCapacity queue) (s.queues queue) _ <;> rfl
  | startWork =>
      refine settled.ordinary locked rfl rfl ?_ (setRuntimeState_pendings _) fun grace => ?_
      · rcases s.setRuntimeState_start orderly.ticks with rest | rest <;> simp only [runSection, rest] <;> rfl
      · simp only [runSection, setRuntimeState_grace orderly.ticks grace, grace]
  | sleep =>
      simp only [runSection, setRuntimeState]
      split
      · exact settled.ordinary locked rfl rfl rfl rfl id
      · intro other settles
        cases settles
  | registerHook | evaluateEarlyCurfew | curfewSettlementExpiry | gracePeriodExpiry =>
      simp only [runSection]
      split <;> exact settled.ordinary locked rfl rfl rfl rfl id
  | workWindowExpiry =>
      simp only [runSection]
      split
      · exact settled.ordinary locked rfl rfl s.begin_ordinary rfl id
      · exact settled.ordinary locked rfl rfl rfl rfl id
  | hasWork reading =>
      cases reading <;> simp only [runSection] <;> split <;>
        exact settled.ordinary locked rfl rfl rfl rfl id
  | idle asking =>
      cases asking with
      | evaluate =>
          refine settled.ordinary locked rfl rfl rfl s.armSettlement_onlyWindow.pendings fun grace => ?_
          exact s.armSettlement_runtimeState.trans grace
      | settlement =>
          simp only [runSection]
          split
          · exact settled.ordinary locked rfl rfl s.begin_ordinary rfl id
          · exact settled.ordinary locked rfl rfl rfl rfl id
      | curfew => exact settled.ordinary locked rfl rfl rfl rfl id
  | busy asking =>
      cases asking with
      | evaluate | settlement => exact settled.ordinary locked rfl rfl rfl rfl id
      | curfew =>
          intro queue _
          refine settled queue ?_
          rw [running_held locked]
          refine decide_eq_true fun grace => ?_
          rw [Section.fits, grace] at fits
          cases fits
  | submitHooks rest =>
      have empty : ∀ queue, s.pendings queue = [] := fun queue =>
        settled queue (by rw [running_held locked]; rfl)
      cases rest with
      | nil => exact fun queue _ => empty queue
      | cons hook rest =>
          intro queue _
          refine Eq.trans ?_ (empty queue)
          simp only [runSection, submitHook]
          cases BoundedQueue.send (queueCapacity .system) (s.queues .system) _ <;> rfl
  | drainPending queue => exact settled.drain locked (of_decide_eq_true fits) created
  | forceAbort rest =>
      cases rest with
      | nil => exact settled.ordinary locked rfl rfl rfl rfl id
      | cons i rest =>
          simp only [runSection]
          split <;> exact settled.ordinary locked rfl rfl rfl rfl id
  | recover i stage rest =>
      cases stage with
      | stop | exchange =>
          simp only [runSection]
          split <;> exact settled.ordinary locked rfl rfl rfl rfl id
      | delete =>
          have kept := s.deleteWorker_onlyWorkers i
          refine settled.ordinary locked rfl rfl rfl kept.pendings fun grace => ?_
          exact (congrArg _ kept.window).trans grace
      | subtract | create | clearAbort | clearWorking | park => exact settled.ordinary locked rfl rfl rfl rfl id
  | getState | unregisterHook | resetSettlementTimer | suspendAll | done =>
      exact settled.ordinary locked rfl rfl rfl rfl id

end Settled

structure Outside (s after : Runtime Call) : Prop where
  pendings : after.pendings = s.pendings
  state : after.window.runtimeState = s.window.runtimeState
  mark : after.ledger.graceMark = s.ledger.graceMark
  hooks : after.window.windowHooks = s.window.windowHooks
  running : after.running = s.running ∨ (s.running = .done ∧ after.running.isOrdinary = true)

section Outside

variable {s after : Runtime Call}

theorem Outside.same_lock (lock : after.lock = s.lock) (pendings : after.pendings = s.pendings)
    (state : after.window.runtimeState = s.window.runtimeState)
    (mark : after.ledger.graceMark = s.ledger.graceMark)
    (hooks : after.window.windowHooks = s.window.windowHooks) : Outside s after := by
  refine ⟨pendings, state, mark, hooks, .inl ?_⟩
  unfold Runtime.running
  rw [lock]

theorem Outside.acquire {owner : Owner} {body : Section Call}
    (acquired : s.acquire owner body = some after) (ordinary : body.isOrdinary = true) :
    Outside s after := by
  obtain ⟨free, rfl⟩ := acquire_eq_some acquired
  refine ⟨rfl, rfl, rfl, rfl, .inr ⟨?_, ordinary⟩⟩
  unfold Runtime.running
  rw [free]

theorem Request.body_ordinary (request : Request Call) : request.body.isOrdinary = true := by
  cases request <;> rfl

theorem outside_deleted (i : WorkerId) (task : TimerTask) :
    Outside s { s.deleteWorker i with timerTask := task } := by
  have kept := s.deleteWorker_onlyWorkers i
  refine ⟨kept.pendings, congrArg _ kept.window, ?_, congrArg _ kept.window, .inl ?_⟩
  · unfold deleteWorker
    dsimp only
    split
    · unfold Ledger.abandon
      split <;> rfl
    · rfl
  · unfold deleteWorker
    dsimp only
    split
    · unfold running
      cases s.lock <;> rfl
    · rfl

theorem outside_worker {i : WorkerId} (step : WorkerStep s i after) : Outside s after := by
  cases step with
  | reset work _ pc acquired => exact .acquire acquired rfl
  | evaluate _ pc acquired => exact .acquire acquired rfl
  | take | count | move | finish | leave => exact .same_lock rfl rfl rfl rfl rfl

theorem outside_timer {created : Bool} (taken : s.runTimerTask created = some after) :
    Outside s after := by
  unfold runTimerTask at taken
  cases task : s.timerTask with
  | idle => simp [task] at taken
  | window | grace | settlement =>
      simp only [task] at taken
      exact .acquire taken rfl
  | soft i | hard i =>
      simp only [task, Option.some.injEq] at taken
      subst taken
      exact .same_lock rfl rfl rfl rfl rfl
  | recover i stage =>
      cases stage with
      | exchange =>
          simp only [task] at taken
          split at taken <;> cases taken <;> exact .same_lock rfl rfl rfl rfl rfl
      | delete =>
          simp only [task, Option.some.injEq] at taken
          subst taken
          exact outside_deleted i _
      | subtract | create | clearAbort | clearWorking =>
          simp only [task, Option.some.injEq] at taken
          subst taken
          exact .same_lock rfl rfl rfl rfl rfl
      | stop | park => simp [task] at taken

theorem outside_fire {timer : TimerId} (taken : s.fire timer = some after) : Outside s after := by
  unfold Runtime.fire at taken
  split at taken
  next =>
    cases timer with
    | window | grace | settlement | soft | hard =>
        simp only [Option.ite_none_right_eq_some, Option.some.injEq] at taken
        obtain ⟨_, rfl⟩ := taken
        exact .same_lock rfl rfl rfl rfl rfl
  next => cases taken

theorem outside_timedOut (request : Request Call) : Outside s (s.timedOut request) := by
  cases request <;> exact .same_lock rfl rfl rfl rfl rfl

theorem outside_of_step {action : Action Call} (taken : s.step action = some after)
    (outside : ∀ created, action ≠ .advance created) : Outside s after := by
  cases action with
  | request request =>
      simp only [Runtime.step, Option.ite_none_right_eq_some] at taken
      exact .acquire taken.2 (Request.body_ordinary request)
  | requestTimeout request =>
      simp only [Runtime.step, Option.ite_none_right_eq_some, Option.some.injEq] at taken
      obtain ⟨_, rfl⟩ := taken
      exact outside_timedOut request
  | workTick => exact .acquire taken rfl
  | setActiveState | elapse =>
      cases taken
      exact .same_lock rfl rfl rfl rfl rfl
  | worker i =>
      simp only [Runtime.step, Option.ite_none_right_eq_some] at taken
      exact outside_worker (workerStep_of_entry taken.2)
  | workerTimeout i =>
      simp only [Runtime.step, Option.ite_none_right_eq_some] at taken
      obtain ⟨_, moved⟩ := taken
      cases pc : (s.workers i).pc with
      | counted | evaluate =>
          simp only [pc, Option.some.injEq] at moved
          subst moved
          exact .same_lock rfl rfl rfl rfl rfl
      | _ => simp [pc] at moved
  | call i request =>
      simp only [Runtime.step] at taken
      cases pc : (s.workers i).pc with
      | handle =>
          simp only [pc, Option.ite_none_right_eq_some] at taken
          exact .acquire taken.2 (Request.body_ordinary request)
      | _ => simp [pc] at taken
  | callTimeout i request =>
      simp only [Runtime.step] at taken
      cases pc : (s.workers i).pc with
      | handle =>
          simp only [pc, Option.ite_none_right_eq_some, Option.some.injEq] at taken
          obtain ⟨_, rfl⟩ := taken
          exact outside_timedOut request
      | _ => simp [pc] at taken
  | fire timer => exact outside_fire taken
  | timerTask created =>
      simp only [Runtime.step] at taken
      split at taken
      next => cases taken
      next => exact outside_timer taken
  | timerTimeout =>
      simp only [Runtime.step, Option.ite_none_right_eq_some] at taken
      obtain ⟨_, idled⟩ := taken
      cases task : s.timerTask with
      | window | grace | settlement =>
          simp only [task, Option.some.injEq] at idled
          subst idled
          exact .same_lock rfl rfl rfl rfl rfl
      | _ => simp [task] at idled
  | advance created => exact absurd rfl (outside created)

theorem Settled.outside (settled : s.Settled) (outside : Outside s after) : after.Settled := by
  intro queue settles
  rw [outside.pendings]
  refine settled queue ?_
  rw [outside.state] at settles
  rcases outside.running with same | ⟨free, ordinary⟩
  · rw [← same]
    exact settles
  · rw [free]
    rw [Section.settles_ordinary ordinary] at settles
    exact settles

theorem Settled.step {action : Action Call} (settled : s.Settled) (orderly : s.Orderly)
    (taken : s.step action = some after) : after.Settled := by
  cases action with
  | advance created =>
      obtain ⟨owner, body, locked, _, ⟨rfl, rfl⟩ | ⟨_, rfl⟩⟩ := advance_cases taken
      · intro queue settles
        refine (congrFun (congrArg Items.pendings (s.items_release owner)) queue).trans
          (settled queue ?_)
        rw [running_held locked]
        rw [running, release_lock, release_window] at settles
        exact settles
      · exact settled.section orderly created locked
  | _ => exact settled.outside (outside_of_step taken (by simp))

end Outside

structure Graced (s : Runtime Call) : Prop where
  waiting : s.window.runtimeState = .gracePeriod → ∀ work ∈ s.queues .user, work.id < s.ledger.graceMark
  purged : ∀ entry ∈ s.ledger.purged, entry.1.queue = .user ∧ entry.1.id < entry.2

section Graced

variable {s after : Runtime Call}

theorem setRuntimeState_notGrace {target : RuntimeState} (other : target ≠ .gracePeriod)
    (grace : (s.setRuntimeState target).1.window.runtimeState = .gracePeriod) :
    s.window.runtimeState = .gracePeriod := by
  unfold setRuntimeState at grace
  split at grace
  · exact grace
  · cases target with
    | uiActive | backgroundActive =>
        dsimp only at grace
        split at grace
        · cases grace
        · exact grace
    | sleep => cases grace
    | gracePeriod => exact absurd rfl other

theorem setRuntimeState_mark (target : RuntimeState) :
    (s.setRuntimeState target).1.ledger.graceMark = s.ledger.graceMark := by
  unfold setRuntimeState
  split
  · rfl
  · cases target with
    | uiActive | backgroundActive => dsimp only; split <;> rfl
    | sleep | gracePeriod => rfl

theorem armSettlement_ledger (s : Runtime Call) : s.armSettlement.ledger = s.ledger := by
  unfold armSettlement
  dsimp only
  split
  · rfl
  · split <;> rfl

theorem scheduleWork_mark (queue : WorkType) (item : WorkItem Call) :
    (s.scheduleWork queue item).2.ledger.graceMark = s.ledger.graceMark := by
  unfold scheduleWork
  dsimp only
  split
  · cases BoundedQueue.send (pendingCapacity queue) (s.pendings queue) _ <;> rfl
  · cases BoundedQueue.send (queueCapacity queue) (s.queues queue) _ <;> rfl

theorem section_mark {body : Section Call} (created : Bool) (orderly : s.Orderly)
    (grace : (s.runSection body created).1.window.runtimeState = .gracePeriod)
    (other : body ≠ .busy .curfew) :
    s.window.runtimeState = .gracePeriod ∧
      (s.runSection body created).1.ledger.graceMark = s.ledger.graceMark := by
  -- only the begin of a curfew starts a grace period and sets the mark
  cases body with
  | scheduleWork queue item =>
      have kept := (s.scheduleWork_onlyQueues queue item).window
      exact ⟨(congrArg _ kept).symm.trans grace, scheduleWork_mark queue item⟩
  | startWork =>
      refine ⟨setRuntimeState_notGrace ?_ grace, setRuntimeState_mark _⟩
      intro target
      have ticks := orderly.ticks
      rw [target] at ticks
      cases ticks
  | sleep => exact ⟨setRuntimeState_notGrace (by simp) grace, setRuntimeState_mark _⟩
  | registerHook | evaluateEarlyCurfew | workWindowExpiry | gracePeriodExpiry
  | curfewSettlementExpiry =>
      revert grace
      simp only [runSection]
      split <;> exact fun grace => ⟨grace, rfl⟩
  | hasWork reading asking =>
      cases reading with
      | active =>
          revert grace
          simp only [runSection]
          split <;> exact fun grace => ⟨grace, rfl⟩
      | system | user => exact ⟨grace, rfl⟩
  | idle asking =>
      cases asking with
      | evaluate =>
          refine ⟨s.armSettlement_runtimeState.symm.trans grace, ?_⟩
          exact congrArg Ledger.graceMark (armSettlement_ledger s)
      | settlement =>
          revert grace
          simp only [runSection]
          split <;> exact fun grace => ⟨grace, rfl⟩
      | curfew => exact ⟨grace, rfl⟩
  | busy asking =>
      cases asking with
      | evaluate | settlement => exact ⟨grace, rfl⟩
      | curfew => exact absurd rfl other
  | submitHooks rest =>
      cases rest with
      | nil => exact ⟨grace, rfl⟩
      | cons hook rest =>
          refine ⟨(congrArg _ (s.submitHook_onlyQueues hook).window).symm.trans grace, ?_⟩
          simp only [runSection, submitHook]
          cases BoundedQueue.send (queueCapacity .system) (s.queues .system) _ <;> rfl
  | drainPending queue =>
      simp only [runSection] at grace ⊢
      cases drained : s.drainPendingQueue queue with
      | none =>
          rw [drained] at grace
          exact ⟨grace, rfl⟩
      | some after =>
          rw [drained] at grace
          refine ⟨(congrArg _ (drainPendingQueue_onlyQueues drained).window).symm.trans grace, ?_⟩
          obtain ⟨_, _, _, _, ⟨_, rfl⟩ | ⟨_, rfl⟩⟩ := drainPendingQueue_cases drained <;> rfl
  | forceAbort rest =>
      cases rest with
      | nil => exact ⟨grace, rfl⟩
      | cons i rest =>
          exact ⟨grace, rfl⟩
  | recover i stage rest =>
      cases stage with
      | stop | exchange =>
          revert grace
          simp only [runSection]
          split <;> exact fun grace => ⟨grace, rfl⟩
      | delete =>
          have outside := outside_deleted (s := s) i s.timerTask
          exact ⟨outside.state.symm.trans grace, outside.mark⟩
      | subtract | create | clearAbort | clearWorking | park => exact ⟨grace, rfl⟩
  | getState | unregisterHook | resetSettlementTimer | suspendAll | done => exact ⟨grace, rfl⟩

theorem release_mark (owner : Owner) : (s.release owner).ledger = s.ledger := by
  unfold release
  cases owner with
  | worker i => cases pc : (s.workers i).pc <;> simp only [pc, setWorker]
  | client | timerTask | deleted => rfl

theorem grace_of_step {action : Action Call} (orderly : s.Orderly) (taken : s.step action = some after)
    (grace : after.window.runtimeState = .gracePeriod) :
    (s.window.runtimeState = .gracePeriod ∧ after.ledger.graceMark = s.ledger.graceMark) ∨
      (s.running = .busy .curfew ∧ after.ledger.graceMark = s.ledger.nextId) := by
  cases action with
  | advance created =>
      obtain ⟨owner, body, locked, _, ⟨rfl, rfl⟩ | ⟨_, rfl⟩⟩ := advance_cases taken
      · rw [release_window] at grace
        exact .inl ⟨grace, by rw [release_mark]⟩
      · by_cases begins : body = .busy .curfew
        · subst begins
          exact .inr ⟨running_held locked, rfl⟩
        · exact .inl (section_mark created orderly grace begins)
  | _ =>
      have outside := outside_of_step taken (by simp)
      exact .inl ⟨outside.state.symm.trans grace, outside.mark⟩

variable {action : Action Call} {next : Items Call}

theorem Flow.waiting (flow : Flow s action next) :
    ∀ work ∈ next.queues .user, work ∈ s.queues .user ∨
      (∃ queue item, s.running = .scheduleWork queue item ∧ s.window.runtimeState ≠ .gracePeriod) ∨
        ∃ queue, s.running = .drainPending queue := by
  intro work member
  cases flow with
  | still | defer | refuse | finish | drop | abandon => exact .inl member
  | send queue item running awake => exact .inr (.inl ⟨queue, item, running, awake⟩)
  | drain queue other rest running => exact .inr (.inr ⟨queue, running⟩)
  | hook => exact .inl (by simpa [Function.update] using member)
  | take i other rest _ _ list =>
      by_cases own : WorkType.user = workerType i
      · rw [← own] at member list
        simp only [Function.update_self] at member
        exact .inl (by simp [list, member])
      · exact .inl (by simpa [Function.update_of_ne own] using member)
  | purge => simp at member

theorem Flow.purged (flow : Flow s action next) (queued : Typed s.queues) (graced : s.Graced) :
    ∀ entry ∈ next.ledger.purged, entry.1.queue = .user ∧ entry.1.id < entry.2 := by
  intro entry member
  cases flow with
  | still | send | defer | refuse | hook | take | finish | drain | drop =>
      exact graced.purged entry member
  | abandon i =>
      obtain ⟨_, _, _, _, _, purged⟩ := abandon_rest s.ledger (s.workers i).pc
      simp only [Ledger.unmarked, purged] at member
      exact graced.purged entry member
  | purge _ grace =>
      rcases List.mem_append.mp member with old | new
      · exact graced.purged entry old
      · obtain ⟨work, waits, rfl⟩ := List.mem_map.mp new
        exact ⟨queued .user work waits, graced.waiting grace work waits⟩

theorem Graced.step (graced : s.Graced) (orderly : s.Orderly) (booked : s.items.Booked)
    (taken : s.step action = some after) : after.Graced := by
  have flow := flow_of_step orderly taken
  refine ⟨fun grace work member => ?_, flow.purged booked.queued graced⟩
  have origin := flow.waiting work member
  rcases grace_of_step orderly taken grace with ⟨before, mark⟩ | ⟨begins, mark⟩
  · rw [mark]
    rcases origin with waits | ⟨_, _, _, awake⟩ | ⟨queue, drains⟩
    · exact graced.waiting before work waits
    · exact absurd before awake
    · exfalso
      unfold Runtime.running at drains
      cases locked : s.lock with
      | none => simp [locked] at drains
      | some lock =>
          simp only [locked] at drains
          have fits := orderly.fits lock.1 lock.2 locked
          rw [drains, Section.fits, before] at fits
          cases fits
  · rw [mark]
    rcases origin with waits | ⟨_, _, schedules, _⟩ | ⟨queue, drains⟩
    · refine (booked.line .user).below work ?_
      simp [Items.line, items, waits]
    · rw [begins] at schedules
      cases schedules
    · rw [begins] at drains
      cases drains

end Graced

section Accounted

variable {s : Runtime Call}

theorem Initial.items (initial : s.Initial) : s.items = ⟨fun _ => [], fun _ => [], fun _ => [],
    ⟨0, [], [], fun _ => [], [], [], [], [], 0, false⟩⟩ := by
  have idle : s.held = fun _ => [] := by
    funext i
    obtain ⟨live, worker⟩ := initial.workers i
    rw [Runtime.held, worker]
    rfl
  rw [Runtime.items, initial.queues, initial.pendings, idle, initial.ledger]
  rfl

theorem Initial.booked (initial : s.Initial) : s.items.Booked := by
  rw [initial.items]
  refine ⟨fun f => ?_, rfl, List.Sublist.refl _, ?_, ?_, ?_⟩
  · simp [Items.load]
  · exact fun _ => List.forall_mem_nil _
  · exact fun _ => List.forall_mem_nil _
  · exact fun _ => ⟨List.Pairwise.nil, List.forall_mem_nil _⟩

theorem Initial.traced (initial : s.Initial) : s.items.Traced := by
  rw [initial.items]
  exact ⟨fun _ => List.forall_mem_nil _, fun _ => List.forall_mem_nil _, fun _ => List.forall_mem_nil _,
    List.forall_mem_nil _⟩

structure Accounted (s : Runtime Call) : Prop where
  booked : s.items.Booked
  traced : s.items.Traced
  settled : s.Settled
  graced : s.Graced

theorem accounted_of_reach {guard : Runtime Call → Action Call → Prop}
    (reached : Reach Runtime.step Initial guard s) : s.Accounted := by
  induction reached with
  | start initial =>
      refine ⟨Initial.booked initial, Initial.traced initial, ?_, ?_, ?_⟩
      · intro queue _
        rw [Initial.pendings initial]
      · rw [Initial.window initial]
        intro grace
        cases grace
      · rw [Initial.ledger initial]
        exact List.forall_mem_nil _
  | next before _ taken accounted =>
      have orderly := orderly_of_reach before
      have flow := flow_of_step orderly taken
      exact ⟨flow.booked accounted.booked accounted.settled,
        flow.traced accounted.traced accounted.booked.queued, accounted.settled.step orderly taken,
        accounted.graced.step orderly accounted.booked taken⟩

end Accounted

end Runtime

end WatchFirmware.RuntimeManager
