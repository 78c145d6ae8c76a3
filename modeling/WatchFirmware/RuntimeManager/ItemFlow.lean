import WatchFirmware.RuntimeManager.Idle

set_option autoImplicit false

namespace WatchFirmware.RuntimeManager

variable {Call : Type}

def Ledger.unmarked (ledger : Ledger Call) : Ledger Call :=
  { ledger with graceMark := 0, raced := false }

structure Items (Call : Type) where
  queues : WorkType → List (Work Call)
  pendings : WorkType → List (Work Call)
  held : WorkerId → List (Work Call)
  ledger : Ledger Call

namespace Runtime

def held (s : Runtime Call) (i : WorkerId) : List (Work Call) := (s.workers i).pc.held

def items (s : Runtime Call) : Items Call := ⟨s.queues, s.pendings, s.held, s.ledger.unmarked⟩

def nextWork (s : Runtime Call) (queue : WorkType) (item : WorkItem Call) : Work Call :=
  ⟨s.ledger.nextId, queue, item⟩

def hookWork (s : Runtime Call) (hook : Hook) : Work Call :=
  s.nextWork .system ⟨some (.curfewHook hook), .system⟩

/-- A schedule call that answers true although it timed out. -/
def TimesOut (action : Action Call) (queue : WorkType) (item : WorkItem Call) : Prop :=
  action = .requestTimeout (.scheduleWork queue item) ∨
    ∃ i, action = .callTimeout i (.scheduleWork queue item)

inductive Flow (s : Runtime Call) (action : Action Call) : Items Call → Prop where
  | still : Flow s action s.items
  | send (queue : WorkType) (item : WorkItem Call) (running : s.running = .scheduleWork queue item)
      (awake : s.window.runtimeState ≠ .gracePeriod) :
      Flow s action { s.items with
        queues := Function.update s.queues queue (s.queues queue ++ [s.nextWork queue item])
        ledger := (s.ledger.accept (s.nextWork queue item)).unmarked }
  | defer (queue : WorkType) (item : WorkItem Call) (running : s.running = .scheduleWork queue item)
      (grace : s.window.runtimeState = .gracePeriod) :
      Flow s action { s.items with
        pendings := Function.update s.pendings queue (s.pendings queue ++ [s.nextWork queue item])
        ledger := (s.ledger.accept (s.nextWork queue item)).unmarked }
  | refuse (queue : WorkType) (item : WorkItem Call) (timesOut : TimesOut action queue item) :
      Flow s action { s.items with
        ledger := { (s.ledger.accept (s.nextWork queue item)).unmarked with
          lost := s.ledger.lost ++ [s.nextWork queue item] } }
  | hook (hook : Hook) (rest : List Hook) (running : s.running = .submitHooks (hook :: rest)) :
      Flow s action { s.items with
        queues := Function.update s.queues .system (s.queues .system ++ [s.hookWork hook])
        ledger := (s.ledger.enter (s.hookWork hook)).unmarked }
  | take (i : WorkerId) (work : Work Call) (rest : List (Work Call)) (isTurn : action = .worker i)
      (pc : (s.workers i).pc = .receive) (queue : s.queues (workerType i) = work :: rest) :
      Flow s action { s.items with
        queues := Function.update s.queues (workerType i) rest
        held := Function.update s.held i [work]
        ledger := (s.ledger.take work).unmarked }
  | finish (i : WorkerId) (work : Work Call) (startedAwake : Bool) (isTurn : action = .worker i)
      (pc : (s.workers i).pc = .handle work startedAwake) :
      Flow s action { s.items with
        held := Function.update s.held i []
        ledger := { s.ledger.unmarked with completed := s.ledger.completed ++ [work] } }
  | drain (queue : WorkType) (work : Work Call) (rest : List (Work Call))
      (running : s.running = .drainPending queue) (list : s.pendings queue = work :: rest) :
      Flow s action { s.items with
        pendings := Function.update s.pendings queue rest
        queues := Function.update s.queues queue (s.queues queue ++ [work]) }
  | drop (queue : WorkType) (work : Work Call) (rest : List (Work Call)) (created : Bool)
      (isTurn : action = .advance created) (running : s.running = .drainPending queue)
      (list : s.pendings queue = work :: rest) (full : queueCapacity queue ≤ (s.queues queue).length) :
      Flow s action { s.items with
        pendings := Function.update s.pendings queue rest
        ledger := { s.ledger.unmarked with lost := s.ledger.lost ++ [work] } }
  | purge (running : s.running = .gracePeriodExpiry) (grace : s.window.runtimeState = .gracePeriod) :
      Flow s action { s.items with
        queues := Function.update s.queues .user []
        ledger := { s.ledger.unmarked with
          purged := s.ledger.purged ++ (s.queues .user).map fun work => (work, s.ledger.graceMark) } }
  | abandon (i : WorkerId) (live : (s.workers i).live = true) (deletes : s.Deletes action i) :
      Flow s action { s.items with
        held := Function.update s.held i []
        ledger := (s.ledger.abandon (s.workers i).pc).unmarked }

section Frames

variable {s after : Runtime Call} {action : Action Call}

theorem items_eq (queues : after.queues = s.queues) (pendings : after.pendings = s.pendings)
    (held : after.held = s.held) (ledger : after.ledger.unmarked = s.ledger.unmarked) :
    after.items = s.items := by
  unfold items
  rw [queues, pendings, held, ledger]

theorem Flow.of_still (still : after.items = s.items) : Flow s action after.items := by
  rw [still]
  exact .still

theorem held_update (s : Runtime Call) (i : WorkerId) (worker : Worker Call) :
    (s.setWorker i worker).held = Function.update s.held i worker.pc.held :=
  Function.comp_update (fun worker : Worker Call => worker.pc.held) s.workers i worker

theorem held_same {i : WorkerId} {worker : Worker Call} (same : worker.pc.held = s.held i) :
    (s.setWorker i worker).held = s.held := by
  rw [held_update, same]
  exact Function.update_eq_self i s.held

end Frames

theorem items_deleteWorker {s : Runtime Call} {i : WorkerId} (live : (s.workers i).live = true) :
    (s.deleteWorker i).items = { s.items with
      held := Function.update s.held i []
      ledger := (s.ledger.abandon (s.workers i).pc).unmarked } := by
  unfold deleteWorker
  simp only [live, if_true]
  have held := s.held_update i { s.workers i with live := false, pc := .receive }
  unfold items
  rw [← show _ = Function.update s.held i [] from held]
  rfl

theorem Flow.deleteWorker {s : Runtime Call} {action : Action Call} {i : WorkerId}
    (deletes : s.Deletes action i) : Flow s action (s.deleteWorker i).items := by
  by_cases live : (s.workers i).live = true
  · rw [items_deleteWorker live]
    exact .abandon i live deletes
  · refine .of_still ?_
    unfold Runtime.deleteWorker
    simp only [live, Bool.false_eq_true, if_false]

theorem items_createWorker {s : Runtime Call} {i : WorkerId} (created : Bool)
    (idle : (s.workers i).pc = .receive) : (s.createWorker i created).items = s.items := by
  refine items_eq rfl rfl (held_same ?_) rfl
  rw [held, idle]

theorem Flow.worker {s after : Runtime Call} {i : WorkerId} (step : WorkerStep s i after) :
    Flow s (.worker i) after.items := by
  cases step with
  | take work rest pc queue =>
      have flow := Flow.take i work rest rfl pc queue
      rw [← show _ = Function.update s.held i [work] from
        s.held_update i { s.workers i with pc := .received work }] at flow
      exact flow
  | count work pc => exact .of_still (items_eq rfl rfl (held_same (by rw [held, pc]; rfl)) rfl)
  | reset work _ pc acquired =>
      obtain ⟨_, rfl⟩ := acquire_eq_some acquired
      exact .of_still rfl
  | evaluate _ pc acquired =>
      obtain ⟨_, rfl⟩ := acquire_eq_some acquired
      exact .of_still rfl
  | move worker live suspended same counted wasCounted =>
      exact .of_still (items_eq rfl rfl (held_same same) rfl)
  | finish work startedAwake isUserTask pc =>
      have flow := Flow.finish i work startedAwake rfl pc
      rw [← show _ = Function.update s.held i [] from
        s.held_update i { s.workers i with pc := .handled isUserTask }] at flow
      exact flow
  | leave next pc done =>
      refine .of_still (items_eq rfl rfl (held_same ?_) rfl)
      rw [held, pc]
      rcases done with rfl | rfl <;> rfl

theorem Flow.scheduleWork {s : Runtime Call} {action : Action Call} {queue : WorkType}
    {item : WorkItem Call} (running : s.running = .scheduleWork queue item) :
    Flow s action (s.scheduleWork queue item).2.items := by
  unfold Runtime.scheduleWork
  dsimp only
  split
  next grace =>
    by_cases room : (s.pendings queue).length < pendingCapacity queue
    · simp only [BoundedQueue.send, room, if_true]
      exact .defer queue item running grace
    · simp only [BoundedQueue.send, room, if_false]
      exact .still
  next awake =>
    by_cases room : (s.queues queue).length < queueCapacity queue
    · simp only [BoundedQueue.send, room, if_true]
      exact .send queue item running awake
    · simp only [BoundedQueue.send, room, if_false]
      exact .still

theorem Flow.submitHook {s : Runtime Call} {action : Action Call} {hook : Hook} {rest : List Hook}
    (running : s.running = .submitHooks (hook :: rest)) : Flow s action (s.submitHook hook).items := by
  unfold Runtime.submitHook
  by_cases room : (s.queues .system).length < queueCapacity .system
  · simp only [BoundedQueue.send, room, if_true]
    exact .hook hook rest running
  · simp only [BoundedQueue.send, room, if_false]
    exact .still

theorem Flow.drainPendingQueue {s after : Runtime Call} {created : Bool} {queue : WorkType}
    (running : s.running = .drainPending queue) (drained : s.drainPendingQueue queue = some after) :
    Flow s (.advance created) after.items := by
  obtain ⟨work, rest, list, _, ⟨full, rfl⟩ | ⟨_, rfl⟩⟩ := drainPendingQueue_cases drained
  · exact .drop queue work rest created rfl running list full
  · exact .drain queue work rest running list

theorem items_setRuntimeState (s : Runtime Call) (target : RuntimeState) :
    (s.setRuntimeState target).1.items = s.items := by
  unfold setRuntimeState
  split
  · rfl
  · cases target with
    | uiActive | backgroundActive => dsimp only; split <;> rfl
    | sleep | gracePeriod => rfl

theorem items_armSettlement (s : Runtime Call) : s.armSettlement.items = s.items := by
  unfold armSettlement
  dsimp only
  split
  · rfl
  · split <;> rfl

theorem Flow.section {s : Runtime Call} (orderly : s.Orderly) {owner : Owner} {body : Section Call}
    (created : Bool) (locked : s.lock = some (owner, body)) :
    Flow s (.advance created) (s.runSection body created).1.items := by
  have running := running_held locked
  cases body with
  | scheduleWork queue item => exact .scheduleWork running
  | startWork => exact .of_still (s.items_setRuntimeState _)
  | sleep => exact .of_still (s.items_setRuntimeState _)
  | registerHook | evaluateEarlyCurfew | workWindowExpiry | curfewSettlementExpiry =>
      simp only [runSection]
      split <;> exact .of_still rfl
  | gracePeriodExpiry =>
      simp only [runSection]
      split
      next grace => exact .purge running grace
      next => exact .still
  | hasWork reading =>
      cases reading with
      | active => simp only [runSection]; split <;> exact .of_still rfl
      | system | user => exact .of_still rfl
  | idle asking =>
      cases asking with
      | evaluate => exact .of_still s.items_armSettlement
      | settlement => simp only [runSection]; split <;> exact .of_still rfl
      | curfew => exact .of_still rfl
  | busy asking => cases asking <;> exact .of_still rfl
  | submitHooks rest =>
      cases rest with
      | nil => exact .of_still rfl
      | cons hook rest => exact .submitHook running
  | drainPending queue =>
      simp only [runSection]
      cases drained : s.drainPendingQueue queue with
      | none => exact .of_still rfl
      | some after => exact .drainPendingQueue running drained
  | forceAbort rest =>
      cases rest with
      | nil => exact .of_still rfl
      | cons i rest =>
          exact .of_still rfl
  | recover i stage rest =>
      cases stage with
      | stop | exchange =>
          simp only [runSection]
          split
          · exact .of_still (items_eq rfl rfl (held_same rfl) rfl)
          · exact .of_still rfl
      | delete => exact .deleteWorker ⟨rest, running⟩
      | create =>
          have idle := orderly.dead i (orderly.respawned owner i .create rest rfl locked)
          exact .of_still (items_createWorker created idle)
      | subtract => exact .of_still rfl
      | clearAbort | clearWorking | park => exact .of_still (items_eq rfl rfl (held_same rfl) rfl)
  | getState | unregisterHook | resetSettlementTimer | suspendAll | done => exact .of_still rfl

theorem items_release (s : Runtime Call) (owner : Owner) : (s.release owner).items = s.items := by
  unfold release
  cases owner with
  | worker i =>
      cases pc : (s.workers i).pc with
      | counted work =>
          simp only [pc]
          exact items_eq rfl rfl (held_same (by rw [held, pc]; rfl)) rfl
      | evaluate =>
          simp only [pc]
          exact items_eq rfl rfl (held_same (by rw [held, pc]; rfl)) rfl
      | _ =>
          simp only [pc]
          rfl
  | client | timerTask | deleted => rfl

theorem Flow.advance {s after : Runtime Call} {created : Bool} (orderly : s.Orderly)
    (taken : s.advance created = some after) : Flow s (.advance created) after.items := by
  obtain ⟨owner, body, locked, _, ⟨_, rfl⟩ | ⟨_, rfl⟩⟩ := advance_cases taken
  · exact .of_still (s.items_release owner)
  · exact Flow.section orderly created locked

theorem Flow.acquire {s after : Runtime Call} {action : Action Call} {owner : Owner}
    {body : Section Call} (acquired : s.acquire owner body = some after) :
    Flow s action after.items := by
  obtain ⟨_, rfl⟩ := acquire_eq_some acquired
  exact .of_still rfl

theorem Flow.timer {s after : Runtime Call} {created : Bool} (orderly : s.Orderly)
    (taken : s.runTimerTask created = some after) : Flow s (.timerTask created) after.items := by
  unfold runTimerTask at taken
  cases task : s.timerTask with
  | idle => simp [task] at taken
  | window | grace | settlement =>
      simp only [task] at taken
      exact .acquire taken
  | soft i | hard i =>
      simp only [task, Option.some.injEq] at taken
      subst taken
      exact .of_still (items_eq rfl rfl (held_same rfl) rfl)
  | recover i stage =>
      cases stage with
      | exchange =>
          simp only [task] at taken
          split at taken
          next =>
            cases taken
            exact .of_still (items_eq rfl rfl (held_same rfl) rfl)
          next =>
            cases taken
            exact .of_still rfl
      | delete =>
          simp only [task, Option.some.injEq] at taken
          subst taken
          have deletes : s.Deletes (.timerTask created) i := task
          exact .deleteWorker deletes
      | create =>
          simp only [task, Option.some.injEq] at taken
          subst taken
          have idle := orderly.dead i (orderly.recreated i .create rfl task)
          exact .of_still (items_createWorker created idle)
      | subtract =>
          simp only [task, Option.some.injEq] at taken
          subst taken
          exact .of_still rfl
      | clearAbort | clearWorking =>
          simp only [task, Option.some.injEq] at taken
          subst taken
          exact .of_still (items_eq rfl rfl (held_same rfl) rfl)
      | stop | park => simp [task] at taken

theorem Flow.fire {s after : Runtime Call} {action : Action Call} {timer : TimerId}
    (taken : s.fire timer = some after) : Flow s action after.items := by
  unfold Runtime.fire at taken
  split at taken
  next =>
    cases timer with
    | window | grace | settlement =>
        simp only [Option.ite_none_right_eq_some, Option.some.injEq] at taken
        obtain ⟨_, rfl⟩ := taken
        exact .of_still rfl
    | soft i | hard i =>
        simp only [Option.ite_none_right_eq_some, Option.some.injEq] at taken
        obtain ⟨_, rfl⟩ := taken
        exact .of_still (items_eq rfl rfl (held_same rfl) rfl)
  next => cases taken

theorem Flow.timedOut {s : Runtime Call} {action : Action Call} {request : Request Call}
    (timesOut : ∀ queue item, request = .scheduleWork queue item → TimesOut action queue item) :
    Flow s action (s.timedOut request).items := by
  cases request with
  | scheduleWork queue item => exact .refuse queue item (timesOut queue item rfl)
  | getState | registerHook | unregisterHook => exact .of_still rfl

theorem flow_of_step {s after : Runtime Call} {action : Action Call} (orderly : s.Orderly)
    (taken : s.step action = some after) : Flow s action after.items := by
  cases action with
  | request request =>
      simp only [Runtime.step, Option.ite_none_right_eq_some] at taken
      exact .acquire taken.2
  | requestTimeout request =>
      simp only [Runtime.step, Option.ite_none_right_eq_some, Option.some.injEq] at taken
      obtain ⟨_, rfl⟩ := taken
      refine .timedOut fun queue item same => ?_
      rw [same]
      exact .inl rfl
  | workTick => exact .acquire taken
  | setActiveState | elapse =>
      cases taken
      exact .of_still rfl
  | worker i =>
      simp only [Runtime.step, Option.ite_none_right_eq_some] at taken
      exact .worker (workerStep_of_entry taken.2)
  | workerTimeout i =>
      simp only [Runtime.step, Option.ite_none_right_eq_some] at taken
      obtain ⟨_, moved⟩ := taken
      cases pc : (s.workers i).pc with
      | counted | evaluate =>
          simp only [pc, Option.some.injEq] at moved
          subst moved
          exact .of_still (items_eq rfl rfl (held_same (by rw [held, pc]; rfl)) rfl)
      | _ => simp [pc] at moved
  | call i request =>
      simp only [Runtime.step] at taken
      cases pc : (s.workers i).pc with
      | handle =>
          simp only [pc, Option.ite_none_right_eq_some] at taken
          exact .acquire taken.2
      | _ => simp [pc] at taken
  | callTimeout i request =>
      simp only [Runtime.step] at taken
      cases pc : (s.workers i).pc with
      | handle =>
          simp only [pc, Option.ite_none_right_eq_some, Option.some.injEq] at taken
          obtain ⟨_, rfl⟩ := taken
          refine .timedOut fun queue item same => ?_
          rw [same]
          exact .inr ⟨i, rfl⟩
      | _ => simp [pc] at taken
  | fire timer => exact .fire taken
  | timerTask created =>
      simp only [Runtime.step] at taken
      split at taken
      next => cases taken
      next => exact .timer orderly taken
  | timerTimeout =>
      simp only [Runtime.step, Option.ite_none_right_eq_some] at taken
      obtain ⟨_, idled⟩ := taken
      cases task : s.timerTask with
      | window | grace | settlement =>
          simp only [task, Option.some.injEq] at idled
          subst idled
          exact .of_still rfl
      | _ => simp [task] at idled
  | advance created => exact .advance orderly taken

theorem Flow.held_cases {s : Runtime Call} {action : Action Call} {next : Items Call}
    (flow : Flow s action next) :
    (∀ j, ∀ work ∈ next.held j, work ∈ s.held j) ∨
      ∃ i work rest, action = .worker i ∧ (s.workers i).pc = .receive ∧
        s.queues (workerType i) = work :: rest ∧ next.held = Function.update s.held i [work] := by
  have emptied : ∀ i, ∀ j, ∀ work ∈ Function.update s.held i [] j, work ∈ s.held j := by
    intro i j work member
    by_cases same : j = i
    · subst same
      simp at member
    · rwa [Function.update_of_ne same] at member
  cases flow with
  | take i work rest isTurn pc queue => exact .inr ⟨i, work, rest, isTurn, pc, queue, rfl⟩
  | finish i | abandon i => exact .inl (emptied i)
  | still | send | defer | refuse | hook | drain | drop | purge => exact .inl fun _ _ => id

def Schedules (action : Action Call) (queue : WorkType) (item : WorkItem Call) : Prop :=
  action = .request (.scheduleWork queue item) ∨ ∃ i, action = .call i (.scheduleWork queue item)

theorem begin_unscheduled (s : Runtime Call) (queue : WorkType) (item : WorkItem Call) :
    s.runtimeManagerBeginCurfewUnsafe.2 ≠ .scheduleWork queue item := by
  unfold runtimeManagerBeginCurfewUnsafe
  dsimp only
  split <;> simp

theorem runSection_unscheduled (s : Runtime Call) (body : Section Call) (created : Bool)
    (queue : WorkType) (item : WorkItem Call) :
    (s.runSection body created).2 ≠ .scheduleWork queue item := by
  cases body with
  | startWork | sleep =>
      simp only [runSection]
      rcases s.setRuntimeState_rest _ with rest | rest | rest <;> rw [rest] <;> simp
  | workWindowExpiry =>
      simp only [runSection]
      split
      · exact s.begin_unscheduled queue item
      · simp
  | registerHook | evaluateEarlyCurfew | gracePeriodExpiry | curfewSettlementExpiry =>
      simp only [runSection]
      split <;> simp
  | hasWork reading => cases reading <;> simp only [runSection] <;> split <;> simp
  | idle asking =>
      cases asking with
      | evaluate | curfew => simp [runSection]
      | settlement =>
          simp only [runSection]
          split
          · exact s.begin_unscheduled queue item
          · simp
  | busy asking => cases asking <;> simp [runSection]
  | submitHooks rest => cases rest <;> simp [runSection]
  | drainPending other =>
      simp only [runSection]
      cases s.drainPendingQueue other with
      | none => dsimp only; split <;> simp
      | some after => simp
  | forceAbort rest =>
      cases rest with
      | nil => simp [runSection]
      | cons i rest => simp only [runSection]; split <;> simp
  | recover i stage rest =>
      cases stage with
      | exchange => simp only [runSection]; split <;> simp
      | stop | delete | subtract | create | clearAbort | clearWorking | park => simp [runSection]
  | scheduleWork | getState | unregisterHook | resetSettlementTimer | suspendAll | done =>
      simp [runSection]

theorem running_acquired {s after : Runtime Call} {owner : Owner} {body : Section Call}
    (acquired : s.acquire owner body = some after) : after.running = body := by
  obtain ⟨_, rfl⟩ := acquire_eq_some acquired
  rfl

theorem running_same {s after : Runtime Call} (lock : after.lock = s.lock) :
    after.running = s.running := by
  unfold running
  rw [lock]

theorem running_deleted (s : Runtime Call) (i : WorkerId) (task : TimerTask) :
    Runtime.running { s.deleteWorker i with timerTask := task } = s.running := by
  unfold deleteWorker
  dsimp only
  split
  · unfold running
    cases s.lock <;> rfl
  · rfl

theorem scheduled_timer {s after : Runtime Call} {created : Bool} {queue : WorkType}
    {item : WorkItem Call} (taken : s.runTimerTask created = some after)
    (running : after.running = .scheduleWork queue item) : s.running = .scheduleWork queue item := by
  unfold runTimerTask at taken
  cases task : s.timerTask with
  | idle => simp [task] at taken
  | window | grace | settlement =>
      simp only [task] at taken
      cases (running_acquired taken).symm.trans running
  | soft i | hard i =>
      simp only [task, Option.some.injEq] at taken
      subst taken
      exact running
  | recover i stage =>
      cases stage with
      | exchange =>
          simp only [task] at taken
          split at taken <;> cases taken <;> exact running
      | delete =>
          simp only [task, Option.some.injEq] at taken
          subst taken
          exact (running_deleted s i _).symm.trans running
      | subtract | create | clearAbort | clearWorking =>
          simp only [task, Option.some.injEq] at taken
          subst taken
          exact running
      | stop | park => simp [task] at taken

theorem scheduled_of_step {s after : Runtime Call} {action : Action Call} {queue : WorkType}
    {item : WorkItem Call} (taken : s.step action = some after)
    (running : after.running = .scheduleWork queue item) :
    s.running = .scheduleWork queue item ∨ Schedules action queue item := by
  have kept : after.lock = s.lock → s.running = .scheduleWork queue item := fun lock =>
    (running_same lock).symm.trans running
  have entered : ∀ {owner : Owner} {body : Section Call}, s.acquire owner body = some after →
      body = .scheduleWork queue item := fun acquired => (running_acquired acquired).symm.trans running
  cases action with
  | request request =>
      simp only [Runtime.step, Option.ite_none_right_eq_some] at taken
      have body := entered taken.2
      cases request <;> cases body
      exact .inr (.inl rfl)
  | requestTimeout request =>
      simp only [Runtime.step, Option.ite_none_right_eq_some, Option.some.injEq] at taken
      obtain ⟨_, rfl⟩ := taken
      exact .inl (kept (by cases request <;> rfl))
  | workTick => cases entered taken
  | setActiveState | elapse =>
      cases taken
      exact .inl running
  | worker i =>
      simp only [Runtime.step, Option.ite_none_right_eq_some] at taken
      rcases (workerStep_of_entry taken.2).lock_or_moves with ⟨_, _, acquired⟩ | ⟨_, acquired⟩ | moves
      · cases entered acquired
      · cases entered acquired
      · exact .inl (kept moves.lock)
  | workerTimeout i =>
      simp only [Runtime.step, Option.ite_none_right_eq_some] at taken
      obtain ⟨_, moved⟩ := taken
      cases pc : (s.workers i).pc with
      | counted | evaluate =>
          simp only [pc, Option.some.injEq] at moved
          subst moved
          exact .inl running
      | _ => simp [pc] at moved
  | call i request =>
      simp only [Runtime.step] at taken
      cases pc : (s.workers i).pc with
      | handle =>
          simp only [pc, Option.ite_none_right_eq_some] at taken
          have body := entered taken.2
          cases request <;> cases body
          exact .inr (.inr ⟨i, rfl⟩)
      | _ => simp [pc] at taken
  | callTimeout i request =>
      simp only [Runtime.step] at taken
      cases pc : (s.workers i).pc with
      | handle =>
          simp only [pc, Option.ite_none_right_eq_some, Option.some.injEq] at taken
          obtain ⟨_, rfl⟩ := taken
          exact .inl (kept (by cases request <;> rfl))
      | _ => simp [pc] at taken
  | fire timer =>
      have fired : s.fire timer = some after := taken
      unfold Runtime.fire at fired
      split at fired
      next =>
        cases timer with
        | window | grace | settlement | soft | hard =>
            simp only [Option.ite_none_right_eq_some, Option.some.injEq] at fired
            obtain ⟨_, rfl⟩ := fired
            exact .inl running
      next => cases fired
  | timerTask created =>
      simp only [Runtime.step] at taken
      split at taken
      next => cases taken
      next => exact .inl (scheduled_timer taken running)
  | timerTimeout =>
      simp only [Runtime.step, Option.ite_none_right_eq_some] at taken
      obtain ⟨_, idled⟩ := taken
      cases task : s.timerTask with
      | window | grace | settlement =>
          simp only [task, Option.some.injEq] at idled
          subst idled
          exact .inl running
      | _ => simp [task] at idled
  | advance created =>
      obtain ⟨owner, body, locked, _, ⟨rfl, rfl⟩ | ⟨_, rfl⟩⟩ := advance_cases taken
      · unfold Runtime.running at running
        rw [release_lock] at running
        cases running
      · exact absurd running (s.runSection_unscheduled body created queue item)

end Runtime

end WatchFirmware.RuntimeManager
