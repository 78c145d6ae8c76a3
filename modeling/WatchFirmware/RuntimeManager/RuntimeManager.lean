import WatchFirmware.RuntimeManager.Types
import WatchFirmware.Shared.BoundedQueue
import WatchFirmware.Shared.Transition

set_option autoImplicit false

namespace WatchFirmware.RuntimeManager

variable {Call : Type}

-- The steps of worker_pool_recover_stalled_worker; the mandatory abort stops the timers in front of it.
inductive Recovery where
  | stop
  | exchange
  | delete
  | subtract
  | create
  | clearAbort
  | clearWorking
  | park
  deriving DecidableEq, Repr

/-- The three reads of `worker_pool_has_work`. -/
inductive Reading where
  | active
  | system
  | user
  deriving DecidableEq, Repr

/-- The function that asked `worker_pool_has_work`. -/
inductive Asking where
  | evaluate
  | settlement
  | curfew
  deriving DecidableEq, Repr

inductive Cause where
  | idle
  | graceExpired
  deriving DecidableEq, Repr

-- What is left to run of a WITH_RUNTIME_LOCK body. A nested lock of the owner always succeeds, so
-- the bodies of the functions called under the lock are parts of the caller's section.
inductive Section (Call : Type) where
  | scheduleWork (queue : WorkType) (item : WorkItem Call)
  | getState
  | registerHook (hook : Hook)
  | unregisterHook (hook : Hook)
  | resetSettlementTimer
  | startWork
  | evaluateEarlyCurfew
  | workWindowExpiry
  | gracePeriodExpiry
  | curfewSettlementExpiry
  | hasWork (reading : Reading) (asking : Asking)
  | idle (asking : Asking)
  | busy (asking : Asking)
  | submitHooks (rest : List Hook)
  | sleep (cause : Cause)
  | drainPending (queue : WorkType)
  | forceAbort (rest : List WorkerId)
  | recover (i : WorkerId) (stage : Recovery) (rest : List WorkerId)
  | suspendAll
  | done
  deriving DecidableEq, Repr

inductive Owner where
  | worker (i : WorkerId)
  | client
  | timerTask
  | deleted
  deriving DecidableEq, Repr

/-- The callback the esp_timer task is in; a callback of the manager first waits for the lock. -/
inductive TimerTask where
  | idle
  | window
  | grace
  | settlement
  | soft (i : WorkerId)
  | hard (i : WorkerId)
  | recover (i : WorkerId) (stage : Recovery)
  deriving DecidableEq, Repr

-- Bookkeeping: what became of every item. graceMark is nextId at the start of the grace period;
-- raced says that a worker took an item out of its queue since the first read of has_work, or had
-- taken one and not counted it.
structure Ledger (Call : Type) where
  nextId : Nat
  entered : List (Work Call)
  accepted : List (Work Call)
  taken : WorkType → List (Work Call)
  completed : List (Work Call)
  purged : List (Work Call × Nat)
  aborted : List (Work Call)
  lost : List (Work Call)
  graceMark : Nat
  raced : Bool

def Ledger.enter (ledger : Ledger Call) (work : Work Call) : Ledger Call :=
  { ledger with nextId := ledger.nextId + 1, entered := ledger.entered ++ [work] }

def Ledger.accept (ledger : Ledger Call) (work : Work Call) : Ledger Call :=
  { ledger.enter work with accepted := ledger.accepted ++ [work] }

def Ledger.take (ledger : Ledger Call) (work : Work Call) : Ledger Call :=
  { ledger with
    taken := Function.update ledger.taken work.queue (ledger.taken work.queue ++ [work])
    raced := true }

def Ledger.abandon (ledger : Ledger Call) (pc : WorkerPc Call) : Ledger Call :=
  match pc with
  | .handle work true => { ledger with aborted := ledger.aborted ++ [work] }
  | _ => { ledger with lost := ledger.lost ++ pc.held }

structure Runtime (Call : Type) where
  window : Window
  queues : WorkType → List (Work Call)
  pendings : WorkType → List (Work Call)
  activeWorkers : Int
  workers : WorkerId → Worker Call
  lock : Option (Owner × Section Call)
  timerTask : TimerTask
  now : Nat
  ledger : Ledger Call

namespace Runtime

def setWorker (s : Runtime Call) (i : WorkerId) (worker : Worker Call) : Runtime Call :=
  { s with workers := Function.update s.workers i worker }

def owner (s : Runtime Call) : Option Owner := s.lock.map Prod.fst

def acquire (s : Runtime Call) (owner : Owner) (body : Section Call) : Option (Runtime Call) :=
  match s.lock with
  | none => some { s with lock := some (owner, body) }
  | some _ => none

-- runtime_watchdog.c

def workerSoftAbortCb (s : Runtime Call) (i : WorkerId) : Runtime Call :=
  let worker := s.workers i
  s.setWorker i { worker with
    abortFlag := true
    softClose := worker.softClose.map fun _ => .stopped
    hardClose := worker.hardClose.map fun _ => .armed (s.now + timeoutUserWorkHard) }

def watchdogStartUserWork (now : Nat) (worker : Worker Call) : Option (Worker Call) :=
  worker.softClose.map fun _ => { worker with softClose := some (.armed (now + timeoutUserWorkSoft)) }

def watchdogStopUserWork (worker : Worker Call) : Worker Call :=
  { worker with
    softClose := worker.softClose.map fun _ => .stopped
    hardClose := worker.hardClose.map fun _ => .stopped }

def watchdogForceAllCooperativeAbort (s : Runtime Call) : Runtime Call :=
  { s with workers := fun i => { s.workers i with abortFlag := true } }

-- runtime_worker_pool.c

def poolWorkerEntry (s : Runtime Call) (i : WorkerId) : Option (Runtime Call) :=
  let worker := s.workers i
  match worker.pc with
  | .receive =>
      match s.queues (workerType i) with
      | [] => none
      | work :: rest =>
          some { s.setWorker i { worker with pc := .received work } with
            queues := Function.update s.queues (workerType i) rest
            ledger := s.ledger.take work }
  | .received work =>
      some { s.setWorker i { worker with pc := .counted work } with
        activeWorkers := s.activeWorkers + 1 }
  | .counted _ => s.acquire (.worker i) .resetSettlementTimer
  | .prepare work =>
      let cleared := { worker with abortFlag := false, pc := .launch work }
      if work.item.type = .user then
        -- The assertion on soft_close fails on a system worker: the device restarts.
        (watchdogStartUserWork s.now cleared).map fun started => s.setWorker i started
      else some (s.setWorker i cleared)
  | .launch work =>
      let startedAwake := decide (s.window.runtimeState ≠ .sleep)
      some (s.setWorker i { worker with working := true, pc := .handle work startedAwake })
  | .handle work _ =>
      some { s.setWorker i { worker with pc := .handled (decide (work.item.type = .user)) } with
        ledger := { s.ledger with completed := s.ledger.completed ++ [work] } }
  | .handled isUserTask =>
      some (s.setWorker i { worker with working := false, pc := .stopping isUserTask })
  | .stopping isUserTask =>
      let stopped := if isUserTask then watchdogStopUserWork worker else worker
      some (s.setWorker i { stopped with abortFlag := true, pc := .leaving })
  | .leaving =>
      let next := if s.activeWorkers = 1 then WorkerPc.evaluate else .receive
      some { s.setWorker i { worker with pc := next } with activeWorkers := s.activeWorkers - 1 }
  | .evaluate => s.acquire (.worker i) .evaluateEarlyCurfew

def workerPoolResumeAll (s : Runtime Call) : Runtime Call :=
  { s with workers := fun i => { s.workers i with suspended := false } }

def workerPoolSuspendAll (s : Runtime Call) : Runtime Call :=
  { s with workers := fun i => { s.workers i with suspended := true } }

/-- `vTaskDelete` where there is a task; a lock the worker holds stays taken. -/
def deleteWorker (s : Runtime Call) (i : WorkerId) : Runtime Call :=
  let worker := s.workers i
  if worker.live then
    { s.setWorker i { worker with live := false, pc := .receive } with
      lock := s.lock.map fun (owner, body) => (if owner = .worker i then .deleted else owner, body)
      ledger := s.ledger.abandon worker.pc }
  else s

/-- Only a task that was deleted is subtracted. -/
def afterDelete (worker : Worker Call) : Recovery := if worker.live then .subtract else .create

def subtractWorker (s : Runtime Call) : Runtime Call := { s with activeWorkers := s.activeWorkers - 1 }

/-- The `memset` and `xTaskCreate` for a worker that was deleted; it may fail. -/
def createWorker (s : Runtime Call) (i : WorkerId) (created : Bool) : Runtime Call :=
  s.setWorker i { s.workers i with
    live := created, suspended := false, working := false, abortFlag := false, pc := .receive }

-- The new task may run in front of these stores.
def clearAbort (s : Runtime Call) (i : WorkerId) : Runtime Call :=
  s.setWorker i { s.workers i with abortFlag := false }

def clearWorking (s : Runtime Call) (i : WorkerId) : Runtime Call :=
  s.setWorker i { s.workers i with working := false }

-- runtime_manager.c

/-- The locked body of both schedule calls, with their answer. -/
def scheduleWork (s : Runtime Call) (queue : WorkType) (item : WorkItem Call) : Bool × Runtime Call :=
  let work : Work Call := ⟨s.ledger.nextId, queue, item⟩
  if s.window.runtimeState = .gracePeriod then
    match BoundedQueue.send (pendingCapacity queue) (s.pendings queue) work with
    | none => (false, s)
    | some sent =>
        (true, { s with pendings := Function.update s.pendings queue sent, ledger := s.ledger.accept work })
  else
    match BoundedQueue.send (queueCapacity queue) (s.queues queue) work with
    | none => (false, s)
    | some sent =>
        (true, { s with queues := Function.update s.queues queue sent, ledger := s.ledger.accept work })

/-- One turn of the loop of `drain_pending_queue`. -/
def drainPendingQueue (s : Runtime Call) (queue : WorkType) : Option (Runtime Call) :=
  if s.window.runtimeState = .gracePeriod then none
  else
    match s.pendings queue with
    | [] => none
    | work :: rest =>
        let received := { s with pendings := Function.update s.pendings queue rest }
        match BoundedQueue.send (queueCapacity queue) (s.queues queue) work with
        | none => some { received with ledger := { s.ledger with lost := s.ledger.lost ++ [work] } }
        | some sent => some { received with queues := Function.update s.queues queue sent }

def setRuntimeState (s : Runtime Call) (target : RuntimeState) : Runtime Call × Section Call :=
  if s.window.runtimeState = target then (s, .done)
  else
    match target with
    | .uiActive | .backgroundActive =>
        if s.window.runtimeState = .sleep then
          let opened := { s.window with
            runtimeState := target
            windowStartTime := s.now
            totalWindowTimer := s.window.totalWindowTimer.startOnce (s.now + windowMax target) }
          (workerPoolResumeAll { s with window := opened }, .evaluateEarlyCurfew)
        else (s, .done)
    | .sleep =>
        let closed := { s.window with
          runtimeState := .sleep
          totalWindowTimer := .stopped
          gracePeriodTimer := .stopped
          curfewSettlementTimer := .stopped }
        ({ s with window := closed }, .drainPending .user)
    | .gracePeriod => (s, .done)

def runtimeManagerBeginCurfewUnsafe (s : Runtime Call) : Runtime Call × Section Call :=
  let stopped := { s.window with totalWindowTimer := .stopped, curfewSettlementTimer := .stopped }
  ({ s with window := stopped },
    if s.window.windowHooks = [] then .hasWork .active .curfew else .busy .curfew)

/-- The grace period begins: the else branch of `runtime_manager_begin_curfew_unsafe`. -/
def beginGrace (s : Runtime Call) : Runtime Call :=
  let grace := { s.window with
    runtimeState := .gracePeriod
    graceStartTime := s.now
    gracePeriodTimer := s.window.gracePeriodTimer.startOnce (s.now + windowGracePeriod) }
  { s with window := grace, ledger := { s.ledger with graceMark := s.ledger.nextId } }

/-- `xQueueSend` of one hook; a full queue skips it. -/
def submitHook (s : Runtime Call) (hook : Hook) : Runtime Call :=
  let work : Work Call := ⟨s.ledger.nextId, .system, ⟨some (.curfewHook hook), .system⟩⟩
  match BoundedQueue.send (queueCapacity .system) (s.queues .system) work with
  | none => s
  | some sent => { s with queues := Function.update s.queues .system sent, ledger := s.ledger.enter work }

/-- `grace_period_expiry_cb` up to the transition to sleep. -/
def expireGrace (s : Runtime Call) : Runtime Call :=
  let flagged := watchdogForceAllCooperativeAbort
    { s with window := { s.window with gracePeriodTimer := .stopped } }
  { flagged with
    queues := Function.update s.queues .user []
    ledger := { s.ledger with
      purged := s.ledger.purged ++ (s.queues .user).map fun work => (work, s.ledger.graceMark) } }

/-- The debounce of `runtime_manager_evaluate_early_curfew`, never past the window's own end. -/
def armSettlement (s : Runtime Call) : Runtime Call :=
  let remaining := (s.window.length : Int) - ((s.now : Int) - s.window.start)
  if s.window.curfewSettlementTimer.isActive then s
  else if 0 < remaining then
    let debounce := if remaining < windowIdleDebounceInterval then remaining.toNat
      else windowIdleDebounceInterval
    { s with window := { s.window with
        curfewSettlementTimer := s.window.curfewSettlementTimer.startOnce (s.now + debounce) } }
  else s

/-- One step of a locked section; `created` is what `xTaskCreate` answers if it is called. -/
def runSection (s : Runtime Call) (body : Section Call) (created : Bool) : Runtime Call × Section Call :=
  match body with
  | .scheduleWork queue item => ((s.scheduleWork queue item).2, .done)
  | .getState => (s, .done)
  | .registerHook hook =>
      if maxCurfewHooks ≤ s.window.windowHooks.length then (s, .done)
      else
        ({ s with window := { s.window with windowHooks := s.window.windowHooks ++ [hook] } }, .done)
  | .unregisterHook hook =>
      ({ s with window := { s.window with windowHooks := s.window.windowHooks.erase hook } }, .done)
  | .resetSettlementTimer =>
      ({ s with window := { s.window with curfewSettlementTimer := .stopped } }, .done)
  | .startWork => s.setRuntimeState s.window.workState
  | .evaluateEarlyCurfew =>
      if s.window.runtimeState = .sleep then (s, .done) else (s, .hasWork .active .evaluate)
  | .workWindowExpiry =>
      if s.window.runtimeState.isActive then s.runtimeManagerBeginCurfewUnsafe else (s, .done)
  | .gracePeriodExpiry =>
      if s.window.runtimeState = .gracePeriod then (s.expireGrace, .sleep .graceExpired) else (s, .done)
  | .curfewSettlementExpiry =>
      if s.window.runtimeState = .sleep then (s, .done) else (s, .hasWork .active .settlement)
  | .hasWork .active asking =>
      if 0 < s.activeWorkers then (s, .busy asking)
      else
        let raced := decide (∃ i, (s.workers i).live = true ∧ (s.workers i).pc.isReceived = true)
        ({ s with ledger := { s.ledger with raced := raced } }, .hasWork .system asking)
  | .hasWork .system asking => (s, if s.queues .system = [] then .hasWork .user asking else .busy asking)
  | .hasWork .user asking => (s, if s.queues .user = [] then .idle asking else .busy asking)
  | .idle .evaluate => (s.armSettlement, .done)
  | .idle .settlement =>
      if s.window.runtimeState.isActive then s.runtimeManagerBeginCurfewUnsafe else (s, .sleep .idle)
  | .idle .curfew => (s, .sleep .idle)
  | .busy .curfew => (s.beginGrace, .submitHooks s.window.windowHooks)
  | .busy .evaluate | .busy .settlement => (s, .done)
  | .submitHooks [] => (s, .done)
  | .submitHooks (hook :: rest) => (s.submitHook hook, .submitHooks rest)
  | .sleep _ => s.setRuntimeState .sleep
  | .drainPending queue =>
      match s.drainPendingQueue queue with
      | some drained => (drained, .drainPending queue)
      | none => (s, if queue = .user then .drainPending .system else .forceAbort (List.finRange workerPoolSize))
  | .forceAbort [] => (s, .suspendAll)
  | .forceAbort (i :: rest) => (s, if (s.workers i).working then .recover i .stop rest else .forceAbort rest)
  | .recover i .stop rest =>
      let stopped := if workerType i = .user then s.setWorker i (watchdogStopUserWork (s.workers i)) else s
      (stopped, .recover i .exchange rest)
  | .recover i .exchange rest =>
      if (s.workers i).working then
        (s.setWorker i { s.workers i with working := false }, .recover i .delete rest)
      else (s, .forceAbort rest)
  | .recover i .delete rest => (s.deleteWorker i, .recover i (afterDelete (s.workers i)) rest)
  | .recover i .subtract rest => (s.subtractWorker, .recover i .create rest)
  | .recover i .create rest => (s.createWorker i created, .recover i .clearAbort rest)
  | .recover i .clearAbort rest => (s.clearAbort i, .recover i .clearWorking rest)
  | .recover i .clearWorking rest => (s.clearWorking i, .recover i .park rest)
  | .recover i .park rest =>
      (s.setWorker i { s.workers i with suspended := true }, .forceAbort rest)
  | .suspendAll => (s.workerPoolSuspendAll, .done)
  | .done => (s, .done)

def release (s : Runtime Call) (owner : Owner) : Runtime Call :=
  let free := { s with lock := none }
  match owner with
  | .worker i =>
      match (s.workers i).pc with
      | .counted work => free.setWorker i { s.workers i with pc := .prepare work }
      | .evaluate => free.setWorker i { s.workers i with pc := .receive }
      | _ => free
  | .timerTask => { free with timerTask := .idle }
  | .client | .deleted => free

def canRun (s : Runtime Call) : Owner → Bool
  | .worker i => (s.workers i).runnable
  | .client | .timerTask => true
  | .deleted => false

def advance (s : Runtime Call) (created : Bool) : Option (Runtime Call) :=
  match s.lock with
  | none => none
  | some (owner, body) =>
      if s.canRun owner then
        match body with
        | .done => some (s.release owner)
        | _ =>
            let (after, rest) := s.runSection body created
            some { after with lock := some (owner, rest) }
      else none

/-- One step of the esp_timer task outside the locked sections. -/
def runTimerTask (s : Runtime Call) (created : Bool) : Option (Runtime Call) :=
  match s.timerTask with
  | .idle => none
  | .window => s.acquire .timerTask .workWindowExpiry
  | .grace => s.acquire .timerTask .gracePeriodExpiry
  | .settlement => s.acquire .timerTask .curfewSettlementExpiry
  | .soft i => some { s.workerSoftAbortCb i with timerTask := .idle }
  | .hard i =>
      let worker := s.workers i
      some { s.setWorker i { worker with
          abortFlag := true, hardClose := worker.hardClose.map fun _ => .stopped } with
        timerTask := .recover i .exchange }
  | .recover i .exchange =>
      if (s.workers i).working then
        some { s.setWorker i { s.workers i with working := false } with timerTask := .recover i .delete }
      else some { s with timerTask := .idle }
  | .recover i .delete => some { s.deleteWorker i with timerTask := .recover i (afterDelete (s.workers i)) }
  | .recover i .subtract => some { s.subtractWorker with timerTask := .recover i .create }
  | .recover i .create => some { s.createWorker i created with timerTask := .recover i .clearAbort }
  | .recover i .clearAbort => some { s.clearAbort i with timerTask := .recover i .clearWorking }
  | .recover i .clearWorking => some { s.clearWorking i with timerTask := .idle }
  | .recover _ .stop | .recover _ .park => none

inductive TimerId where
  | window
  | grace
  | settlement
  | soft (i : WorkerId)
  | hard (i : WorkerId)
  deriving DecidableEq, Repr

/-- The timer task takes an expired one-shot timer and enters its callback. -/
def fire (s : Runtime Call) (timer : TimerId) : Option (Runtime Call) :=
  if s.timerTask = .idle then
    match timer with
    | .window =>
        if s.window.totalWindowTimer.expired s.now then
          some { s with window := { s.window with totalWindowTimer := .stopped }, timerTask := .window }
        else none
    | .grace =>
        if s.window.gracePeriodTimer.expired s.now then
          some { s with window := { s.window with gracePeriodTimer := .stopped }, timerTask := .grace }
        else none
    | .settlement =>
        if s.window.curfewSettlementTimer.expired s.now then
          some { s with
            window := { s.window with curfewSettlementTimer := .stopped }, timerTask := .settlement }
        else none
    | .soft i =>
        if (s.workers i).softClose.any fun soft => soft.expired s.now then
          some { s.setWorker i { s.workers i with softClose := some .stopped } with timerTask := .soft i }
        else none
    | .hard i =>
        if (s.workers i).hardClose.any fun hard => hard.expired s.now then
          some { s.setWorker i { s.workers i with hardClose := some .stopped } with timerTask := .hard i }
        else none
  else none

inductive Request (Call : Type) where
  | scheduleWork (queue : WorkType) (item : WorkItem Call)
  | getState
  | registerHook (hook : Hook)
  | unregisterHook (hook : Hook)
  deriving DecidableEq, Repr

namespace Request

def scheduleUserWork (item : WorkItem Call) : Request Call := .scheduleWork .user item

def scheduleSystemWork (item : WorkItem Call) : Request Call := .scheduleWork .system item

def body : Request Call → Section Call
  | scheduleWork queue item => .scheduleWork queue item
  | getState => .getState
  | registerHook hook => .registerHook hook
  | unregisterHook hook => .unregisterHook hook

def triesLock : Request Call → Bool
  | scheduleWork _ item => item.handler.isSome
  | getState | registerHook _ | unregisterHook _ => true

end Request

/-- A request whose lock attempt times out; the schedule calls answer true all the same. -/
def timedOut (s : Runtime Call) : Request Call → Runtime Call
  | .scheduleWork queue item =>
      let work : Work Call := ⟨s.ledger.nextId, queue, item⟩
      let accepted := s.ledger.accept work
      { s with ledger := { accepted with lost := accepted.lost ++ [work] } }
  | .getState | .registerHook _ | .unregisterHook _ => s

inductive Action (Call : Type) where
  | request (request : Request Call)
  | requestTimeout (request : Request Call)
  | workTick
  | setActiveState (uiActive : Bool)
  | elapse (us : Nat)
  | worker (i : WorkerId)
  | workerTimeout (i : WorkerId)
  | call (i : WorkerId) (request : Request Call)
  | callTimeout (i : WorkerId) (request : Request Call)
  | fire (timer : TimerId)
  | timerTask (created : Bool)
  | timerTimeout
  | advance (created : Bool)
  deriving DecidableEq, Repr

/-- The lock is held by another task, so an attempt of `owner` can time out. -/
def contended (s : Runtime Call) (owner : Owner) : Bool :=
  s.lock.isSome && decide (s.owner ≠ some owner)

def workerRuns (s : Runtime Call) (i : WorkerId) : Bool :=
  (s.workers i).runnable && decide (s.owner ≠ some (.worker i))

def step (s : Runtime Call) : Action Call → Option (Runtime Call)
  | .request request => if request.triesLock then s.acquire .client request.body else none
  | .requestTimeout request =>
      if request.triesLock && s.lock.isSome then some (s.timedOut request) else none
  | .workTick => s.acquire .client .startWork
  | .setActiveState uiActive =>
      let target := if uiActive then RuntimeState.uiActive else .backgroundActive
      some { s with window := { s.window with workState := target } }
  | .elapse us => some { s with now := s.now + us }
  | .worker i => if s.workerRuns i then s.poolWorkerEntry i else none
  | .workerTimeout i =>
      if s.workerRuns i && s.contended (.worker i) then
        match (s.workers i).pc with
        | .counted work => some (s.setWorker i { s.workers i with pc := .prepare work })
        | .evaluate => some (s.setWorker i { s.workers i with pc := .receive })
        | _ => none
      else none
  | .call i request =>
      match (s.workers i).pc with
      | .handle _ _ =>
          if s.workerRuns i && request.triesLock then s.acquire (.worker i) request.body else none
      | _ => none
  | .callTimeout i request =>
      match (s.workers i).pc with
      | .handle _ _ =>
          if s.workerRuns i && s.contended (.worker i) && request.triesLock then some (s.timedOut request)
          else none
      | _ => none
  | .fire timer => s.fire timer
  | .timerTask created => if s.owner = some .timerTask then none else s.runTimerTask created
  | .timerTimeout =>
      if s.contended .timerTask then
        match s.timerTask with
        | .window | .grace | .settlement => some { s with timerTask := .idle }
        | _ => none
      else none
  | .advance created => s.advance created

/-- The state `runtime_manager_init` leaves; a worker whose `xTaskCreate` failed is not live. -/
structure Initial (s : Runtime Call) : Prop where
  window : s.window = ⟨.sleep, .uiActive, [], 0, 0, .stopped, .stopped, .stopped⟩
  queues : s.queues = fun _ => []
  pendings : s.pendings = fun _ => []
  activeWorkers : s.activeWorkers = 0
  workers : ∀ i, ∃ live, s.workers i = ⟨live, true, false, false,
    if workerType i = .user then some .stopped else none,
    if workerType i = .user then some .stopped else none, .receive⟩
  lock : s.lock = none
  timerTask : s.timerTask = .idle
  now : 0 < s.now
  ledger : s.ledger = ⟨0, [], [], fun _ => [], [], [], [], [], 0, false⟩

def booted : Runtime Nat :=
  { window := ⟨.sleep, .uiActive, [], 0, 0, .stopped, .stopped, .stopped⟩
    queues := fun _ => []
    pendings := fun _ => []
    activeWorkers := 0
    workers := fun i => ⟨true, true, false, false,
      if workerType i = .user then some .stopped else none,
      if workerType i = .user then some .stopped else none, .receive⟩
    lock := none
    timerTask := .idle
    now := 1000
    ledger := ⟨0, [], [], fun _ => [], [], [], [], [], 0, false⟩ }

theorem booted_initial : booted.Initial :=
  ⟨rfl, rfl, rfl, rfl, fun _ => ⟨true, rfl⟩, rfl, rfl, by decide, rfl⟩

def advances (count : Nat) : List (Action Nat) := List.replicate count (.advance true)

def userItem (call : Nat) : WorkItem Nat := ⟨some (.call call), .user⟩

def systemItem (call : Nat) : WorkItem Nat := ⟨some (.call call), .system⟩

def startHandler (i : WorkerId) : List (Action Nat) :=
  [.worker i, .worker i, .worker i] ++ advances 2 ++ [.worker i, .worker i]

def endHandler (i : WorkerId) : List (Action Nat) := List.replicate 4 (.worker i)

end Runtime

end WatchFirmware.RuntimeManager
