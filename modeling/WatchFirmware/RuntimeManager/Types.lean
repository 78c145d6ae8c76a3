import Mathlib

set_option autoImplicit false

namespace WatchFirmware.RuntimeManager

inductive RuntimeState where
  | sleep
  | backgroundActive
  | gracePeriod
  | uiActive
  deriving DecidableEq, Repr

def RuntimeState.isActive : RuntimeState → Bool
  | .uiActive | .backgroundActive => true
  | .sleep | .gracePeriod => false

inductive WorkType where
  | system
  | user
  deriving DecidableEq, Repr

instance : Fintype WorkType where
  elems := {.system, .user}
  complete queue := by cases queue <;> decide

abbrev maxUserWorkPerWindow : Nat := 10
abbrev maxSystemWorkPerWindow : Nat := 10
abbrev maxCurfewHooks : Nat := 4
abbrev workerPoolSize : Nat := 6
abbrev workerPoolUserAllocation : Nat := 2

-- Times are in microseconds, as esp_timer counts them.
abbrev timeoutUserWorkSoft : Nat := 30 * 1000
abbrev timeoutUserWorkHard : Nat := 10 * 1000
abbrev windowBackgroundMax : Nat := 160 * 1000
abbrev windowGracePeriod : Nat := 200 * 1000
abbrev windowUiMax : Nat := 700 * 1000
abbrev windowIdleDebounceInterval : Nat := 10 * 1000

abbrev Hook := Nat

/-- A handler with its argument: a client's call, or `curfew_hook_adapter` on a hook. -/
inductive Handler (Call : Type) where
  | call (call : Call)
  | curfewHook (hook : Hook)
  deriving DecidableEq, Repr

structure WorkItem (Call : Type) where
  handler : Option (Handler Call)
  type : WorkType
  deriving DecidableEq, Repr

/-- An item that entered a queue, with the queue and a number of its own. -/
structure Work (Call : Type) where
  id : Nat
  queue : WorkType
  item : WorkItem Call
  deriving DecidableEq, Repr

inductive EspTimer where
  | stopped
  | armed (deadline : Nat)
  deriving DecidableEq, Repr

namespace EspTimer

-- An armed timer answers ESP_ERR_INVALID_STATE and keeps its deadline.
def startOnce (timer : EspTimer) (deadline : Nat) : EspTimer :=
  match timer with
  | stopped => armed deadline
  | armed earlier => armed earlier

def isActive : EspTimer → Bool
  | stopped => false
  | armed _ => true

def expired (timer : EspTimer) (now : Nat) : Bool :=
  match timer with
  | stopped => false
  | armed deadline => decide (deadline ≤ now)

@[simp] theorem startOnce_stopped (deadline : Nat) : startOnce stopped deadline = armed deadline := rfl

end EspTimer

def queueCapacity : WorkType → Nat
  | .user => maxUserWorkPerWindow
  | .system => maxSystemWorkPerWindow

def pendingCapacity (queue : WorkType) : Nat := queueCapacity queue / 2

abbrev WorkerId := Fin workerPoolSize

instance : NeZero workerPoolSize := ⟨by decide⟩

def workerType (i : WorkerId) : WorkType :=
  if i.val < workerPoolUserAllocation then .user else .system

/-- Where a worker stands in the loop of `pool_worker_entry`. -/
inductive WorkerPc (Call : Type) where
  | receive
  | received (work : Work Call)
  | counted (work : Work Call)
  | prepare (work : Work Call)
  | launch (work : Work Call)
  | handle (work : Work Call) (startedAwake : Bool)
  | handled (isUserTask : Bool)
  | stopping (isUserTask : Bool)
  | leaving
  | evaluate
  deriving DecidableEq, Repr

namespace WorkerPc

variable {Call : Type}

def held : WorkerPc Call → List (Work Call)
  | received work | counted work | prepare work | launch work | handle work _ => [work]
  | receive | handled _ | stopping _ | leaving | evaluate => []

/-- Between the increment and the decrement of `active_workers`. -/
def isCounted : WorkerPc Call → Bool
  | receive | received _ | evaluate => false
  | counted _ | prepare _ | launch _ | handle _ _ | handled _ | stopping _ | leaving => true

def isReceived : WorkerPc Call → Bool
  | received _ => true
  | _ => false

end WorkerPc

/-- `worker_registry_t` and the task it names; system workers have no watchdog timers. -/
structure Worker (Call : Type) where
  live : Bool
  suspended : Bool
  working : Bool
  abortFlag : Bool
  softClose : Option EspTimer
  hardClose : Option EspTimer
  pc : WorkerPc Call
  deriving DecidableEq, Repr

def Worker.runnable {Call : Type} (worker : Worker Call) : Bool := worker.live && !worker.suspended

structure Window where
  runtimeState : RuntimeState
  workState : RuntimeState
  windowHooks : List Hook
  windowStartTime : Nat
  graceStartTime : Nat
  totalWindowTimer : EspTimer
  gracePeriodTimer : EspTimer
  curfewSettlementTimer : EspTimer
  deriving DecidableEq, Repr

def windowMax (state : RuntimeState) : Nat :=
  if state = .uiActive then windowUiMax else windowBackgroundMax

namespace Window

def start (window : Window) : Nat :=
  if window.runtimeState = .gracePeriod then window.graceStartTime else window.windowStartTime

def length (window : Window) : Nat :=
  if window.runtimeState = .gracePeriod then windowGracePeriod else windowMax window.runtimeState

end Window

end WatchFirmware.RuntimeManager
