import WatchFirmware.Shared.BoundedQueue
import WatchFirmware.Shared.Transition

set_option autoImplicit false

namespace WatchFirmware.PowerManager

open Transition

abbrev powerQueueLength : Nat := 4

-- The shutdown command comes from `power_manager_deinit` only, which is not modelled.
inductive PowerCmd where
  | uiSleep
  | uiWake
  deriving DecidableEq, Repr

inductive PowerState where
  | background
  | uiActive
  deriving DecidableEq, Repr

inductive PowerCall where
  | uiSleep
  | uiResume
  | enterBackgroundMode
  | enterActiveMode
  | setActiveState (active : Bool)
  deriving DecidableEq, Repr

def PowerCmd.target : PowerCmd → PowerState
  | .uiSleep => .background
  | .uiWake => .uiActive

def PowerCmd.calls : PowerCmd → List PowerCall
  | .uiSleep => [.uiSleep, .enterBackgroundMode, .setActiveState false]
  | .uiWake => [.enterActiveMode, .setActiveState true, .uiResume]

/-- Where `power_task_fn` is: blocked on the queue, before the test of the state, past it. -/
inductive TaskPc where
  | idle
  | received (cmd : PowerCmd)
  | entering (cmd : PowerCmd)
  deriving DecidableEq, Repr

/-- Bits of `esp_sleep_get_wakeup_causes`. -/
structure WakeupCauses where
  gpio : Bool
  bt : Bool
  deriving DecidableEq, Repr

-- A request to wake carries what held when it was made: whether anything can come of it.
inductive Request where
  | sleep
  | wake (heard : Bool)
  deriving DecidableEq, Repr

structure Power where
  queue : List PowerCmd
  task : TaskPc
  state : PowerState
  calls : List PowerCall
  request : Option Request
  deriving DecidableEq, Repr

-- A callback runs as one step: a wake that it sends late is one that a GPIO could ask for then.
inductive Action where
  | uiInactive
  | alarmTriggered
  | lightSleepExit (causes : WakeupCauses)
  | receive
  | decide
  | perform
  deriving DecidableEq, Repr

namespace Power

/-- After `power_manager_init`. -/
def booted : Power where
  queue := []
  task := .idle
  state := .uiActive
  calls := []
  request := none

def Initial (s : Power) : Prop := s = booted

theorem booted_initial : Initial booted := rfl

/-- `xQueueSend` with no wait: a full queue keeps what it has. -/
def send (s : Power) (cmd : PowerCmd) : Power :=
  { s with queue := (BoundedQueue.send powerQueueLength s.queue cmd).getD s.queue }

def inHand (s : Power) : List PowerCmd :=
  match s.task with
  | .received cmd => [cmd]
  | .idle | .entering _ => []

/-- The commands the task has still to test against its state. -/
def pending (s : Power) : List PowerCmd := s.inHand ++ s.queue

def outcome (s : Power) : PowerState := (s.pending.getLast?.map PowerCmd.target).getD s.state

/-- A wake that is sent finds room, or the last command sent is a wake already. -/
def wakeHeard (s : Power) : Bool :=
  s.queue.length < powerQueueLength || s.outcome = .uiActive

def transitionToUiActive (s : Power) : Power :=
  { s.send .uiWake with request := some (.wake s.wakeHeard) }

def uiInactiveEventCb (s : Power) : Power :=
  { s.send .uiSleep with request := some .sleep }

-- Nothing is sent while the UI counts as active, even with a sleep on its way to the task.
def alarmTriggeredCb (s : Power) : Power :=
  if s.state = .uiActive then { s with request := some (.wake (s.outcome = .uiActive)) }
  else s.transitionToUiActive

def lightSleepExitCb (s : Power) (causes : WakeupCauses) : Power :=
  if causes.gpio then s.transitionToUiActive else s

def step (s : Power) : Action → Option Power
  | .uiInactive => some s.uiInactiveEventCb
  | .alarmTriggered => some s.alarmTriggeredCb
  | .lightSleepExit causes => some (s.lightSleepExitCb causes)
  | .receive =>
      match s.task, s.queue with
      | .idle, cmd :: rest => some { s with task := .received cmd, queue := rest }
      | _, _ => none
  | .decide =>
      match s.task with
      | .received cmd =>
          if s.state = cmd.target then some { s with task := .idle }
          else some { s with task := .entering cmd, state := cmd.target }
      | _ => none
  | .perform =>
      match s.task with
      | .entering cmd => some { s with task := .idle, calls := s.calls ++ cmd.calls }
      | _ => none

def isUiCall (call : PowerCall) : Bool := call = .uiSleep || call = .uiResume

/-- The last of `ui_sleep` and `ui_resume`; the UI is on at the start. -/
def lastUiCall (s : Power) : PowerCall := (s.calls.filter isUiCall).getLast?.getD .uiResume

end Power

end WatchFirmware.PowerManager
