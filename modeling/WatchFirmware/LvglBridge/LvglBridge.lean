import WatchFirmware.PowerManager.PowerManager

set_option autoImplicit false

namespace WatchFirmware.LvglBridge

open Transition PowerManager

abbrev displayMinUserInputTimeout : Nat := 5000

abbrev AppPerms := UInt16

abbrev appPermWakelock : AppPerms := 0x0004

def checkAppPermission (perms perm : AppPerms) : Bool := perms &&& perm == perm

/-- Where `lvgl_task` is in its loop; key callbacks of the apps run while it handles its timers. -/
inductive LvglPc where
  | handling
  | publishing
  | waiting
  | stopped
  deriving DecidableEq, Repr

/-- What `stopwatch_app.c` keeps: whether its timer exists, and whether it holds a wakelock. -/
structure Stopwatch where
  timer : Bool
  isWakelockAcquired : Bool
  deriving DecidableEq, Repr

inductive Assertion where
  | suspendUnlocked
  | stopwatchFree
  | stopwatchHeld
  deriving DecidableEq, Repr

structure Ui where
  power : Power
  lvgl : LvglPc
  lvglRunFlag : Bool
  inputTimeout : Nat
  wakelockCounter : Int
  stopwatch : Stopwatch
  failed : Option Assertion
  deriving DecidableEq, Repr

-- `acquire` and `release` are the other users of wakelocks, in whatever task they run.
inductive Action where
  | power (action : PowerManager.Action)
  | lvglCheck (idleTime : Nat)
  | lvglPublish
  | lvglLoop
  | startStop
  | closeStopwatch
  | acquire
  | release
  | updateInactivityTimeout (timeout : Nat)
  deriving DecidableEq, Repr

namespace Ui

def booted (inputTimeout : Nat) : Ui where
  power := Power.booted
  lvgl := .handling
  lvglRunFlag := true
  inputTimeout := inputTimeout
  wakelockCounter := 0
  stopwatch := ⟨false, false⟩
  failed := none

def Initial (s : Ui) : Prop :=
  ∃ inputTimeout, displayMinUserInputTimeout ≤ inputTimeout ∧ s = booted inputTimeout

def isWakeLocked (s : Ui) : Bool := decide (0 < s.wakelockCounter)

def acquireWakelock (s : Ui) : Ui := { s with wakelockCounter := s.wakelockCounter + 1 }

/-- A release of what is not held leaves the counter at zero. -/
def releaseWakelock (s : Ui) : Ui :=
  { s with wakelockCounter := if s.wakelockCounter ≤ 0 then 0 else s.wakelockCounter - 1 }

def fail (s : Ui) (assertion : Assertion) : Ui := { s with failed := some assertion }

def stopwatchAppPerms : AppPerms := appPermWakelock

/-- `start_stop_btn_click_cb` on the enter key. -/
def startStop (s : Ui) : Ui :=
  if s.stopwatch.timer = false then
    let started := { s with stopwatch := { s.stopwatch with timer := true } }
    if s.stopwatch.isWakelockAcquired then started.fail .stopwatchFree
    else if checkAppPermission stopwatchAppPerms appPermWakelock then
      acquireWakelock { started with stopwatch := ⟨true, true⟩ }
    else started
  else
    let stopped := { s with stopwatch := { s.stopwatch with timer := false } }
    if s.stopwatch.isWakelockAcquired = false then stopped.fail .stopwatchHeld
    else if checkAppPermission stopwatchAppPerms appPermWakelock then
      releaseWakelock { stopped with stopwatch := ⟨false, false⟩ }
    else stopped

/-- `delete_stopwatch_app_ui`. -/
def closeStopwatch (s : Ui) : Ui :=
  let closed := { s with stopwatch := { s.stopwatch with timer := false } }
  if s.stopwatch.isWakelockAcquired && checkAppPermission stopwatchAppPerms appPermWakelock then
    releaseWakelock { closed with stopwatch := ⟨false, false⟩ }
  else closed

def suspendLvgl (s : Ui) : Ui :=
  if s.isWakeLocked then s.fail .suspendUnlocked else { s with lvglRunFlag := false }

def resumeLvgl (s : Ui) : Ui :=
  if s.lvgl = .stopped then { s with lvgl := .handling, lvglRunFlag := true } else s

def performs (s : Ui) (cmd : PowerCmd) : Ui :=
  match cmd with
  | .uiSleep => s.suspendLvgl
  | .uiWake => s.resumeLvgl

def powerStep (s : Ui) (action : PowerManager.Action) : Option Ui :=
  (s.power.step action).map fun power =>
    match action, s.power.task with
    | .perform, .entering cmd => performs { s with power := power } cmd
    | _, _ => { s with power := power }

-- The inactivity event has one publisher, so the power task sees it through `lvglPublish` only.
def step (s : Ui) (action : Action) : Option Ui :=
  if s.failed ≠ none then none
  else match action with
    | .power .uiInactive => none
    | .power action => s.powerStep action
    | .lvglCheck idleTime =>
        if s.lvgl ≠ .handling then none
        else if s.isWakeLocked = false ∧ s.inputTimeout < idleTime then
          some { s with lvgl := .publishing }
        else some { s with lvgl := .waiting }
    | .lvglPublish =>
        if s.lvgl = .publishing then some { s with lvgl := .waiting, power := s.power.uiInactiveEventCb }
        else none
    | .lvglLoop =>
        if s.lvgl = .waiting then
          some { s with lvgl := if s.lvglRunFlag then .handling else .stopped }
        else none
    | .startStop => if s.lvgl = .handling then some s.startStop else none
    | .closeStopwatch => some s.closeStopwatch
    | .acquire => some s.acquireWakelock
    | .release => some s.releaseWakelock
    | .updateInactivityTimeout timeout =>
        if timeout < displayMinUserInputTimeout then some s else some { s with inputTimeout := timeout }

end Ui

end WatchFirmware.LvglBridge
