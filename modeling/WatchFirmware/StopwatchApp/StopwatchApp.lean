import WatchFirmware.LvglBridge.LvglBridge
import WatchFirmware.Shared.Refinement

set_option autoImplicit false

namespace WatchFirmware.StopwatchApp

open Transition LvglBridge

abbrev timerInterval : UInt32 := 120
abbrev timerIntervalDiv10 : UInt32 := timerInterval / 10

def stopwatchAppPerms : AppPerms := appPermWakelock

/-- `%02lu`. -/
def twoDigits (value : Nat) : String := if value < 10 then "0" ++ toString value else toString value

def lowText (elapsed : UInt32) : String := twoDigits (elapsed.toNat % 100)

def highText (elapsed : UInt32) : String :=
  twoDigits (elapsed.toNat / (60 * 100)) ++ ":" ++ twoDigits (elapsed.toNat / 100 % 60)

def lapText (elapsed : UInt32) : String :=
  twoDigits (elapsed.toNat / (60 * 100)) ++ ":" ++ twoDigits (elapsed.toNat / 100 % 60) ++ ":" ++
    twoDigits (elapsed.toNat % 100)

structure Labels where
  startBtnLbl : String
  timeHLbl : String
  timeLLbl : String
  lapValues : List String
  deriving DecidableEq, Repr

/-- The texts that `draw_stopwatch_app_ui` gives the labels. -/
def Labels.drawn : Labels := ⟨"Start", "00:00", "00", List.replicate 3 "00:00:00"⟩

def Labels.moveUp (labels : Labels) : Labels :=
  let first := labels.lapValues.set 0 (labels.lapValues.getD 1 "")
  { labels with lapValues := first.set 1 (first.getD 2 "") }

def Labels.setLap (labels : Labels) (index : Nat) (text : String) : Labels :=
  { labels with lapValues := labels.lapValues.set index text }

inductive WakelockCall where
  | acquire
  | release
  deriving DecidableEq, Repr

/-- The variables of the file. The labels are none while their pointers are NULL; `failed` is an assertion of
the app or of LVGL that does not hold, and `wakelockCalls` the calls to the wakelock manager so far. -/
structure Stopwatch where
  labels : Option Labels
  nLaps : Nat
  timer : Bool
  elapsedMsDiv10 : UInt32
  isWakelockAcquired : Bool
  wakelockCalls : List WakelockCall
  failed : Bool
  deriving DecidableEq, Repr

-- Keys and timer callbacks run in the LVGL task, which has the UI lock; `locked` says whether the caller of
-- draw gets it in time, or the caller of delete for the timer.
inductive Action where
  | draw (locked : Bool)
  | startStopKey (enter : Bool)
  | lapKey (enter : Bool)
  | timer
  | delete (locked : Bool)
  deriving DecidableEq, Repr

namespace Stopwatch

def initial : Stopwatch where
  labels := none
  nLaps := 0
  timer := false
  elapsedMsDiv10 := 0
  isWakelockAcquired := false
  wakelockCalls := []
  failed := false

def fail (s : Stopwatch) : Stopwatch := { s with failed := true }

/-- `acquire_wakelock` of the common APIs and the flag behind it. -/
def acquireWakelock (s : Stopwatch) : Stopwatch :=
  if checkAppPermission stopwatchAppPerms appPermWakelock then
    { s with wakelockCalls := s.wakelockCalls ++ [.acquire], isWakelockAcquired := true }
  else s

def releaseWakelock (s : Stopwatch) : Stopwatch :=
  if checkAppPermission stopwatchAppPerms appPermWakelock then
    { s with wakelockCalls := s.wakelockCalls ++ [.release], isWakelockAcquired := false }
  else s

def stopwatchTimerCb (s : Stopwatch) : Stopwatch :=
  let elapsed := s.elapsedMsDiv10 + timerIntervalDiv10
  match s.labels with
  | none => fail { s with elapsedMsDiv10 := elapsed }
  | some labels =>
      { s with
        elapsedMsDiv10 := elapsed
        labels := some { labels with timeLLbl := lowText elapsed, timeHLbl := highText elapsed } }

def startStopBtnClickCb (s : Stopwatch) : Stopwatch :=
  match s.labels with
  | none => s.fail
  | some labels =>
      if s.timer = false then
        let started : Stopwatch :=
          { s with
            timer := true
            labels := some { labels with startBtnLbl := "Stop", lapValues := List.replicate 3 "00:00:00" }
            nLaps := 0 }
        if s.isWakelockAcquired then started.fail else started.acquireWakelock
      else
        let moved := if s.nLaps = 3 then labels.moveUp else labels
        let nLaps := if s.nLaps = 3 then s.nLaps - 1 else s.nLaps
        let stopped : Stopwatch :=
          { s with
            timer := false
            labels := some
              { moved.setLap nLaps (lapText s.elapsedMsDiv10) with
                startBtnLbl := "Start", timeLLbl := "00", timeHLbl := "00:00" }
            nLaps
            elapsedMsDiv10 := 0 }
        if s.isWakelockAcquired then stopped.releaseWakelock else stopped.fail

def lapBtnClickCb (s : Stopwatch) : Stopwatch :=
  match s.labels with
  | none => s.fail
  | some labels =>
      if s.timer = false then s
      else
        let moved := if s.nLaps = 3 then labels.moveUp else labels
        let nLaps := if s.nLaps = 3 then s.nLaps - 1 else s.nLaps
        { s with labels := some (moved.setLap nLaps (lapText s.elapsedMsDiv10)), nLaps := nLaps + 1 }

def drawStopwatchAppUi (s : Stopwatch) (locked : Bool) : Stopwatch :=
  if locked then { s with labels := some .drawn } else s

-- The pointers are cleared whether or not the objects could be deleted.
def deleteStopwatchAppUi (s : Stopwatch) (locked : Bool) : Stopwatch :=
  let closed : Stopwatch :=
    { s with
      timer := s.timer && !locked
      labels := none
      nLaps := 0
      elapsedMsDiv10 := 0 }
  if s.isWakelockAcquired then closed.releaseWakelock else closed

/-- The app manager draws an app that is closed; keys reach only what is drawn, and the callback runs
only while its timer exists. -/
def step : Step Stopwatch Action := fun s action =>
  if s.failed then none
  else match action with
    | .draw locked => if s.labels.isNone then some (s.drawStopwatchAppUi locked) else none
    | .startStopKey enter =>
        if s.labels.isSome then some (if enter then s.startStopBtnClickCb else s) else none
    | .lapKey enter => if s.labels.isSome then some (if enter then s.lapBtnClickCb else s) else none
    | .timer => if s.timer then some s.stopwatchTimerCb else none
    | .delete locked => some (s.deleteStopwatchAppUi locked)

end Stopwatch

end WatchFirmware.StopwatchApp
