import WatchFirmware.StopwatchApp.StopwatchApp

set_option autoImplicit false

namespace WatchFirmware.StopwatchApp

open Transition Refinement LvglBridge

/-- What the stopwatch is for: the timer callbacks since the start, and at how many of them each lap was taken.
The stop takes the last one. -/
inductive Session where
  | closed
  | stopped (laps : List Nat)
  | running (ticks : Nat) (laps : List Nat)
  deriving DecidableEq, Repr

namespace Session

def draw : Session → Option Session
  | closed => some (stopped [])
  | stopped _ | running _ _ => none

def startStop : Session → Option Session
  | closed => none
  | stopped _ => some (running 0 [])
  | running ticks laps => some (stopped (laps ++ [ticks]))

def lap : Session → Option Session
  | closed => none
  | stopped laps => some (stopped laps)
  | running ticks laps => some (running ticks (laps ++ [ticks]))

def isOpen : Session → Bool
  | closed => false
  | stopped _ | running _ _ => true

def tick : Session → Option Session
  | closed | stopped _ => none
  | running ticks laps => some (running (ticks + 1) laps)

def step : Step Session Action := fun session action =>
  match action with
  | .draw locked => if locked then session.draw else if session.isOpen then none else some session
  | .startStopKey enter => if enter then session.startStop else if session.isOpen then some session else none
  | .lapKey enter => if enter then session.lap else if session.isOpen then some session else none
  | .timer => session.tick
  | .delete _ => some closed

end Session

def timeAfter (ticks : Nat) : UInt32 := UInt32.ofNat (12 * ticks)

def lapTexts (laps : List Nat) : List String := laps.map fun ticks => lapText (timeAfter ticks)

def cards (texts : List String) : List String :=
  texts.rtake 3 ++ List.replicate (3 - texts.length) "00:00:00"

def finishedCalls (sessions : Nat) : List WakelockCall :=
  (List.replicate sessions [WakelockCall.acquire, .release]).flatten

theorem timeAfter_succ (ticks : Nat) : timeAfter (ticks + 1) = timeAfter ticks + timerIntervalDiv10 := by
  rw [timeAfter, Nat.mul_succ, UInt32.ofNat_add]
  rfl

theorem finishedCalls_succ (sessions : Nat) :
    finishedCalls (sessions + 1) = finishedCalls sessions ++ [.acquire] ++ [.release] := by
  simp [finishedCalls, List.replicate_succ']

theorem exists_last_three {texts : List String} (full : 3 ≤ texts.length) :
    ∃ front first second third, texts = front ++ [first, second, third] := by
  have length : (texts.drop (texts.length - 3)).length = 3 := by
    rw [List.length_drop]
    omega
  obtain ⟨first, second, third, last⟩ := List.length_eq_three.mp length
  exact ⟨texts.take (texts.length - 3), first, second, third, by rw [← last, List.take_append_drop]⟩

theorem cards_full (front : List String) (first second third : String) :
    cards (front ++ [first, second, third]) = [first, second, third] := by
  simp [cards, List.rtake]

theorem moveUp_full {texts : List String} (full : 3 ≤ texts.length) (start high low text : String) :
    (Labels.moveUp ⟨start, high, low, cards texts⟩).setLap 2 text = ⟨start, high, low, cards (texts ++ [text])⟩ := by
  obtain ⟨front, first, second, third, rfl⟩ := exists_last_three full
  have next : front ++ [first, second, third] ++ [text] = front ++ [first] ++ [second, third, text] := by simp
  rw [next, cards_full, cards_full]
  rfl

theorem cards_concat_short {texts : List String} (short : texts.length < 3) (text : String) :
    (cards texts).set texts.length text = cards (texts ++ [text]) := by
  have every : texts.rtake 3 = texts := by
    rw [List.rtake, Nat.sub_eq_zero_of_le (Nat.le_of_lt short), List.drop_zero]
  have all : (texts ++ [text]).rtake 3 = texts ++ [text] := by
    rw [List.rtake, List.length_append, List.length_singleton, Nat.sub_eq_zero_of_le short, List.drop_zero]
  obtain ⟨room, left⟩ : ∃ room, 3 - texts.length = room + 1 := ⟨3 - texts.length - 1, by omega⟩
  have fewer : 3 - (texts ++ [text]).length = room := by
    rw [List.length_append, List.length_singleton]
    omega
  rw [cards, cards, every, all, left, fewer, List.set_append_right _ _ (Nat.le_refl _), Nat.sub_self,
    List.replicate_succ, List.set_cons_zero, List.append_assoc, List.singleton_append]

theorem lap_recorded {laps : List Nat} {nLaps : Nat} (count : nLaps = min 3 laps.length)
    (start high low : String) (ticks : Nat) :
    (if nLaps = 3 then Labels.moveUp ⟨start, high, low, cards (lapTexts laps)⟩
      else ⟨start, high, low, cards (lapTexts laps)⟩).setLap (if nLaps = 3 then nLaps - 1 else nLaps)
        (lapText (timeAfter ticks)) = ⟨start, high, low, cards (lapTexts (laps ++ [ticks]))⟩ := by
  have texts : lapTexts (laps ++ [ticks]) = lapTexts laps ++ [lapText (timeAfter ticks)] := by simp [lapTexts]
  have length : (lapTexts laps).length = laps.length := by simp [lapTexts]
  rw [texts]
  by_cases full : nLaps = 3
  next =>
    rw [if_pos full, if_pos full, full]
    exact moveUp_full (by omega) start high low _
  next =>
    have place : nLaps = (lapTexts laps).length := by omega
    rw [if_neg full, if_neg full, Labels.setLap, place, cards_concat_short (by omega)]

namespace Stopwatch

structure Idle (s : Stopwatch) : Prop where
  timer : s.timer = false
  elapsed : s.elapsedMsDiv10 = 0
  released : s.isWakelockAcquired = false
  calls : ∃ sessions, s.wakelockCalls = finishedCalls sessions
  failed : s.failed = false

structure Closed (s : Stopwatch) : Prop extends Idle s where
  labels : s.labels = none
  nLaps : s.nLaps = 0

structure Stopped (s : Stopwatch) (laps : List Nat) : Prop extends Idle s where
  labels : s.labels = some ⟨"Start", "00:00", "00", cards (lapTexts laps)⟩

structure Running (s : Stopwatch) (ticks : Nat) (laps : List Nat) : Prop where
  timer : s.timer = true
  elapsed : s.elapsedMsDiv10 = timeAfter ticks
  acquired : s.isWakelockAcquired = true
  calls : ∃ sessions, s.wakelockCalls = finishedCalls sessions ++ [.acquire]
  failed : s.failed = false
  labels : s.labels =
    some ⟨"Stop", highText (timeAfter ticks), lowText (timeAfter ticks), cards (lapTexts laps)⟩
  nLaps : s.nLaps = min 3 laps.length

def Shows (s : Stopwatch) : Session → Prop
  | .closed => s.Closed
  | .stopped laps => s.Stopped laps
  | .running ticks laps => s.Running ticks laps

/-- A delete that finds the timer running gets the UI lock for it. -/
def Allowed (s : Stopwatch) (action : Action) : Prop := action = .delete false → s.timer = false

instance (s : Stopwatch) (action : Action) : Decidable (s.Allowed action) :=
  inferInstanceAs (Decidable (_ → _))

theorem initial_closed : initial.Closed where
  timer := rfl
  elapsed := rfl
  released := rfl
  calls := ⟨0, rfl⟩
  failed := rfl
  labels := rfl
  nLaps := rfl

variable {s : Stopwatch} {ticks : Nat} {laps : List Nat}

@[simp] theorem permitted : checkAppPermission stopwatchAppPerms appPermWakelock = true := by decide

theorem Stopped.start (stopped : s.Stopped laps) : s.startStopBtnClickCb.Running 0 [] := by
  have timer := stopped.timer
  have released := stopped.released
  obtain ⟨sessions, calls⟩ := stopped.calls
  have taken : s.startStopBtnClickCb =
      { s with
        timer := true
        labels := some ⟨"Stop", "00:00", "00", List.replicate 3 "00:00:00"⟩
        nLaps := 0
        wakelockCalls := s.wakelockCalls ++ [.acquire]
        isWakelockAcquired := true } := by
    simp [startStopBtnClickCb, stopped.labels, timer, released, acquireWakelock]
  rw [taken]
  constructor
  case timer => rfl
  case elapsed => exact stopped.elapsed
  case acquired => rfl
  case calls => exact ⟨sessions, by rw [calls]⟩
  case failed => exact stopped.failed
  case labels => rfl
  case nLaps => rfl

theorem Running.stop (running : s.Running ticks laps) :
    s.startStopBtnClickCb.Stopped (laps ++ [ticks]) := by
  obtain ⟨timer, elapsed, acquired, ⟨sessions, calls⟩, failed, labels, nLaps⟩ := running
  have recorded := lap_recorded nLaps "Stop" (highText (timeAfter ticks)) (lowText (timeAfter ticks)) ticks
  have taken : s.startStopBtnClickCb =
      { s with
        timer := false
        labels := some ⟨"Start", "00:00", "00", cards (lapTexts (laps ++ [ticks]))⟩
        nLaps := if s.nLaps = 3 then s.nLaps - 1 else s.nLaps
        elapsedMsDiv10 := 0
        wakelockCalls := s.wakelockCalls ++ [.release]
        isWakelockAcquired := false } := by
    simp only [startStopBtnClickCb, labels, timer, acquired, elapsed, releaseWakelock, permitted, recorded,
      Bool.true_eq_false, if_false, if_true]
  rw [taken]
  constructor
  case labels => rfl
  case toIdle =>
    constructor
    case timer => rfl
    case elapsed => rfl
    case released => rfl
    case calls => exact ⟨sessions + 1, by rw [calls, finishedCalls_succ]⟩
    case failed => exact failed

theorem Running.lap (running : s.Running ticks laps) : s.lapBtnClickCb.Running ticks (laps ++ [ticks]) := by
  obtain ⟨timer, elapsed, acquired, calls, failed, labels, nLaps⟩ := running
  have recorded := lap_recorded nLaps "Stop" (highText (timeAfter ticks)) (lowText (timeAfter ticks)) ticks
  have taken : s.lapBtnClickCb =
      { s with
        labels := some ⟨"Stop", highText (timeAfter ticks), lowText (timeAfter ticks),
          cards (lapTexts (laps ++ [ticks]))⟩
        nLaps := (if s.nLaps = 3 then s.nLaps - 1 else s.nLaps) + 1 } := by
    simp only [lapBtnClickCb, labels, timer, elapsed, recorded, Bool.true_eq_false, if_false]
  rw [taken]
  refine ⟨timer, elapsed, acquired, calls, failed, rfl, ?_⟩
  have count : (if s.nLaps = 3 then s.nLaps - 1 else s.nLaps) + 1 = min 3 (laps ++ [ticks]).length := by
    rw [List.length_append, List.length_singleton]
    split <;> omega
  exact count

theorem Running.tick (running : s.Running ticks laps) : s.stopwatchTimerCb.Running (ticks + 1) laps := by
  obtain ⟨timer, elapsed, acquired, calls, failed, labels, nLaps⟩ := running
  have taken : s.stopwatchTimerCb =
      { s with
        elapsedMsDiv10 := timeAfter (ticks + 1)
        labels := some ⟨"Stop", highText (timeAfter (ticks + 1)), lowText (timeAfter (ticks + 1)),
          cards (lapTexts laps)⟩ } := by
    rw [stopwatchTimerCb, labels, elapsed, ← timeAfter_succ]
  rw [taken]
  exact ⟨timer, rfl, acquired, calls, failed, rfl, nLaps⟩

theorem Running.delete (running : s.Running ticks laps) : (s.deleteStopwatchAppUi true).Closed := by
  obtain ⟨sessions, calls⟩ := running.calls
  have taken : s.deleteStopwatchAppUi true =
      { s with
        timer := false
        labels := none
        nLaps := 0
        elapsedMsDiv10 := 0
        wakelockCalls := s.wakelockCalls ++ [.release]
        isWakelockAcquired := false } := by
    simp [deleteStopwatchAppUi, running.acquired, releaseWakelock]
  rw [taken]
  constructor
  case labels => rfl
  case nLaps => rfl
  case toIdle =>
    constructor
    case timer => rfl
    case elapsed => rfl
    case released => rfl
    case calls => exact ⟨sessions + 1, by rw [calls, finishedCalls_succ]⟩
    case failed => exact running.failed

theorem Idle.delete (idle : s.Idle) (locked : Bool) : (s.deleteStopwatchAppUi locked).Closed := by
  have taken : s.deleteStopwatchAppUi locked =
      { s with timer := false, labels := none, nLaps := 0, elapsedMsDiv10 := 0 } := by
    simp [deleteStopwatchAppUi, idle.released, idle.timer]
  rw [taken]
  exact { idle with labels := rfl, nLaps := rfl, timer := rfl, elapsed := rfl }

theorem Closed.refines (closed : s.Closed) (action : Action) :
    Option.Rel Shows (step s action) (Session.step .closed action) := by
  have failed := closed.failed
  have labels := closed.labels
  cases action with
  | draw locked =>
      have taken : step s (.draw locked) = some (s.drawStopwatchAppUi locked) := by simp [step, failed, labels]
      rw [taken]
      cases locked with
      | false => exact .some closed
      | true =>
          refine .some ?_
          exact { closed with labels := rfl }
  | startStopKey enter =>
      have taken : step s (.startStopKey enter) = none := by simp [step, failed, labels]
      rw [taken]
      cases enter <;> exact .none
  | lapKey enter =>
      have taken : step s (.lapKey enter) = none := by simp [step, failed, labels]
      rw [taken]
      cases enter <;> exact .none
  | timer =>
      have taken : step s .timer = none := by simp [step, failed, closed.timer]
      rw [taken]
      exact .none
  | delete locked =>
      have taken : step s (.delete locked) = some (s.deleteStopwatchAppUi locked) := by simp [step, failed]
      rw [taken]
      exact .some (closed.toIdle.delete locked)

theorem Stopped.refines (stopped : s.Stopped laps) (action : Action) :
    Option.Rel Shows (step s action) (Session.step (.stopped laps) action) := by
  have failed := stopped.failed
  have labels := stopped.labels
  cases action with
  | draw locked =>
      have taken : step s (.draw locked) = none := by simp [step, failed, labels]
      rw [taken]
      cases locked <;> exact .none
  | startStopKey enter =>
      have taken : step s (.startStopKey enter) = some (if enter then s.startStopBtnClickCb else s) := by
        simp [step, failed, labels]
      rw [taken]
      cases enter with
      | false => exact .some stopped
      | true => exact .some stopped.start
  | lapKey enter =>
      have ignored : s.lapBtnClickCb = s := by simp [lapBtnClickCb, labels, stopped.timer]
      have taken : step s (.lapKey enter) = some s := by simp [step, failed, labels, ignored]
      rw [taken]
      cases enter <;> exact .some stopped
  | timer =>
      have taken : step s .timer = none := by simp [step, failed, stopped.timer]
      rw [taken]
      exact .none
  | delete locked =>
      have taken : step s (.delete locked) = some (s.deleteStopwatchAppUi locked) := by simp [step, failed]
      rw [taken]
      exact .some (stopped.toIdle.delete locked)

theorem Running.refines (running : s.Running ticks laps) {action : Action} (allowed : s.Allowed action) :
    Option.Rel Shows (step s action) (Session.step (.running ticks laps) action) := by
  have failed := running.failed
  have labels := running.labels
  cases action with
  | draw locked =>
      have taken : step s (.draw locked) = none := by simp [step, failed, labels]
      rw [taken]
      cases locked <;> exact .none
  | startStopKey enter =>
      have taken : step s (.startStopKey enter) = some (if enter then s.startStopBtnClickCb else s) := by
        simp [step, failed, labels]
      rw [taken]
      cases enter with
      | false => exact .some running
      | true => exact .some running.stop
  | lapKey enter =>
      have taken : step s (.lapKey enter) = some (if enter then s.lapBtnClickCb else s) := by
        simp [step, failed, labels]
      rw [taken]
      cases enter with
      | false => exact .some running
      | true => exact .some running.lap
  | timer =>
      have taken : step s .timer = some s.stopwatchTimerCb := by simp [step, failed, running.timer]
      rw [taken]
      exact .some running.tick
  | delete locked =>
      have taken : step s (.delete locked) = some (s.deleteStopwatchAppUi locked) := by simp [step, failed]
      rw [taken]
      cases locked with
      | false =>
          have stopped := allowed rfl
          rw [running.timer] at stopped
          contradiction
      | true => exact .some running.delete

theorem step_refines : Refines step Session.step Allowed Shows := by
  intro s session action shows allowed
  cases session with
  | closed => exact Closed.refines shows action
  | stopped laps => exact Stopped.refines shows action
  | running ticks laps => exact Running.refines shows allowed

def fourLaps : List Action :=
  [.draw true, .startStopKey true, .timer, .lapKey true, .lapKey true, .timer, .lapKey true, .lapKey false,
    .timer, .startStopKey true]

end Stopwatch

end WatchFirmware.StopwatchApp
