import WatchFirmware.LvglBridge.LvglBridge

set_option autoImplicit false

namespace WatchFirmware.LvglBridge

open Transition PowerManager

def sleeps : PowerState → List PowerCmd → Bool
  | _, [] => false
  | state, .uiSleep :: rest => if state = .background then sleeps .background rest else true
  | _, .uiWake :: rest => sleeps .uiActive rest

theorem sleeps_append_wake (state : PowerState) (cmds : List PowerCmd) :
    sleeps state (cmds ++ [.uiWake]) = sleeps state cmds := by
  induction cmds generalizing state with
  | nil => rfl
  | cons cmd rest ih =>
      cases cmd with
      | uiSleep => simp only [List.cons_append, sleeps, ih]
      | uiWake => simp only [List.cons_append, sleeps, ih]

def bound (power : Power) : Bool :=
  power.task = .entering .uiSleep || sleeps power.state power.pending

theorem bound_transitionToUiActive (power : Power) : bound power.transitionToUiActive = bound power := by
  have pending : power.transitionToUiActive.pending = power.pending ∨
      power.transitionToUiActive.pending = power.pending ++ [.uiWake] := by
    by_cases room : power.queue.length < powerQueueLength
    · right
      have queue : power.transitionToUiActive.queue = power.queue ++ [.uiWake] := by
        simp [Power.transitionToUiActive, Power.send, BoundedQueue.send, room]
      rw [Power.pending, queue, ← List.append_assoc]
      rfl
    · left
      have queue : power.transitionToUiActive.queue = power.queue := by
        simp [Power.transitionToUiActive, Power.send, BoundedQueue.send, room]
      rw [Power.pending, queue]
      rfl
  have same : sleeps power.state power.transitionToUiActive.pending =
      sleeps power.state power.pending := by
    rcases pending with unchanged | appended
    · rw [unchanged]
    · rw [appended, sleeps_append_wake]
  rw [bound, bound, ← same]
  rfl

theorem bound_step {power next : Power} {action : PowerManager.Action} (other : action ≠ .uiInactive)
    (taken : power.step action = some next) (isBound : bound next = true) : bound power = true := by
  cases action with
  | uiInactive => exact absurd rfl other
  | alarmTriggered =>
      cases taken
      unfold Power.alarmTriggeredCb at isBound
      split at isBound
      · exact isBound
      · rwa [bound_transitionToUiActive] at isBound
  | lightSleepExit causes =>
      cases taken
      unfold Power.lightSleepExitCb at isBound
      split at isBound
      · rwa [bound_transitionToUiActive] at isBound
      · exact isBound
  | receive =>
      simp only [Power.step] at taken
      split at taken
      next cmd rest idle queue =>
        cases taken
        simpa [bound, Power.pending, Power.inHand, idle, queue] using isBound
      next => cases taken
  | decide =>
      simp only [Power.step] at taken
      split at taken
      next cmd received =>
        have pending : power.pending = cmd :: power.queue := by
          simp [Power.pending, Power.inHand, received]
        split at taken
        next already =>
          cases taken
          cases cmd with
          | uiSleep =>
              have rest : sleeps .background power.queue = true := by
                simpa [bound, already, PowerCmd.target, Power.pending, Power.inHand] using isBound
              simp [bound, pending, sleeps, already, PowerCmd.target, rest]
          | uiWake =>
              have rest : sleeps .uiActive power.queue = true := by
                simpa [bound, already, PowerCmd.target, Power.pending, Power.inHand] using isBound
              simp [bound, pending, sleeps, rest]
        next changes =>
          cases taken
          cases cmd with
          | uiSleep =>
              have awake : power.state ≠ .background := changes
              simp [bound, pending, sleeps, awake]
          | uiWake =>
              have rest : sleeps .uiActive power.queue = true := by
                simpa [bound, PowerCmd.target, Power.pending, Power.inHand] using isBound
              simp [bound, pending, sleeps, rest]
      next => cases taken
  | perform =>
      simp only [Power.step] at taken
      split at taken
      next cmd entering =>
        cases taken
        have settled : sleeps power.state power.queue = true := by
          simpa [bound, Power.pending, Power.inHand] using isBound
        simp [bound, Power.pending, Power.inHand, entering, settled]
      next => cases taken

namespace Ui

variable {s after : Ui}

/-- A sleep is on its way to the assertion: the inactivity check has passed and the event is not out,
or the power task has it before it, or is past its test. -/
def sleepUnderWay (s : Ui) : Bool :=
  s.lvgl = .publishing || bound s.power

/-- Nobody takes a wakelock while a sleep is under way. -/
def AcquiresInTime (s : Ui) : Action → Prop
  | .acquire => s.sleepUnderWay = false
  | .startStop => s.stopwatch.timer = false → s.sleepUnderWay = false
  | _ => True

instance (s : Ui) (action : Action) : Decidable (s.AcquiresInTime action) :=
  match action with
  | .acquire => inferInstanceAs (Decidable (_ = _))
  | .startStop => inferInstanceAs (Decidable (_ → _ = _))
  | .power _ | .lvglCheck _ | .lvglPublish | .lvglLoop | .closeStopwatch | .release
  | .updateInactivityTimeout _ => inferInstanceAs (Decidable True)

structure Unlocked (s : Ui) : Prop where
  free : s.sleepUnderWay = true → s.isWakeLocked = false
  held : s.failed ≠ some .suspendUnlocked

theorem isWakeLocked_release (s : Ui) (locked : s.releaseWakelock.isWakeLocked = true) :
    s.isWakeLocked = true := by
  by_cases unheld : s.wakelockCounter ≤ 0
  · simp [isWakeLocked, releaseWakelock, unheld] at locked
  · simpa [isWakeLocked] using unheld

theorem Unlocked.calmer (unlocked : s.Unlocked)
    (quiet : after.sleepUnderWay = true → s.sleepUnderWay = true)
    (locks : after.isWakeLocked = true → s.isWakeLocked = true)
    (held : after.failed ≠ some .suspendUnlocked) : after.Unlocked where
  free underWay := by
    have free := unlocked.free (quiet underWay)
    by_contra locked
    rw [locks (by simpa using locked)] at free
    cases free
  held := held

theorem unlocked_powerStep (unlocked : s.Unlocked) {action : PowerManager.Action}
    (other : action ≠ .uiInactive) (taken : s.powerStep action = some after) : after.Unlocked := by
  obtain ⟨power, moved, rfl⟩ := Option.map_eq_some_iff.mp taken
  have quiet : ∀ lvgl, (lvgl = .publishing → s.lvgl = .publishing) → ∀ flag failed,
      ({ s with power := power, lvgl := lvgl, lvglRunFlag := flag, failed := failed } : Ui).sleepUnderWay
        = true → s.sleepUnderWay = true := by
    intro lvgl same flag failed underWay
    simp only [sleepUnderWay, Bool.or_eq_true, decide_eq_true_eq] at underWay ⊢
    exact underWay.imp same (bound_step other moved)
  split
  next _ _ _ cmd entering =>
    cases cmd with
    | uiSleep =>
        have underWay : s.sleepUnderWay = true := by simp [sleepUnderWay, bound, entering]
        have free : ({ s with power := power } : Ui).isWakeLocked = false := unlocked.free underWay
        rw [performs, suspendLvgl, free]
        exact unlocked.calmer (quiet _ id _ _) id unlocked.held
    | uiWake =>
        rw [performs, resumeLvgl]
        split
        · exact unlocked.calmer (quiet _ (fun isPublishing => by cases isPublishing) _ _) id unlocked.held
        · exact unlocked.calmer (quiet _ id _ _) id unlocked.held
  next => exact unlocked.calmer (quiet _ id _ _) id unlocked.held

theorem unlocked_startStop (unlocked : s.Unlocked) (inTime : s.AcquiresInTime .startStop) :
    s.startStop.Unlocked := by
  unfold startStop
  split
  next notStarted =>
    have quiet : s.sleepUnderWay = false := inTime notStarted
    have free : ∀ (stopwatch : Stopwatch) (counter : Int) (failed : Option Assertion),
        failed ≠ some .suspendUnlocked →
        ({ s with stopwatch := stopwatch, wakelockCounter := counter, failed := failed } : Ui).Unlocked := by
      intro stopwatch counter failed held
      refine ⟨fun underWay => ?_, held⟩
      have underWay : s.sleepUnderWay = true := underWay
      rw [quiet] at underWay
      cases underWay
    split
    · exact free _ _ _ (by simp)
    · split
      · exact free _ _ _ unlocked.held
      · exact free _ _ _ unlocked.held
  next =>
    split
    · exact unlocked.calmer id id (by simp [fail])
    · split
      · exact unlocked.calmer id (isWakeLocked_release _) unlocked.held
      · exact unlocked.calmer id id unlocked.held

theorem unlocked_step (unlocked : s.Unlocked) {action : Action} (inTime : s.AcquiresInTime action)
    (taken : step s action = some after) : after.Unlocked := by
  unfold step at taken
  split at taken
  next => cases taken
  next =>
    cases action with
    | power action =>
        cases action with
        | uiInactive => cases taken
        | alarmTriggered | lightSleepExit causes | receive | decide | perform =>
            exact unlocked_powerStep unlocked (by simp) taken
    | lvglCheck idleTime =>
        simp only at taken
        split at taken
        next => cases taken
        next =>
          split at taken
          next passes =>
            cases taken
            exact ⟨fun _ => passes.1, unlocked.held⟩
          next =>
            cases taken
            refine unlocked.calmer (fun underWay => ?_) id unlocked.held
            simp only [sleepUnderWay, Bool.or_eq_true, decide_eq_true_eq] at underWay ⊢
            rcases underWay with publishing | bound
            · cases publishing
            · exact .inr bound
    | lvglPublish =>
        simp only at taken
        split at taken
        next publishing =>
          cases taken
          have free : s.isWakeLocked = false := unlocked.free (by simp [sleepUnderWay, publishing])
          exact ⟨fun _ => free, unlocked.held⟩
        next => cases taken
    | lvglLoop =>
        simp only at taken
        split at taken
        next waiting =>
          cases taken
          refine unlocked.calmer (fun underWay => ?_) id unlocked.held
          simp only [sleepUnderWay, Bool.or_eq_true, decide_eq_true_eq] at underWay ⊢
          rcases underWay with publishing | bound
          · split at publishing <;> cases publishing
          · exact .inr bound
        next => cases taken
    | startStop =>
        simp only at taken
        split at taken
        · cases taken
          exact unlocked_startStop unlocked inTime
        · cases taken
    | closeStopwatch =>
        cases taken
        unfold closeStopwatch
        split
        · exact unlocked.calmer id (isWakeLocked_release _) unlocked.held
        · exact unlocked.calmer id id unlocked.held
    | acquire =>
        cases taken
        refine ⟨fun underWay => ?_, unlocked.held⟩
        have underWay : s.sleepUnderWay = true := underWay
        rw [show s.sleepUnderWay = false from inTime] at underWay
        cases underWay
    | release =>
        cases taken
        exact unlocked.calmer id (isWakeLocked_release _) unlocked.held
    | updateInactivityTimeout timeout =>
        simp only at taken
        split at taken
        · cases taken
          exact unlocked
        · cases taken
          exact unlocked.calmer id id unlocked.held

/-- `suspend_lvgl` finds no wakelock held. -/
theorem suspend_unlocked (reached : Reach step Initial AcquiresInTime s) :
    s.failed ≠ some .suspendUnlocked := by
  have unlocked : s.Unlocked := by
    apply reached.invariant
    next =>
      rintro state ⟨inputTimeout, _, rfl⟩
      exact ⟨fun _ => rfl, by simp [booted]⟩
    next =>
      intro state action next unlocked inTime taken
      exact unlocked_step unlocked inTime taken
  exact unlocked.held

def sleepThenStopwatch : List Action :=
  [.lvglCheck 5001, .lvglPublish, .power .receive, .power .decide, .power .perform, .lvglLoop,
    .power (.lightSleepExit ⟨true, false⟩), .power .receive, .power .decide, .power .perform, .startStop,
    .lvglCheck 5001, .lvglLoop]

theorem suspend_unlocked_stopwatch :
    ∃ s : Ui, s.power.calls.length = 6 ∧ s.wakelockCounter = 1 ∧ s.failed ≠ some .suspendUnlocked := by
  have ran : ((run step (booted 5000) sleepThenStopwatch).map fun s =>
      (s.power.calls.length, s.wakelockCounter)) = some (6, 1) := by decide
  obtain ⟨s, taken, seen⟩ := Option.map_eq_some_iff.mp ran
  obtain ⟨calls, counter⟩ := Prod.mk.inj seen
  have guarded : Guarded step AcquiresInTime (booted 5000) sleepThenStopwatch := by decide
  have initial : Initial (booted 5000) := ⟨5000, Nat.le_refl _, rfl⟩
  exact ⟨s, calls, counter, suspend_unlocked ((Reach.start initial).of_run guarded taken)⟩

/-- The check has passed and the sleep is queued when the stopwatch takes its wakelock. -/
theorem stopwatch_trips_suspend :
    ∃ s : Ui, Reach step Initial Unguarded s ∧ s.failed = some .suspendUnlocked := by
  have ran : ((run step (booted 5000) [.lvglCheck 5001, .lvglPublish, .lvglLoop, .startStop,
      .power .receive, .power .decide, .power .perform]).map Ui.failed) =
      some (some .suspendUnlocked) := by decide
  obtain ⟨s, taken, failed⟩ := Option.map_eq_some_iff.mp ran
  have initial : Initial (booted 5000) := ⟨5000, Nat.le_refl _, rfl⟩
  exact ⟨s, (Reach.start initial).of_run (guarded_unguarded _ _ _) taken, failed⟩

end Ui

end WatchFirmware.LvglBridge
