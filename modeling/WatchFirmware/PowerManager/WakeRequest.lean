import WatchFirmware.PowerManager.PowerManager

set_option autoImplicit false

namespace WatchFirmware.PowerManager

open Transition

namespace Power

variable {s after : Power}

structure Tracked (s : Power) : Prop where
  /-- A wake that was heard, and no other, decides the state the task comes to. -/
  decided : ∀ heard, s.request = some (.wake heard) → (s.outcome = .uiActive ↔ heard = true)
  /-- The screen follows the state, but for the calls the task is about to make. -/
  shown : (∀ cmd, s.task ≠ .entering cmd) → (s.lastUiCall = .uiResume ↔ s.state = .uiActive)
  entered : ∀ cmd, s.task = .entering cmd → s.state = cmd.target

theorem outcome_send_room (room : s.queue.length < powerQueueLength) (cmd : PowerCmd) :
    (s.send cmd).outcome = cmd.target := by
  have queue : (s.send cmd).queue = s.queue ++ [cmd] := by simp [send, BoundedQueue.send, room]
  have pending : (s.send cmd).pending = s.pending ++ [cmd] := by
    rw [Power.pending, queue, ← List.append_assoc]
    rfl
  rw [outcome, pending, List.getLast?_concat]
  rfl

theorem outcome_send_full (full : ¬ s.queue.length < powerQueueLength) (cmd : PowerCmd) :
    (s.send cmd).outcome = s.outcome := by
  have same : s.send cmd = s := by simp [send, BoundedQueue.send, full]
  rw [same]

theorem outcome_wake (s : Power) : (s.send .uiWake).outcome = .uiActive ↔ s.wakeHeard = true := by
  by_cases room : s.queue.length < powerQueueLength
  · simp [outcome_send_room room, PowerCmd.target, wakeHeard, room]
  · simp [outcome_send_full room, wakeHeard, room]

theorem outcome_received {cmd : PowerCmd} (received : s.task = .received cmd) :
    s.outcome = (s.queue.getLast?.map PowerCmd.target).getD cmd.target := by
  rw [outcome, pending, inHand, received, List.singleton_append, List.getLast?_cons]
  cases s.queue.getLast? <;> rfl

theorem calls_lastUiCall (cmd : PowerCmd) (calls : List PowerCall) :
    (((calls ++ cmd.calls).filter isUiCall).getLast?.getD .uiResume = .uiResume) ↔
      cmd.target = .uiActive := by
  cases cmd <;> simp [PowerCmd.calls, PowerCmd.target, isUiCall]

theorem tracked_request (tracked : s.Tracked) (queue : List PowerCmd) (request : Option Request)
    (decided : ∀ heard, request = some (.wake heard) →
      (({ s with queue := queue, request := request } : Power).outcome = .uiActive ↔ heard = true)) :
    ({ s with queue := queue, request := request } : Power).Tracked where
  decided := decided
  shown := tracked.shown
  entered := tracked.entered

theorem tracked_transitionToUiActive (tracked : s.Tracked) : s.transitionToUiActive.Tracked := by
  apply tracked_request tracked
  intro heard isWake
  cases isWake
  exact outcome_wake s

theorem tracked_alarmTriggeredCb (tracked : s.Tracked) : s.alarmTriggeredCb.Tracked := by
  unfold alarmTriggeredCb
  split
  next =>
    apply tracked_request tracked
    intro heard isWake
    cases isWake
    exact decide_eq_true_iff.symm
  next => exact tracked_transitionToUiActive tracked

theorem tracked_step (tracked : s.Tracked) {action : Action} (taken : step s action = some after) :
    after.Tracked := by
  cases action with
  | uiInactive =>
      cases taken
      apply tracked_request tracked
      intro heard isWake
      cases isWake
  | alarmTriggered =>
      cases taken
      exact tracked_alarmTriggeredCb tracked
  | lightSleepExit causes =>
      cases taken
      unfold lightSleepExitCb
      split
      · exact tracked_transitionToUiActive tracked
      · exact tracked
  | receive =>
      simp only [step] at taken
      split at taken
      next cmd rest idle queue =>
        cases taken
        refine ⟨fun heard isWake => ?_, fun _ => ?_, fun cmd entering => by cases entering⟩
        · have same := tracked.decided heard isWake
          simpa [outcome, pending, inHand, idle, queue] using same
        · exact tracked.shown (by simp [idle])
      next => cases taken
  | decide =>
      simp only [step] at taken
      split at taken
      next cmd received =>
        have shown := tracked.shown (by simp [received])
        split at taken
        next already =>
          cases taken
          refine ⟨fun heard isWake => ?_, fun _ => shown, fun cmd entering => by cases entering⟩
          have same := tracked.decided heard isWake
          rw [outcome_received received, ← already] at same
          exact same
        next =>
          cases taken
          refine ⟨fun heard isWake => ?_, fun notEntering => absurd rfl (notEntering cmd), ?_⟩
          · have same := tracked.decided heard isWake
            rw [outcome_received received] at same
            exact same
          · intro other entering
            cases entering
            rfl
      next => cases taken
  | perform =>
      simp only [step] at taken
      split at taken
      next cmd entering =>
        cases taken
        refine ⟨fun heard isWake => ?_, fun _ => ?_, fun other entering => by cases entering⟩
        · have same := tracked.decided heard isWake
          simpa [outcome, pending, inHand, entering] using same
        · rw [tracked.entered cmd entering]
          exact calls_lastUiCall cmd s.calls
      next => cases taken

theorem tracked_of_reach {guard : Power → Action → Prop} (reached : Reach step Initial guard s) :
    s.Tracked := by
  apply reached.invariant
  next =>
    intro state initial
    rw [initial]
    refine ⟨fun heard isWake => ?_, fun _ => ?_, fun cmd entering => ?_⟩
    · cases isWake
    · simp [booted, lastUiCall]
    · cases entering
  next =>
    intro state action next tracked _ taken
    exact tracked_step tracked taken

/-- With nothing left to do, the last wake has been served exactly when it was heard. -/
theorem wake_kept (reached : Reach step Initial Unguarded s) (empty : s.queue = [])
    (idle : s.task = .idle) {heard : Bool} (latest : s.request = some (.wake heard)) :
    (s.state = .uiActive ∧ s.lastUiCall = .uiResume) ↔ heard = true := by
  have tracked := tracked_of_reach reached
  have outcome : s.outcome = s.state := by simp [Power.outcome, pending, inHand, idle, empty]
  have shown := tracked.shown (by simp [idle])
  rw [← tracked.decided heard latest, outcome]
  constructor
  · exact fun awake => awake.1
  · exact fun active => ⟨active, shown.mpr active⟩

def wakeAfterSleep : List Action :=
  [.uiInactive, .receive, .decide, .perform, .alarmTriggered, .receive, .decide, .perform]

theorem wake_kept_after_sleep : ∃ s : Power, s.state = .uiActive ∧ s.lastUiCall = .uiResume := by
  have ran : ((run step booted wakeAfterSleep).map fun s => (s.queue, s.task, s.request)) =
      some ([], .idle, some (.wake true)) := by decide
  obtain ⟨s, taken, seen⟩ := Option.map_eq_some_iff.mp ran
  obtain ⟨empty, seen⟩ := Prod.mk.inj seen
  obtain ⟨idle, latest⟩ := Prod.mk.inj seen
  have reached := (Reach.start booted_initial).of_run (guarded_unguarded _ _ _) taken
  exact ⟨s, (wake_kept reached empty idle latest).mpr rfl⟩

/-- The alarm goes off while a sleep is queued and the state still says that the UI is active. -/
theorem alarm_rings_in_the_dark :
    ∃ s : Power, Reach step Initial Unguarded s ∧ s.queue = [] ∧ s.task = .idle ∧
      (∃ heard, s.request = some (.wake heard)) ∧
      ¬ (s.state = .uiActive ∧ s.lastUiCall = .uiResume) := by
  have ran : ((run step booted [.uiInactive, .alarmTriggered, .receive, .decide, .perform]).map
      fun s => (s.queue, s.task, s.request, s.state)) =
      some ([], .idle, some (.wake false), .background) := by decide
  obtain ⟨s, taken, seen⟩ := Option.map_eq_some_iff.mp ran
  obtain ⟨empty, seen⟩ := Prod.mk.inj seen
  obtain ⟨idle, seen⟩ := Prod.mk.inj seen
  obtain ⟨latest, dark⟩ := Prod.mk.inj seen
  refine ⟨s, (Reach.start booted_initial).of_run (guarded_unguarded _ _ _) taken, empty, idle, ⟨_, latest⟩, ?_⟩
  exact fun awake => by simp [awake.1] at dark

end Power

end WatchFirmware.PowerManager
