import WatchFirmware.RuntimeManager.LockOwnership

set_option autoImplicit false

namespace WatchFirmware.RuntimeManager

open Transition

variable {Call : Type}

namespace Section

/-- From `runtime_manager_begin_curfew_unsafe` to the next runtime state. -/
def isCurfew : Section Call → Bool
  | .hasWork _ .curfew | .idle .curfew | .busy .curfew => true
  | _ => false

def closes (body : Section Call) : Bool :=
  body.isCurfew || match body with
    | .sleep _ => true
    | _ => false

theorem closes_callback {body : Section Call} (closes : body.closes = true) : body.isCallback = true := by
  cases body with
  | hasWork reading asking => cases asking <;> first | rfl | cases closes
  | idle asking => cases asking <;> first | rfl | cases closes
  | busy asking => cases asking <;> first | rfl | cases closes
  | sleep => rfl
  | _ => cases closes

end Section

def Debounced (window : Window) : Prop :=
  ∀ deadline, window.curfewSettlementTimer = .armed deadline → deadline ≤ window.start + window.length

/-- The timers that an open window, a grace period and sleep need; a callback may wait instead. -/
structure TimersSet (window : Window) (windowWaits graceWaits : Prop) : Prop where
  active : window.runtimeState.isActive = true → window.gracePeriodTimer = .stopped ∧
    (window.totalWindowTimer = .armed (window.windowStartTime + windowMax window.runtimeState) ∨
      windowWaits)
  grace : window.runtimeState = .gracePeriod → window.totalWindowTimer = .stopped ∧
    (window.gracePeriodTimer = .armed (window.graceStartTime + windowGracePeriod) ∨ graceWaits)
  sleep : window.runtimeState = .sleep → window.totalWindowTimer = .stopped ∧
    window.gracePeriodTimer = .stopped ∧ window.curfewSettlementTimer = .stopped
  settlement : Debounced window

def AllStopped (window : Window) : Prop :=
  window.totalWindowTimer = .stopped ∧ window.gracePeriodTimer = .stopped ∧
    window.curfewSettlementTimer = .stopped

theorem debounced_stopped {window : Window} (stopped : window.curfewSettlementTimer = .stopped) :
    Debounced window := by
  intro deadline armed
  rw [stopped] at armed
  cases armed

theorem AllStopped.debounced {window : Window} (stopped : AllStopped window) : Debounced window :=
  debounced_stopped stopped.2.2

theorem timers_asleep {window : Window} {windowWaits graceWaits : Prop}
    (asleep : window.runtimeState = .sleep) (stopped : AllStopped window) :
    TimersSet window windowWaits graceWaits where
  active := by simp [asleep, RuntimeState.isActive]
  grace := by simp [asleep]
  sleep := fun _ => stopped
  settlement := stopped.debounced

theorem TimersSet.mono {window : Window} {windowWaits graceWaits windowNext graceNext : Prop}
    (timers : TimersSet window windowWaits graceWaits) (windowStill : windowWaits → windowNext)
    (graceStill : graceWaits → graceNext) : TimersSet window windowNext graceNext where
  active := fun state => (timers.active state).imp_right (Or.imp_right windowStill)
  grace := fun state => (timers.grace state).imp_right (Or.imp_right graceStill)
  sleep := timers.sleep
  settlement := timers.settlement

namespace Runtime

def Waits (s : Runtime Call) (task : TimerTask) (entry : Section Call) : Prop :=
  s.timerTask = task ∧ ∀ body, s.lock = some (.timerTask, body) → body = entry

def Timed (s : Runtime Call) : Prop :=
  TimersSet s.window (s.Waits .window .workWindowExpiry) (s.Waits .grace .gracePeriodExpiry)

structure Attended (s : Runtime Call) : Prop where
  timed : (∀ owner body, s.lock = some (owner, body) → body.closes = false) → s.Timed
  curfew : ∀ owner body, s.lock = some (owner, body) → body.isCurfew = true → AllStopped s.window
  debounced : Debounced s.window

theorem Attended.frame {s after : Runtime Call} (attended : s.Attended) (window : after.window = s.window)
    (lock : after.lock = s.lock) (task : after.timerTask = s.timerTask) : after.Attended := by
  have waits : ∀ own entry, s.Waits own entry → after.Waits own entry := by
    intro own entry waits
    exact ⟨task.trans waits.1, fun body held => waits.2 body (lock ▸ held)⟩
  refine ⟨fun open_ => ?_, fun owner body held => ?_, window ▸ attended.debounced⟩
  · unfold Timed
    rw [window]
    exact (attended.timed fun owner body held => open_ owner body (lock ▸ held)).mono (waits _ _) (waits _ _)
  · rw [window]
    exact attended.curfew owner body (lock ▸ held)

theorem Orderly.closing_task {s : Runtime Call} (orderly : s.Orderly) {owner : Owner}
    {body : Section Call} (held : s.lock = some (owner, body)) (closes : body.closes = true) :
    owner = .timerTask ∧ s.timerTask.isCallback = true := by
  have isTimer : owner = .timerTask := by
    refine orderly.timer_of_callback held (Section.closes_callback closes) ?_
    rintro rfl
    cases closes
  subst isTimer
  exact ⟨rfl, (orderly.owns _ _ held).2⟩

theorem Attended.timed_idle {s : Runtime Call} (attended : s.Attended) (orderly : s.Orderly)
    (idle : s.timerTask.isCallback = false) : s.Timed := by
  refine attended.timed fun owner body held => ?_
  by_contra closes
  have task := (orderly.closing_task held (by simpa using closes)).2
  rw [idle] at task
  cases task

theorem Attended.outside {s after : Runtime Call} (orderly : s.Orderly)
    (lock : ∀ owner body, after.lock = some (owner, body) → ∃ before, s.lock = some (before, body))
    (idle : s.timerTask.isCallback = false) (timed : after.Timed) : after.Attended := by
  -- the timer task is outside its sections, so nothing is closing
  refine ⟨fun _ => timed, fun owner body held curfew => ?_, timed.settlement⟩
  obtain ⟨before, was⟩ := lock owner body held
  have task := (orderly.closing_task was (by simp [Section.closes, curfew])).2
  rw [idle] at task
  cases task

theorem not_waits {s : Runtime Call} {own : TimerTask} {entry : Section Call}
    (idle : s.timerTask.isCallback = false) (callback : own.isCallback = true) : ¬ s.Waits own entry := by
  rintro ⟨rfl, _⟩
  rw [idle] at callback
  cases callback

theorem Attended.watchdog {s after : Runtime Call} (attended : s.Attended) (orderly : s.Orderly)
    (lock : ∀ owner body, after.lock = some (owner, body) → ∃ before, s.lock = some (before, body))
    (idle : s.timerTask.isCallback = false) (window : after.window = s.window) : after.Attended := by
  -- a step of the timer task outside the manager's callbacks: the window is not touched
  refine .outside orderly lock idle ?_
  unfold Timed
  rw [window]
  exact (attended.timed_idle orderly idle).mono (fun waits => absurd waits (not_waits idle rfl))
    fun waits => absurd waits (not_waits idle rfl)

theorem Attended.acquire {s after : Runtime Call} {owner : Owner} {body : Section Call}
    (attended : s.Attended) (acquired : s.acquire owner body = some after) (entry : body.closes = false)
    (window : s.timerTask = .window → owner = .timerTask → body = .workWindowExpiry)
    (grace : s.timerTask = .grace → owner = .timerTask → body = .gracePeriodExpiry) :
    after.Attended := by
  obtain ⟨free, rfl⟩ := acquire_eq_some acquired
  have timed := attended.timed (by simp [free])
  refine ⟨fun _ => timed.mono ?_ ?_, ?_, timed.settlement⟩
  · rintro ⟨task, _⟩
    refine ⟨task, ?_⟩
    rintro _ ⟨⟩
    exact window task rfl
  · rintro ⟨task, _⟩
    refine ⟨task, ?_⟩
    rintro _ ⟨⟩
    exact grace task rfl
  · rintro _ _ ⟨⟩ curfew
    simp [Section.closes, curfew] at entry

theorem Attended.release {s : Runtime Call} {owner : Owner} (attended : s.Attended)
    (held : s.lock = some (owner, .done)) : (s.release owner).Attended := by
  have timed : s.Timed := by
    refine attended.timed ?_
    rw [held]
    rintro _ _ ⟨⟩
    rfl
  refine ⟨fun _ => ?_, ?_, by rw [release_window]; exact timed.settlement⟩
  · unfold Timed
    rw [release_window]
    refine timed.mono ?_ ?_
    all_goals
      rintro ⟨task, entry⟩
      -- The section is over, so a callback of the timer task does not wait any more.
      have other : owner ≠ .timerTask := by
        rintro rfl
        cases entry _ held
      refine ⟨(release_timerTask s other).trans task, ?_⟩
      rw [release_lock]
      simp
  · rw [release_lock]
    simp

theorem waits_section {s after : Runtime Call} {owner : Owner} {body rest entry : Section Call}
    {own : TimerTask} (held : s.lock = some (owner, body)) (task : after.timerTask = s.timerTask)
    (lock : after.lock = some (owner, rest)) (waits : s.Waits own entry) (started : body ≠ entry) :
    after.Waits own entry := by
  -- a section that goes on, other than by starting its callback, keeps what waits waiting
  have notTimer : owner ≠ .timerTask := by
    rintro rfl
    exact started (waits.2 _ held)
  refine ⟨task.trans waits.1, fun other held => ?_⟩
  rw [lock] at held
  cases held
  exact absurd rfl notTimer

section SectionSteps

variable {s after : Runtime Call} {owner : Owner} {body rest : Section Call}

theorem Attended.open (held : s.lock = some (owner, body)) (task : after.timerTask = s.timerTask)
    (lock : after.lock = some (owner, rest)) (stays : rest.closes = false)
    (window : body ≠ .workWindowExpiry) (grace : body ≠ .gracePeriodExpiry)
    (timers : TimersSet after.window (s.Waits .window .workWindowExpiry)
      (s.Waits .grace .gracePeriodExpiry)) : after.Attended := by
  refine ⟨fun _ => ?_, fun other afterBody isHeld curfew => ?_, timers.settlement⟩
  · exact timers.mono (fun waits => waits_section held task lock waits window)
      fun waits => waits_section held task lock waits grace
  · rw [lock] at isHeld
    cases isHeld
    simp [Section.closes, curfew] at stays

theorem Attended.closing (lock : after.lock = some (owner, rest)) (closes : rest.closes = true)
    (stopped : rest.isCurfew = true → AllStopped after.window) (debounced : Debounced after.window) :
    after.Attended := by
  refine ⟨fun none => ?_, fun other body held curfew => ?_, debounced⟩
  · rw [none _ _ lock] at closes
    cases closes
  · rw [lock] at held
    cases held
    exact stopped curfew

theorem Attended.timed_open (attended : s.Attended) (held : s.lock = some (owner, body))
    (stays : body.closes = false) : s.Timed := by
  refine attended.timed ?_
  rw [held]
  rintro _ _ ⟨⟩
  exact stays

theorem begin_stopped (timed : s.Timed) (active : s.window.runtimeState.isActive = true) :
    AllStopped s.runtimeManagerBeginCurfewUnsafe.1.window :=
  ⟨rfl, (timed.active active).1, rfl⟩

theorem begin_closes (s : Runtime Call) :
    s.runtimeManagerBeginCurfewUnsafe.2.isCurfew = true := by
  unfold runtimeManagerBeginCurfewUnsafe
  dsimp only
  split <;> rfl

theorem armSettlement_timers {windowWaits graceWaits : Prop}
    (awake : s.window.runtimeState ≠ .sleep)
    (timers : TimersSet s.window windowWaits graceWaits) :
    TimersSet s.armSettlement.window windowWaits graceWaits := by
  unfold armSettlement
  dsimp only
  split
  next => exact timers
  next inactive =>
    split
    next remaining =>
      have stopped : s.window.curfewSettlementTimer = .stopped := by
        cases timer : s.window.curfewSettlementTimer with
        | stopped => rfl
        | armed => simp [timer, EspTimer.isActive] at inactive
      refine ⟨timers.active, timers.grace, fun asleep => absurd asleep awake, fun deadline armed => ?_⟩
      rw [stopped, EspTimer.startOnce_stopped] at armed
      cases armed
      show s.now + _ ≤ s.window.start + s.window.length
      split <;> omega
    next => exact timers

theorem setRuntimeState_timers {target : RuntimeState} {windowWaits graceWaits : Prop}
    (active : target.isActive = true) (timers : TimersSet s.window windowWaits graceWaits) :
    TimersSet (s.setRuntimeState target).1.window windowWaits graceWaits := by
  unfold setRuntimeState
  split
  · exact timers
  · cases target with
    | sleep | gracePeriod => cases active
    | uiActive | backgroundActive =>
        dsimp only
        split
        next asleep =>
          obtain ⟨total, grace, settlement⟩ := timers.sleep asleep
          refine ⟨fun _ => ⟨grace, .inl ?_⟩, fun state => ?_, fun state => ?_,
            debounced_stopped settlement⟩
          · simp [workerPoolResumeAll, total]
          · cases state
          · cases state
        next => exact timers

theorem Attended.same (attended : s.Attended) (held : s.lock = some (owner, body))
    (task : after.timerTask = s.timerTask) (lock : after.lock = some (owner, rest))
    (window : after.window = s.window) (before : body.closes = false) (stays : rest.closes = false)
    (notWindow : body ≠ .workWindowExpiry) (notGrace : body ≠ .gracePeriodExpiry) : after.Attended :=
  .open held task lock stays notWindow notGrace (window ▸ attended.timed_open held before)

theorem Attended.begin {created : Bool} (attended : s.Attended) (held : s.lock = some (owner, body))
    (before : body.closes = false) (active : s.window.runtimeState.isActive = true)
    (begins : s.runSection body created = s.runtimeManagerBeginCurfewUnsafe) :
    Attended { (s.runSection body created).1 with lock := some (owner, (s.runSection body created).2) } := by
  rw [begins]
  have stopped := begin_stopped (attended.timed_open held before) active
  exact .closing rfl (by simp [Section.closes, begin_closes]) (fun _ => stopped) stopped.debounced

end SectionSteps

theorem Attended.section {s : Runtime Call} {owner : Owner} {body : Section Call} (created : Bool)
    (attended : s.Attended) (orderly : s.Orderly) (held : s.lock = some (owner, body)) :
    Attended { (s.runSection body created).1 with lock := some (owner, (s.runSection body created).2) } := by
  have task := s.runSection_timerTask body created
  have fits := orderly.fits owner body held
  cases body with
  | scheduleWork queue item =>
      exact attended.same held task rfl (s.scheduleWork_onlyQueues queue item).window rfl rfl
        (by simp) (by simp)
  | getState | suspendAll | done =>
      exact attended.same held task rfl rfl rfl rfl (by simp) (by simp)
  | registerHook hook =>
      have timed := attended.timed_open held rfl
      simp only [runSection]
      split
      · exact attended.same held rfl rfl rfl rfl rfl (by simp) (by simp)
      · exact .open held rfl rfl rfl (by simp) (by simp)
          ⟨timed.active, timed.grace, timed.sleep, timed.settlement⟩
  | unregisterHook hook =>
      have timed := attended.timed_open held rfl
      exact .open held rfl rfl rfl (by simp) (by simp)
        ⟨timed.active, timed.grace, timed.sleep, timed.settlement⟩
  | resetSettlementTimer =>
      have timed := attended.timed_open held rfl
      refine .open held rfl rfl rfl (by simp) (by simp) ⟨timed.active, timed.grace, ?_, debounced_stopped rfl⟩
      exact fun asleep => ⟨(timed.sleep asleep).1, (timed.sleep asleep).2.1, rfl⟩
  | startWork =>
      refine .open held task rfl ?_ (by simp) (by simp)
        (setRuntimeState_timers orderly.ticks (attended.timed_open held rfl))
      rcases s.setRuntimeState_start orderly.ticks with rest | rest <;> simp only [runSection, rest] <;> rfl
  | evaluateEarlyCurfew | curfewSettlementExpiry =>
      simp only [runSection]
      split <;> exact attended.same held rfl rfl rfl rfl rfl (by simp) (by simp)
  | workWindowExpiry =>
      by_cases active : s.window.runtimeState.isActive = true
      · exact attended.begin held rfl active (by simp only [runSection, active, if_true])
      · have timed := attended.timed_open held rfl
        simp only [runSection, active, Bool.false_eq_true, if_false]
        refine ⟨fun _ => ⟨fun state => absurd state active, fun state => ?_, timed.sleep,
          timed.settlement⟩, by rintro _ _ ⟨⟩ ⟨⟩, timed.settlement⟩
        exact (timed.grace state).imp_right (Or.imp_right fun waits =>
          waits_section held rfl rfl waits (by simp))
  | gracePeriodExpiry =>
      have timed := attended.timed_open held rfl
      simp only [runSection]
      split
      next => exact .closing rfl rfl (fun curfew => by cases curfew) timed.settlement
      next awake =>
        refine ⟨fun _ => ⟨fun state => ?_, fun state => absurd state awake, timed.sleep,
          timed.settlement⟩, by rintro _ _ ⟨⟩ ⟨⟩, timed.settlement⟩
        exact (timed.active state).imp_right (Or.imp_right fun waits =>
          waits_section held rfl rfl waits (by simp))
  | hasWork reading asking =>
      have window : (s.runSection (.hasWork reading asking) created).1.window = s.window := by
        cases reading with
        | active => simp only [runSection]; split <;> rfl
        | system | user => rfl
      cases asking with
      | evaluate | settlement =>
          refine attended.same held task rfl window rfl ?_ (by simp) (by simp)
          cases reading <;> simp only [runSection] <;> split <;> rfl
      | curfew =>
          have stopped := attended.curfew _ _ held rfl
          rw [← show _ = _ from window] at stopped
          refine .closing rfl ?_ (fun _ => stopped) stopped.debounced
          cases reading <;> simp only [runSection] <;> split <;> rfl
  | idle asking =>
      cases asking with
      | evaluate =>
          have awake : s.window.runtimeState ≠ .sleep := of_decide_eq_true fits
          exact .open held task rfl rfl (by simp) (by simp)
            (armSettlement_timers awake (attended.timed_open held rfl))
      | settlement =>
          by_cases active : s.window.runtimeState.isActive = true
          · exact attended.begin held rfl active (by simp only [runSection, active, if_true])
          · simp only [runSection, active, Bool.false_eq_true, if_false]
            exact .closing rfl rfl (fun curfew => by cases curfew) attended.debounced
      | curfew => exact .closing rfl rfl (fun curfew => by cases curfew) attended.debounced
  | busy asking =>
      cases asking with
      | evaluate | settlement => exact attended.same held task rfl rfl rfl rfl (by simp) (by simp)
      | curfew =>
          obtain ⟨total, grace, settlement⟩ := attended.curfew _ _ held rfl
          refine .open held rfl rfl rfl (by simp) (by simp) ⟨fun active => ?_,
            fun _ => ⟨total, .inl ?_⟩, fun asleep => ?_, debounced_stopped settlement⟩
          · cases active
          · simp [runSection, beginGrace, grace]
          · cases asleep
  | submitHooks rest =>
      cases rest with
      | nil => exact attended.same held task rfl rfl rfl rfl (by simp) (by simp)
      | cons hook rest =>
          exact attended.same held task rfl (s.submitHook_onlyQueues hook).window rfl rfl (by simp) (by simp)
  | sleep cause =>
      simp only [runSection, setRuntimeState]
      split
      next asleep =>
        rw [asleep] at fits
        cases cause <;> cases fits
      next =>
        exact .open held rfl rfl rfl (by simp) (by simp) (timers_asleep rfl ⟨rfl, rfl, rfl⟩)
  | drainPending queue =>
      simp only [runSection]
      cases drained : s.drainPendingQueue queue with
      | none =>
          refine attended.same held rfl rfl rfl rfl ?_ (by simp) (by simp)
          dsimp only
          split <;> rfl
      | some after =>
          have kept := drainPendingQueue_onlyQueues drained
          exact attended.same held kept.timerTask rfl kept.window rfl rfl (by simp) (by simp)
  | forceAbort rest =>
      cases rest with
      | nil => exact attended.same held task rfl rfl rfl rfl (by simp) (by simp)
      | cons i rest =>
          refine attended.same held rfl rfl rfl rfl ?_ (by simp) (by simp)
          simp only [runSection]
          split <;> rfl
  | recover i stage rest =>
      cases stage with
      | stop | exchange =>
          simp only [runSection]
          split <;> exact attended.same held rfl rfl rfl rfl rfl (by simp) (by simp)
      | delete =>
          exact attended.same held task rfl (s.deleteWorker_onlyWorkers i).window rfl rfl (by simp) (by simp)
      | subtract | create | clearAbort | clearWorking | park =>
          exact attended.same held task rfl rfl rfl rfl (by simp) (by simp)

/-- Neither of the callbacks that end a window or a grace period gives up the lock. -/
def CallbacksAcquire (s : Runtime Call) : Action Call → Prop
  | .timerTimeout => s.timerTask ≠ .window ∧ s.timerTask ≠ .grace
  | _ => True

theorem Attended.fire {s after : Runtime Call} {timer : TimerId} (attended : s.Attended)
    (orderly : s.Orderly) (taken : s.fire timer = some after) : after.Attended := by
  unfold Runtime.fire at taken
  split at taken
  next idle =>
    have callback : s.timerTask.isCallback = false := by rw [idle]; rfl
    have timed := attended.timed_idle orderly callback
    have free : ∀ body, s.lock ≠ some (.timerTask, body) := by
      intro body held
      exact orderly.not_timer callback (by rw [Runtime.owner, held]; rfl)
    -- Nothing waits before the expiry, so the timers themselves were armed.
    have noWindow : ¬ s.Waits .window .workWindowExpiry := not_waits callback rfl
    have noGrace : ¬ s.Waits .grace .gracePeriodExpiry := not_waits callback rfl
    cases timer with
    | window =>
        simp only [Option.ite_none_right_eq_some, Option.some.injEq] at taken
        obtain ⟨_, rfl⟩ := taken
        refine .outside orderly (fun owner _ held => ⟨owner, held⟩) callback ⟨fun state => ?_,
          fun state => ?_, fun state => ⟨rfl, (timed.sleep state).2⟩, timed.settlement⟩
        · exact ⟨(timed.active state).1, .inr ⟨rfl, fun body held => absurd held (free body)⟩⟩
        · exact ⟨rfl, (timed.grace state).2.imp_right fun waits => absurd waits noGrace⟩
    | grace =>
        simp only [Option.ite_none_right_eq_some, Option.some.injEq] at taken
        obtain ⟨_, rfl⟩ := taken
        refine .outside orderly (fun owner _ held => ⟨owner, held⟩) callback ⟨fun state => ?_,
          fun state => ?_, fun state => ⟨(timed.sleep state).1, rfl, (timed.sleep state).2.2⟩,
          timed.settlement⟩
        · exact ⟨rfl, (timed.active state).2.imp_right fun waits => absurd waits noWindow⟩
        · exact ⟨(timed.grace state).1, .inr ⟨rfl, fun body held => absurd held (free body)⟩⟩
    | settlement =>
        simp only [Option.ite_none_right_eq_some, Option.some.injEq] at taken
        obtain ⟨_, rfl⟩ := taken
        have idleTimers : TimersSet s.window False False := timed.mono noWindow noGrace
        have still := fun (windowWaits graceWaits : Prop) =>
          (idleTimers.mono False.elim False.elim : TimersSet s.window windowWaits graceWaits)
        exact .outside orderly (fun owner _ held => ⟨owner, held⟩) callback ⟨(still _ False).active, (still False _).grace,
          fun state => ⟨(timed.sleep state).1, (timed.sleep state).2.1, rfl⟩, debounced_stopped rfl⟩
    | soft | hard =>
        simp only [Option.ite_none_right_eq_some, Option.some.injEq] at taken
        obtain ⟨_, rfl⟩ := taken
        exact attended.watchdog orderly (fun owner _ held => ⟨owner, held⟩) callback rfl
  next => cases taken

theorem Attended.timer {s after : Runtime Call} {created : Bool} (attended : s.Attended)
    (orderly : s.Orderly) (taken : s.runTimerTask created = some after) : after.Attended := by
  unfold runTimerTask at taken
  cases task : s.timerTask with
  | idle => simp [task] at taken
  | window | grace | settlement =>
      simp only [task] at taken
      exact attended.acquire taken rfl (by simp [task]) (by simp [task])
  | soft i | hard i =>
      simp only [task, Option.some.injEq] at taken
      subst taken
      exact attended.watchdog orderly (fun owner _ held => ⟨owner, held⟩) (by rw [task]; rfl) rfl
  | recover i stage =>
      have callback : s.timerTask.isCallback = false := by rw [task]; rfl
      cases stage with
      | exchange =>
          simp only [task] at taken
          split at taken <;> cases taken <;>
            exact attended.watchdog orderly (fun owner _ held => ⟨owner, held⟩) callback rfl
      | delete =>
          simp only [task, Option.some.injEq] at taken
          subst taken
          refine attended.watchdog orderly (fun owner body held => ?_) callback
            (s.deleteWorker_onlyWorkers i).window
          obtain ⟨before, was, _⟩ := s.deleteWorker_lock i held
          exact ⟨before, was⟩
      | subtract | create | clearAbort | clearWorking =>
          simp only [task, Option.some.injEq] at taken
          subst taken
          exact attended.watchdog orderly (fun owner _ held => ⟨owner, held⟩) callback rfl
      | stop | park => simp [task] at taken

theorem Attended.advance {s after : Runtime Call} {created : Bool} (attended : s.Attended)
    (orderly : s.Orderly) (taken : s.advance created = some after) : after.Attended := by
  obtain ⟨owner, body, held, _, ⟨rfl, rfl⟩ | ⟨_, rfl⟩⟩ := advance_cases taken
  · exact attended.release held
  · exact attended.section created orderly held

theorem Attended.step {s after : Runtime Call} {action : Action Call} (attended : s.Attended)
    (orderly : s.Orderly) (acquires : s.CallbacksAcquire action) (taken : s.step action = some after) :
    after.Attended := by
  cases action with
  | request request =>
      simp only [Runtime.step, Option.ite_none_right_eq_some] at taken
      exact attended.acquire taken.2 (by cases request <;> rfl) (by simp) (by simp)
  | requestTimeout request =>
      simp only [Runtime.step, Option.ite_none_right_eq_some, Option.some.injEq] at taken
      obtain ⟨_, rfl⟩ := taken
      cases request <;> exact attended.frame rfl rfl rfl
  | workTick => exact attended.acquire taken rfl (by simp) (by simp)
  | setActiveState uiActive =>
      cases taken
      exact ⟨fun stays =>
        have timed := attended.timed stays
        ⟨timed.active, timed.grace, timed.sleep, timed.settlement⟩, attended.curfew,
          attended.debounced⟩
  | elapse us =>
      cases taken
      exact attended.frame rfl rfl rfl
  | worker i =>
      simp only [Runtime.step, Option.ite_none_right_eq_some] at taken
      rcases (workerStep_of_entry taken.2).lock_or_moves with ⟨_, _, acquired⟩ | ⟨_, acquired⟩ | moves
      · exact attended.acquire acquired rfl (by simp) (by simp)
      · exact attended.acquire acquired rfl (by simp) (by simp)
      · exact attended.frame moves.window moves.lock moves.timerTask
  | workerTimeout i =>
      simp only [Runtime.step, Option.ite_none_right_eq_some] at taken
      obtain ⟨_, moved⟩ := taken
      cases pc : (s.workers i).pc with
      | counted | evaluate =>
          simp only [pc, Option.some.injEq] at moved
          subst moved
          exact attended.frame rfl rfl rfl
      | _ => simp [pc] at moved
  | call i request =>
      simp only [Runtime.step] at taken
      cases pc : (s.workers i).pc with
      | handle =>
          simp only [pc, Option.ite_none_right_eq_some] at taken
          exact attended.acquire taken.2 (by cases request <;> rfl) (by simp) (by simp)
      | _ => simp [pc] at taken
  | callTimeout i request =>
      simp only [Runtime.step] at taken
      cases pc : (s.workers i).pc with
      | handle =>
          simp only [pc, Option.ite_none_right_eq_some, Option.some.injEq] at taken
          obtain ⟨_, rfl⟩ := taken
          cases request <;> exact attended.frame rfl rfl rfl
      | _ => simp [pc] at taken
  | fire timer => exact attended.fire orderly taken
  | timerTask created =>
      simp only [Runtime.step] at taken
      split at taken
      next => cases taken
      next => exact attended.timer orderly taken
  | timerTimeout =>
      simp only [Runtime.step, Option.ite_none_right_eq_some] at taken
      obtain ⟨contended, idled⟩ := taken
      cases task : s.timerTask with
      | window => exact absurd task acquires.1
      | grace => exact absurd task acquires.2
      | settlement =>
          simp only [task, Option.some.injEq] at idled
          subst idled
          refine ⟨fun stays => (attended.timed stays).mono ?_ ?_, attended.curfew, attended.debounced⟩
          all_goals
            rintro ⟨waiting, _⟩
            rw [task] at waiting
            cases waiting
      | _ => simp [task] at idled
  | advance created => exact attended.advance orderly taken

theorem Initial.attended {s : Runtime Call} (initial : s.Initial) : s.Attended := by
  refine ⟨fun _ => ?_, fun _ _ held => ?_, ?_⟩
  · unfold Timed
    rw [initial.window]
    exact timers_asleep rfl ⟨rfl, rfl, rfl⟩
  · rw [initial.lock] at held
    cases held
  · rw [initial.window]
    exact debounced_stopped rfl

def Closing (s : Runtime Call) : Prop :=
  ∃ body, s.lock = some (.timerTask, body) ∧ body.closes = true

/-- While the device is awake, something is left that ends the window. -/
theorem window_always_closes {s : Runtime Call} (reached : Reach step Initial CallbacksAcquire s) :
    (s.window.runtimeState.isActive = true →
        s.window.totalWindowTimer =
            .armed (s.window.windowStartTime + windowMax s.window.runtimeState) ∨
          s.Waits .window .workWindowExpiry ∨ s.Closing) ∧
      (s.window.runtimeState = .gracePeriod →
        s.window.gracePeriodTimer = .armed (s.window.graceStartTime + windowGracePeriod) ∨
          s.Waits .grace .gracePeriodExpiry ∨ s.Closing) ∧
      (s.window.runtimeState = .sleep → AllStopped s.window) ∧
      ∀ deadline, s.window.curfewSettlementTimer = .armed deadline →
        deadline ≤ s.window.start + s.window.length := by
  have orderly := orderly_of_reach reached
  have both := reached.invariant
    (fun _ initial => (⟨initial.orderly, initial.attended⟩ : Orderly _ ∧ Attended _))
    fun _ _ _ both acquires taken => ⟨both.1.step taken, both.2.step both.1 acquires taken⟩
  have attended := both.2
  have timed : ¬ s.Closing → s.Timed := by
    intro stays
    refine attended.timed fun owner body held => ?_
    by_contra closes
    rw [Bool.not_eq_false] at closes
    obtain ⟨rfl, _⟩ := orderly.closing_task held closes
    exact stays ⟨body, held, closes⟩
  refine ⟨fun active => ?_, fun grace => ?_, fun asleep => ?_, attended.debounced⟩
  · by_cases closing : s.Closing
    · exact .inr (.inr closing)
    · exact ((timed closing).active active).2.imp_right .inl
  · by_cases closing : s.Closing
    · exact .inr (.inr closing)
    · exact ((timed closing).grace grace).2.imp_right .inl
  · refine (timed ?_).sleep asleep
    rintro ⟨body, held, closes⟩
    have fits := orderly.fits _ body held
    rw [asleep] at fits
    cases body with
    | hasWork reading asking => cases asking <;> cases fits
    | idle asking => cases asking <;> cases fits
    | busy asking => cases asking <;> cases fits
    | sleep cause => cases cause <;> cases fits
    | _ => cases closes

instance (s : Runtime Call) (action : Action Call) : Decidable (s.CallbacksAcquire action) :=
  match action with
  | .timerTimeout => inferInstanceAs (Decidable (s.timerTask ≠ .window ∧ s.timerTask ≠ .grace))
  | .request _ | .requestTimeout _ | .workTick | .setActiveState _ | .elapse _ | .worker _
  | .workerTimeout _ | .call _ _ | .callTimeout _ _ | .fire _ | .timerTask _ | .advance _ =>
      inferInstanceAs (Decidable True)

def oneSystemItem : List (Action Nat) :=
  [.request (.scheduleSystemWork (systemItem 1))] ++ advances 2 ++ [.workTick] ++ advances 6 ++
    startHandler 2

theorem window_always_closes_settling :
    ∃ s : Runtime Nat, s.window.runtimeState = .uiActive ∧
      s.window.curfewSettlementTimer = .armed 606000 ∧
      (s.window.totalWindowTimer =
            .armed (s.window.windowStartTime + windowMax s.window.runtimeState) ∨
          s.Waits .window .workWindowExpiry ∨ s.Closing) ∧
      ∀ deadline, s.window.curfewSettlementTimer = .armed deadline →
        deadline ≤ s.window.start + s.window.length := by
  let actions := oneSystemItem ++ [.elapse 595000] ++ endHandler 2 ++ [.worker 2] ++ advances 6
  have ran : ((run step booted actions).map fun s =>
      (s.window.runtimeState, s.window.curfewSettlementTimer)) = some (.uiActive, .armed 606000) := by
    decide +kernel
  obtain ⟨s, taken, seen⟩ := Option.map_eq_some_iff.mp ran
  obtain ⟨state, settlement⟩ := Prod.mk.inj seen
  have guarded : Guarded step CallbacksAcquire booted actions := by decide +kernel
  have reached := (Reach.start booted_initial).of_run guarded taken
  obtain ⟨active, _, _, debounced⟩ := window_always_closes reached
  exact ⟨s, state, settlement, active (by rw [state]; rfl), debounced⟩

/-- The window's only callback gives up on the lock, which a handler holds. -/
theorem window_never_closes :
    ∃ s : Runtime Nat, Reach step Initial Unguarded s ∧ s.window.runtimeState = .uiActive ∧
      AllStopped s.window ∧ s.timerTask = .idle ∧ s.lock = none := by
  let actions := oneSystemItem ++ [.elapse 700000, .call 2 .getState, .fire .window, .elapse 50000,
    .timerTimeout] ++ advances 2
  have ran : ((run step booted actions).map fun s => (s.window.runtimeState, s.window.totalWindowTimer,
      s.window.gracePeriodTimer, s.window.curfewSettlementTimer, s.timerTask, s.lock.isNone)) =
      some (.uiActive, .stopped, .stopped, .stopped, .idle, true) := by decide +kernel
  obtain ⟨s, taken, seen⟩ := Option.map_eq_some_iff.mp ran
  simp only [Prod.mk.injEq] at seen
  obtain ⟨state, total, grace, settlement, task, lock⟩ := seen
  exact ⟨s, (Reach.start booted_initial).of_run (guarded_unguarded _ _ _) taken, state,
    ⟨total, grace, settlement⟩, task, Option.isNone_iff_eq_none.mp lock⟩

end Runtime

end WatchFirmware.RuntimeManager
