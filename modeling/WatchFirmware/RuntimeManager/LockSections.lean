import WatchFirmware.RuntimeManager.Frames

set_option autoImplicit false

namespace WatchFirmware.RuntimeManager

open Transition

variable {Call : Type}

namespace Section

def isRequest : Section Call → Bool
  | .scheduleWork _ _ | .getState | .registerHook _ | .unregisterHook _ | .done => true
  | _ => false

def isReset : Section Call → Bool
  | .resetSettlementTimer | .done => true
  | _ => false

def isEvaluation : Section Call → Bool
  | .evaluateEarlyCurfew | .hasWork _ .evaluate | .idle .evaluate | .busy .evaluate | .done => true
  | _ => false

def isClient (body : Section Call) : Bool :=
  body.isRequest || body.isEvaluation || match body with
    | .startWork => true
    | _ => false

def isCallback : Section Call → Bool
  | .workWindowExpiry | .gracePeriodExpiry | .curfewSettlementExpiry
  | .hasWork _ .settlement | .hasWork _ .curfew | .idle .settlement | .idle .curfew
  | .busy .settlement | .busy .curfew | .submitHooks _ | .sleep _ | .drainPending _
  | .forceAbort _ | .recover _ _ _ | .suspendAll | .done => true
  | _ => false

def fits (body : Section Call) (state : RuntimeState) : Bool :=
  match body with
  | .hasWork _ .evaluate | .idle .evaluate | .busy .evaluate
  | .hasWork _ .settlement | .idle .settlement | .busy .settlement | .sleep .idle =>
      decide (state ≠ .sleep)
  | .hasWork _ .curfew | .idle .curfew | .busy .curfew => state.isActive
  | .submitHooks _ | .sleep .graceExpired => decide (state = .gracePeriod)
  | .drainPending _ | .forceAbort _ | .recover _ _ _ | .suspendAll => decide (state = .sleep)
  | _ => true

end Section

def TimerTask.isCallback : TimerTask → Bool
  | .window | .grace | .settlement => true
  | _ => false

def WorkerPc.runs (pc : WorkerPc Call) (body : Section Call) : Bool :=
  match pc with
  | .counted _ => body.isReset
  | .evaluate => body.isEvaluation
  | .handle _ _ => body.isRequest
  | _ => false

def Recovery.emptied : Recovery → Bool
  | .subtract | .create => true
  | .stop | .exchange | .delete | .clearAbort | .clearWorking | .park => false

theorem afterDelete_cases (worker : Worker Call) :
    Runtime.afterDelete worker = .subtract ∨ Runtime.afterDelete worker = .create := by
  unfold Runtime.afterDelete
  split
  next => exact .inl rfl
  next => exact .inr rfl

namespace Runtime

def Owns (s : Runtime Call) (body : Section Call) : Owner → Prop
  | .client => body.isClient = true
  | .worker i => (s.workers i).runnable = true ∧ (s.workers i).pc.runs body = true
  | .timerTask => body.isCallback = true ∧ s.timerTask.isCallback = true
  | .deleted => body.isCallback = false ∨ body = .done

def DeadReceive (workers : WorkerId → Worker Call) : Prop :=
  ∀ i, (workers i).live = false → (workers i).pc = .receive

theorem DeadReceive.update {workers : WorkerId → Worker Call} (dead : DeadReceive workers)
    (i : WorkerId) {worker : Worker Call} (new : worker.live = false → worker.pc = .receive) :
    DeadReceive (Function.update workers i worker) := by
  intro j
  by_cases same : j = i
  · subst same
    simpa using new
  · simpa [Function.update_of_ne same] using dead j

/-- Every section is run by a task of its kind, and fits the runtime state. -/
structure Orderly (s : Runtime Call) : Prop where
  owns : ∀ owner body, s.lock = some (owner, body) → s.Owns body owner
  fits : ∀ owner body, s.lock = some (owner, body) → body.fits s.window.runtimeState = true
  dead : DeadReceive s.workers
  recreated : ∀ i stage, stage.emptied = true → s.timerTask = .recover i stage → (s.workers i).live = false
  respawned : ∀ owner i stage rest, stage.emptied = true → s.lock = some (owner, .recover i stage rest) →
    (s.workers i).live = false
  ticks : s.window.workState.isActive = true

theorem Orderly.frame {s after : Runtime Call} (orderly : s.Orderly) (lock : after.lock = s.lock)
    (state : after.window.runtimeState = s.window.runtimeState)
    (task : s.owner = some .timerTask → after.timerTask = s.timerTask)
    (workers : ∀ i, s.owner = some (.worker i) →
      (after.workers i).runnable = (s.workers i).runnable ∧ (after.workers i).pc = (s.workers i).pc)
    (dead : DeadReceive after.workers)
    (recreated : ∀ i stage, stage.emptied = true → after.timerTask = .recover i stage →
      (after.workers i).live = false)
    (respawned : ∀ owner i stage rest, stage.emptied = true → s.lock = some (owner, .recover i stage rest) →
      (after.workers i).live = false)
    (ticks : after.window.workState.isActive = true) : after.Orderly where
  owns := by
    intro owner body held
    rw [lock] at held
    have owns := orderly.owns owner body held
    have isOwner : s.owner = some owner := by rw [Runtime.owner, held]; rfl
    cases owner with
    | client => exact owns
    | deleted => exact owns
    | worker i =>
        obtain ⟨runnable, pc⟩ := workers i isOwner
        simp only [Owns, runnable, pc]
        exact owns
    | timerTask =>
        simp only [Owns, task isOwner]
        exact owns
  fits := by
    intro owner body held
    rw [lock] at held
    rw [state]
    exact orderly.fits owner body held
  dead := dead
  recreated := recreated
  respawned := fun owner i stage rest emptied held => respawned owner i stage rest emptied (lock ▸ held)
  ticks := ticks

theorem Orderly.acquire {s after : Runtime Call} (orderly : s.Orderly) {owner : Owner}
    {body : Section Call} (taken : s.acquire owner body = some after) (owns : s.Owns body owner)
    (fits : body.fits s.window.runtimeState = true)
    (entry : ∀ i stage rest, body ≠ .recover i stage rest) : after.Orderly := by
  obtain ⟨_, rfl⟩ := acquire_eq_some taken
  refine ⟨?_, ?_, orderly.dead, orderly.recreated, ?_, orderly.ticks⟩
  · rintro _ _ ⟨⟩
    cases owner <;> exact owns
  · rintro _ _ ⟨⟩
    exact fits
  · rintro _ i stage rest _ held
    exact absurd (Prod.mk.inj (Option.some.inj held)).2 (entry i stage rest)

section RunSection

variable (s : Runtime Call) (body : Section Call) (created : Bool)

theorem setRuntimeState_timerTask (target : RuntimeState) :
    (s.setRuntimeState target).1.timerTask = s.timerTask := by
  unfold setRuntimeState
  split
  · rfl
  · cases target with
    | uiActive | backgroundActive => dsimp only; split <;> rfl
    | sleep | gracePeriod => rfl

theorem runSection_timerTask : (s.runSection body created).1.timerTask = s.timerTask := by
  cases body with
  | scheduleWork queue item => exact (s.scheduleWork_onlyQueues queue item).timerTask
  | registerHook => simp only [runSection]; split <;> rfl
  | startWork => exact s.setRuntimeState_timerTask _
  | sleep => exact s.setRuntimeState_timerTask _
  | evaluateEarlyCurfew | workWindowExpiry | gracePeriodExpiry | curfewSettlementExpiry =>
      simp only [runSection]
      split <;> rfl
  | hasWork reading =>
      cases reading with
      | active => simp only [runSection]; split <;> rfl
      | system | user => rfl
  | idle asking =>
      cases asking with
      | evaluate => exact s.armSettlement_onlyWindow.timerTask
      | settlement => simp only [runSection]; split <;> rfl
      | curfew => rfl
  | busy asking => cases asking <;> rfl
  | submitHooks rest =>
      cases rest with
      | nil => rfl
      | cons hook rest => exact (s.submitHook_onlyQueues hook).timerTask
  | drainPending queue =>
      simp only [runSection]
      cases drained : s.drainPendingQueue queue with
      | none => rfl
      | some after => exact (drainPendingQueue_onlyQueues drained).timerTask
  | forceAbort rest =>
      cases rest with
      | nil => rfl
      | cons i rest => rfl
  | recover i stage rest =>
      cases stage with
      | stop | exchange => simp only [runSection]; split <;> rfl
      | delete => exact (s.deleteWorker_onlyWorkers i).timerTask
      | subtract | create | clearAbort | clearWorking | park => rfl
  | getState | unregisterHook | resetSettlementTimer | suspendAll | done => rfl

theorem runSection_workers
    (kind : body.isRequest = true ∨ body.isReset = true ∨ body.isEvaluation = true) :
    (s.runSection body created).1.workers = s.workers := by
  cases body with
  | scheduleWork queue item => exact (s.scheduleWork_onlyQueues queue item).workers
  | registerHook => simp only [runSection]; split <;> rfl
  | evaluateEarlyCurfew => simp only [runSection]; split <;> rfl
  | hasWork reading =>
      cases reading with
      | active => simp only [runSection]; split <;> rfl
      | system | user => rfl
  | idle asking =>
      cases asking with
      | evaluate => exact s.armSettlement_onlyWindow.workers
      | settlement => simp only [runSection]; split <;> rfl
      | curfew => rfl
  | busy asking => cases asking <;> rfl
  | getState | unregisterHook | resetSettlementTimer | done => rfl
  | _ => simp [Section.isRequest, Section.isReset, Section.isEvaluation] at kind

theorem runSection_request (request : body.isRequest = true) :
    (s.runSection body created).2 = .done := by
  cases body with
  | registerHook => simp only [runSection]; split <;> rfl
  | scheduleWork | getState | unregisterHook | done => rfl
  | _ => simp [Section.isRequest] at request

theorem runSection_reset (reset : body.isReset = true) : (s.runSection body created).2 = .done := by
  cases body with
  | resetSettlementTimer | done => rfl
  | _ => simp [Section.isReset] at reset

theorem runSection_evaluation (evaluation : body.isEvaluation = true) :
    (s.runSection body created).2.isEvaluation = true := by
  cases body with
  | evaluateEarlyCurfew => simp only [runSection]; split <;> rfl
  | hasWork reading asking =>
      cases asking with
      | evaluate =>
          cases reading with
          | active | system | user => simp only [runSection]; split <;> rfl
      | settlement | curfew => simp [Section.isEvaluation] at evaluation
  | idle asking =>
      cases asking with
      | evaluate => rfl
      | settlement | curfew => simp [Section.isEvaluation] at evaluation
  | busy asking =>
      cases asking with
      | evaluate => rfl
      | settlement | curfew => simp [Section.isEvaluation] at evaluation
  | done => rfl
  | _ => simp [Section.isEvaluation] at evaluation

theorem setRuntimeState_start {target : RuntimeState} (active : target.isActive = true) :
    (s.setRuntimeState target).2 = .done ∨ (s.setRuntimeState target).2 = .evaluateEarlyCurfew := by
  unfold setRuntimeState
  split
  · exact .inl rfl
  · cases target with
    | uiActive | backgroundActive =>
        dsimp only
        split
        · exact .inr rfl
        · exact .inl rfl
    | sleep | gracePeriod => simp [RuntimeState.isActive] at active

theorem runSection_client (ticks : s.window.workState.isActive = true)
    (client : body.isClient = true) : (s.runSection body created).2.isClient = true := by
  by_cases request : body.isRequest = true
  · rw [s.runSection_request body created request]
    rfl
  · by_cases evaluation : body.isEvaluation = true
    · simp [Section.isClient, s.runSection_evaluation body created evaluation]
    · cases body with
      | startWork =>
          rcases s.setRuntimeState_start ticks with rest | rest
          · simp only [runSection, rest]
            rfl
          · simp only [runSection, rest]
            rfl
      | _ => simp [Section.isClient, request, evaluation] at client

theorem runSection_callback (callback : body.isCallback = true) :
    (s.runSection body created).2.isCallback = true := by
  cases body with
  | workWindowExpiry | gracePeriodExpiry | curfewSettlementExpiry =>
      simp only [runSection, runtimeManagerBeginCurfewUnsafe]
      repeat' split
      all_goals rfl
  | hasWork reading asking =>
      cases asking with
      | evaluate => simp [Section.isCallback] at callback
      | settlement | curfew =>
          cases reading with
          | active | system | user => simp only [runSection]; split <;> rfl
  | idle asking =>
      cases asking with
      | evaluate => simp [Section.isCallback] at callback
      | settlement =>
          simp only [runSection, runtimeManagerBeginCurfewUnsafe]
          repeat' split
          all_goals rfl
      | curfew => rfl
  | busy asking =>
      cases asking with
      | evaluate => simp [Section.isCallback] at callback
      | settlement | curfew => rfl
  | submitHooks rest => cases rest <;> rfl
  | sleep => simp only [runSection, setRuntimeState]; split <;> rfl
  | drainPending queue =>
      simp only [runSection]
      cases s.drainPendingQueue queue with
      | none => dsimp only; split <;> rfl
      | some after => rfl
  | forceAbort rest =>
      cases rest with
      | nil => rfl
      | cons i rest => simp only [runSection]; split <;> rfl
  | recover i stage rest =>
      cases stage with
      | exchange => simp only [runSection]; split <;> rfl
      | stop | delete | subtract | create | clearAbort | clearWorking | park => rfl
  | suspendAll | done => rfl
  | _ => simp [Section.isCallback] at callback

theorem begin_fits (active : s.window.runtimeState.isActive = true) :
    s.runtimeManagerBeginCurfewUnsafe.2.fits
      s.runtimeManagerBeginCurfewUnsafe.1.window.runtimeState = true := by
  unfold runtimeManagerBeginCurfewUnsafe
  dsimp only
  split <;> exact active

theorem runSection_fits (ticks : s.window.workState.isActive = true)
    (fits : body.fits s.window.runtimeState = true) :
    (s.runSection body created).2.fits (s.runSection body created).1.window.runtimeState = true := by
  cases body with
  | scheduleWork | getState | unregisterHook | resetSettlementTimer | suspendAll | done => rfl
  | registerHook => simp only [runSection]; split <;> rfl
  | startWork =>
      rcases s.setRuntimeState_start ticks with rest | rest
      · simp only [runSection, rest]
        rfl
      · simp only [runSection, rest]
        rfl
  | evaluateEarlyCurfew | curfewSettlementExpiry =>
      simp only [runSection]
      split
      · rfl
      · simpa [Section.fits]
  | workWindowExpiry =>
      simp only [runSection]
      split
      next active => exact s.begin_fits active
      next => rfl
  | gracePeriodExpiry =>
      simp only [runSection]
      split
      next grace => exact decide_eq_true grace
      next => rfl
  | hasWork reading asking =>
      cases reading <;> cases asking <;> simp only [runSection] <;> split <;> exact fits
  | idle asking =>
      cases asking with
      | evaluate => rfl
      | settlement =>
          simp only [runSection]
          split
          next active => exact s.begin_fits active
          next => exact fits
      | curfew =>
          simp only [runSection, Section.fits] at fits ⊢
          refine decide_eq_true fun asleep => ?_
          rw [asleep] at fits
          cases fits
  | busy asking => cases asking <;> rfl
  | submitHooks rest =>
      cases rest with
      | nil => rfl
      | cons hook rest =>
          simp only [runSection, (s.submitHook_onlyQueues hook).window]
          exact fits
  | sleep =>
      simp only [runSection, setRuntimeState]
      split <;> rfl
  | drainPending queue =>
      simp only [runSection]
      cases drained : s.drainPendingQueue queue with
      | none => dsimp only; split <;> exact fits
      | some after =>
          dsimp only
          rw [(drainPendingQueue_onlyQueues drained).window]
          exact fits
  | forceAbort rest =>
      cases rest with
      | nil => exact fits
      | cons i rest => simp only [runSection]; split <;> exact fits
  | recover i stage rest =>
      cases stage with
      | stop | exchange => simp only [runSection]; split <;> exact fits
      | delete =>
          simp only [runSection, (s.deleteWorker_onlyWorkers i).window]
          exact fits
      | subtract | create | clearAbort | clearWorking | park => exact fits

end RunSection

theorem DeadReceive.deleted {s : Runtime Call} (dead : DeadReceive s.workers) (i : WorkerId) :
    DeadReceive (s.deleteWorker i).workers := by
  unfold deleteWorker
  dsimp only
  split
  · exact dead.update i fun _ => rfl
  · exact dead

theorem setRuntimeState_dead {s : Runtime Call} (dead : DeadReceive s.workers) (target : RuntimeState) :
    DeadReceive (s.setRuntimeState target).1.workers := by
  unfold setRuntimeState
  split
  · exact dead
  · cases target with
    | uiActive | backgroundActive => dsimp only; split <;> exact dead
    | sleep | gracePeriod => exact dead

theorem runSection_dead {s : Runtime Call} (body : Section Call) (created : Bool)
    (dead : DeadReceive s.workers) : DeadReceive (s.runSection body created).1.workers := by
  by_cases kind : body.isRequest = true ∨ body.isReset = true ∨ body.isEvaluation = true
  · rw [s.runSection_workers body created kind]
    exact dead
  · cases body with
    | startWork => exact setRuntimeState_dead dead _
    | sleep => exact setRuntimeState_dead dead _
    | workWindowExpiry | gracePeriodExpiry | curfewSettlementExpiry =>
        simp only [runSection]
        split <;> exact dead
    | hasWork reading asking =>
        cases reading with
        | active => simp only [runSection]; split <;> exact dead
        | system | user => exact dead
    | idle asking =>
        cases asking with
        | evaluate => simp [Section.isEvaluation] at kind
        | settlement => simp only [runSection]; split <;> exact dead
        | curfew => exact dead
    | busy asking => cases asking <;> exact dead
    | submitHooks rest =>
        cases rest with
        | nil => exact dead
        | cons hook rest => exact (s.submitHook_onlyQueues hook).workers ▸ dead
    | drainPending queue =>
        simp only [runSection]
        cases drained : s.drainPendingQueue queue with
        | none => exact dead
        | some after => exact (drainPendingQueue_onlyQueues drained).workers ▸ dead
    | forceAbort rest =>
        cases rest with
        | nil => exact dead
        | cons i rest => exact dead
    | recover i stage rest =>
        cases stage with
        | stop | exchange =>
            simp only [runSection]
            split
            · exact dead.update i (dead i)
            · exact dead
        | delete => exact dead.deleted i
        | subtract => exact dead
        | create => exact dead.update i fun _ => rfl
        | clearAbort | clearWorking | park => exact dead.update i (dead i)
    | suspendAll => exact dead
    | _ => simp [Section.isRequest, Section.isReset, Section.isEvaluation] at kind

theorem setRuntimeState_workState (s : Runtime Call) (target : RuntimeState) :
    (s.setRuntimeState target).1.window.workState = s.window.workState := by
  unfold setRuntimeState
  split
  · rfl
  · cases target with
    | uiActive | backgroundActive => dsimp only; split <;> rfl
    | sleep | gracePeriod => rfl

theorem armSettlement_workState (s : Runtime Call) :
    s.armSettlement.window.workState = s.window.workState := by
  unfold armSettlement
  dsimp only
  split
  · rfl
  · split <;> rfl

theorem runSection_workState (s : Runtime Call) (body : Section Call) (created : Bool) :
    (s.runSection body created).1.window.workState = s.window.workState := by
  cases body with
  | scheduleWork queue item => exact congrArg _ (s.scheduleWork_onlyQueues queue item).window
  | startWork => exact s.setRuntimeState_workState _
  | sleep => exact s.setRuntimeState_workState _
  | registerHook | evaluateEarlyCurfew | workWindowExpiry | gracePeriodExpiry
  | curfewSettlementExpiry => simp only [runSection]; split <;> rfl
  | hasWork reading =>
      cases reading with
      | active => simp only [runSection]; split <;> rfl
      | system | user => rfl
  | idle asking =>
      cases asking with
      | evaluate => exact s.armSettlement_workState
      | settlement => simp only [runSection]; split <;> rfl
      | curfew => rfl
  | busy asking => cases asking <;> rfl
  | submitHooks rest =>
      cases rest with
      | nil => rfl
      | cons hook rest => exact congrArg _ (s.submitHook_onlyQueues hook).window
  | drainPending queue =>
      simp only [runSection]
      cases drained : s.drainPendingQueue queue with
      | none => rfl
      | some after => exact congrArg _ (drainPendingQueue_onlyQueues drained).window
  | forceAbort rest =>
      cases rest with
      | nil => rfl
      | cons i rest => rfl
  | recover i stage rest =>
      cases stage with
      | stop | exchange => simp only [runSection]; split <;> rfl
      | delete => exact congrArg _ (s.deleteWorker_onlyWorkers i).window
      | subtract | create | clearAbort | clearWorking | park => rfl
  | getState | unregisterHook | resetSettlementTimer | suspendAll | done => rfl

theorem runSection_client_live {s : Runtime Call} {body : Section Call} (created : Bool)
    (client : body.isClient = true) (i : WorkerId) :
    ((s.runSection body created).1.workers i).live = (s.workers i).live := by
  by_cases request : body.isRequest = true
  · rw [s.runSection_workers body created (.inl request)]
  · by_cases evaluation : body.isEvaluation = true
    · rw [s.runSection_workers body created (.inr (.inr evaluation))]
    · cases body with
      | startWork =>
          simp only [runSection, setRuntimeState]
          split
          · rfl
          · cases s.window.workState <;> dsimp only <;> first | rfl | (split <;> rfl)
      | _ => simp [Section.isClient, request, evaluation] at client

theorem runs_rest {pc : WorkerPc Call} (s : Runtime Call) (body : Section Call) (created : Bool)
    (runs : pc.runs body = true) : pc.runs (s.runSection body created).2 = true := by
  cases pc with
  | counted => exact s.runSection_reset body created runs ▸ rfl
  | evaluate => exact s.runSection_evaluation body created runs
  | handle => exact s.runSection_request body created runs ▸ rfl
  | _ => cases runs

theorem runs_kind {pc : WorkerPc Call} {body : Section Call} (runs : pc.runs body = true) :
    body.isRequest = true ∨ body.isReset = true ∨ body.isEvaluation = true := by
  cases pc with
  | counted => exact .inr (.inl runs)
  | evaluate => exact .inr (.inr runs)
  | handle => exact .inl runs
  | _ => cases runs

theorem setRuntimeState_rest (s : Runtime Call) (target : RuntimeState) :
    (s.setRuntimeState target).2 = .done ∨ (s.setRuntimeState target).2 = .evaluateEarlyCurfew ∨
      (s.setRuntimeState target).2 = .drainPending .user := by
  unfold setRuntimeState
  split
  · exact .inl rfl
  · cases target with
    | uiActive | backgroundActive =>
        dsimp only
        split
        · exact .inr (.inl rfl)
        · exact .inl rfl
    | sleep => exact .inr (.inr rfl)
    | gracePeriod => exact .inl rfl

theorem runSection_respawn {s : Runtime Call} {body : Section Call} {created : Bool} {i : WorkerId}
    {stage : Recovery} {rest : List WorkerId} (emptied : stage.emptied = true)
    (next : (s.runSection body created).2 = .recover i stage rest) :
    body = .recover i .delete rest ∨ body = .recover i .subtract rest := by
  cases body with
  | recover j other others =>
      cases other with
      | exchange =>
          simp only [runSection] at next
          split at next
          next =>
            cases next
            cases emptied
          next => cases next
      | delete =>
          cases next
          exact .inl rfl
      | subtract =>
          cases next
          exact .inr rfl
      | stop | create | clearAbort | clearWorking =>
          cases next
          cases emptied
      | park => cases next
  | startWork | sleep =>
      simp only [runSection] at next
      rcases setRuntimeState_rest s _ with rest | rest | rest <;> rw [rest] at next <;> cases next
  | workWindowExpiry =>
      simp only [runSection, runtimeManagerBeginCurfewUnsafe] at next
      split at next
      · dsimp only at next
        split at next <;> cases next
      · cases next
  | hasWork reading =>
      cases reading <;> simp only [runSection] at next <;> split at next <;> cases next
  | idle asking =>
      cases asking with
      | evaluate | curfew => cases next
      | settlement =>
          simp only [runSection, runtimeManagerBeginCurfewUnsafe] at next
          split at next
          · dsimp only at next
            split at next <;> cases next
          · cases next
  | busy asking => cases asking <;> cases next
  | submitHooks rest => cases rest <;> cases next
  | drainPending queue =>
      simp only [runSection] at next
      cases drained : s.drainPendingQueue queue with
      | none =>
          rw [drained] at next
          dsimp only at next
          split at next <;> cases next
      | some after =>
          rw [drained] at next
          cases next
  | forceAbort rest =>
      cases rest with
      | nil => cases next
      | cons j rest =>
          simp only [runSection] at next
          split at next
          next =>
            cases next
            cases emptied
          next => cases next
  | registerHook | evaluateEarlyCurfew | gracePeriodExpiry | curfewSettlementExpiry =>
      simp only [runSection] at next
      split at next <;> cases next
  | scheduleWork | getState | unregisterHook | resetSettlementTimer | suspendAll | done => cases next

theorem Orderly.section {s : Runtime Call} (orderly : s.Orderly) {owner : Owner}
    {body : Section Call} (created : Bool) (held : s.lock = some (owner, body))
    (canRun : s.canRun owner = true) :
    Orderly { (s.runSection body created).1 with lock := some (owner, (s.runSection body created).2) } where
  owns := by
    rintro _ _ ⟨⟩
    have owns := orderly.owns owner body held
    cases owner with
    | client => exact s.runSection_client body created orderly.ticks owns
    | worker i =>
        obtain ⟨runnable, runs⟩ := owns
        have workers := s.runSection_workers body created (runs_kind runs)
        simp only [Owns, workers]
        exact ⟨runnable, runs_rest s body created runs⟩
    | timerTask =>
        obtain ⟨callback, task⟩ := owns
        simp only [Owns, s.runSection_timerTask body created]
        exact ⟨s.runSection_callback body created callback, task⟩
    | deleted => cases canRun
  fits := by
    rintro _ _ ⟨⟩
    exact s.runSection_fits body created orderly.ticks (orderly.fits owner body held)
  dead := runSection_dead body created orderly.dead
  recreated := by
    intro i stage emptied recreating
    have owns := orderly.owns owner body held
    rw [s.runSection_timerTask body created] at recreating
    cases owner with
    | client =>
        rw [runSection_client_live created owns]
        exact orderly.recreated i stage emptied recreating
    | worker j =>
        rw [s.runSection_workers body created (runs_kind owns.2)]
        exact orderly.recreated i stage emptied recreating
    | timerTask =>
        have task := owns.2
        rw [recreating] at task
        cases task
    | deleted => cases canRun
  respawned := by
    intro _ i stage rest emptied next
    obtain rfl | rfl := runSection_respawn emptied (Prod.mk.inj (Option.some.inj next)).2
    next =>
      refine (s.deleteWorker_dead i fun pc => ?_).1
      by_contra gone
      exact pc (orderly.dead i (by simpa using gone))
    next => exact orderly.respawned owner i .subtract rest rfl held
  ticks := by
    rw [s.runSection_workState body created]
    exact orderly.ticks

theorem update_live {workers : WorkerId → Worker Call} {i : WorkerId} {worker : Worker Call}
    (live : worker.live = (workers i).live) (j : WorkerId) :
    (Function.update workers i worker j).live = (workers j).live := by
  by_cases same : j = i
  · subst same
    simpa using live
  · rw [Function.update_of_ne same]

theorem Orderly.release {s : Runtime Call} (orderly : s.Orderly) (owner : Owner) :
    (s.release owner).Orderly := by
  have free : ∀ {after : Runtime Call}, after.lock = none → DeadReceive after.workers →
      (∀ i stage, stage.emptied = true → after.timerTask = .recover i stage → (after.workers i).live = false) →
      after.window = s.window → after.Orderly := by
    intro after none dead recreated window
    refine ⟨?_, ?_, dead, recreated, ?_, window ▸ orderly.ticks⟩
    all_goals
      intros
      simp_all
  unfold Runtime.release
  cases owner with
  | client | deleted => exact free rfl orderly.dead orderly.recreated rfl
  | timerTask => exact free rfl orderly.dead (fun _ _ _ idle => nomatch idle) rfl
  | worker i =>
      cases pc : (s.workers i).pc with
      | counted work =>
          have alive := mt (orderly.dead i) (by simp [pc])
          simp only [pc]
          refine free rfl (orderly.dead.update i fun dead => absurd dead alive) ?_ rfl
          intro j stage emptied recreating
          exact Eq.trans (update_live (by rfl) j) (orderly.recreated j stage emptied recreating)
      | evaluate =>
          simp only [pc]
          refine free rfl (orderly.dead.update i fun _ => rfl) ?_ rfl
          intro j stage emptied recreating
          exact Eq.trans (update_live (by rfl) j) (orderly.recreated j stage emptied recreating)
      | _ =>
          simp only [pc]
          exact free rfl orderly.dead orderly.recreated rfl

theorem Orderly.advance {s after : Runtime Call} {created : Bool} (orderly : s.Orderly)
    (taken : s.advance created = some after) : after.Orderly := by
  obtain ⟨owner, body, held, canRun, ⟨_, rfl⟩ | ⟨_, rfl⟩⟩ := advance_cases taken
  · exact orderly.release owner
  · exact orderly.section created held canRun

theorem Orderly.moves {s after : Runtime Call} {i : WorkerId} (orderly : s.Orderly)
    (runs : s.workerRuns i = true) (moves : WorkerMoves s i after) : after.Orderly := by
  simp only [workerRuns, Worker.runnable, Bool.and_eq_true, decide_eq_true_eq] at runs
  obtain ⟨⟨live, _⟩, notOwner⟩ := runs
  refine orderly.frame moves.lock (congrArg _ moves.window) (fun _ => moves.timerTask) ?_ ?_ ?_ ?_ ?_
  · intro j isOwner
    have other : j ≠ i := by
      rintro rfl
      exact notOwner isOwner
    rw [moves.others other]
    exact ⟨rfl, rfl⟩
  · intro j dead
    rw [moves.live] at dead
    have other : j ≠ i := by
      rintro rfl
      rw [live] at dead
      cases dead
    rw [moves.others other]
    exact orderly.dead j dead
  · intro j stage emptied recreating
    rw [moves.live]
    exact orderly.recreated j stage emptied (moves.timerTask ▸ recreating)
  · intro owner j stage rest emptied held
    rw [moves.live]
    exact orderly.respawned owner j stage rest emptied held
  · rw [moves.window]
    exact orderly.ticks

theorem Orderly.worker {s after : Runtime Call} {i : WorkerId} (orderly : s.Orderly)
    (runs : s.workerRuns i = true) (taken : s.poolWorkerEntry i = some after) : after.Orderly := by
  have runnable : (s.workers i).runnable = true := by
    simp only [workerRuns, Bool.and_eq_true] at runs
    exact runs.1
  rcases (workerStep_of_entry taken).lock_or_moves with ⟨work, pc, acquired⟩ | ⟨pc, acquired⟩ | moves
  · exact orderly.acquire acquired ⟨runnable, by rw [pc]; rfl⟩ rfl nofun
  · exact orderly.acquire acquired ⟨runnable, by rw [pc]; rfl⟩ rfl nofun
  · exact orderly.moves runs moves

theorem Orderly.timedOut {s : Runtime Call} (orderly : s.Orderly) (request : Request Call) :
    (s.timedOut request).Orderly := by
  cases request <;> exact ⟨orderly.owns, orderly.fits, orderly.dead, orderly.recreated, orderly.respawned, orderly.ticks⟩

theorem Request.body_isRequest (request : Request Call) : request.body.isRequest = true := by
  cases request <;> rfl

theorem Request.body_fits (request : Request Call) (state : RuntimeState) :
    request.body.fits state = true := by
  cases request <;> rfl

theorem Request.body_entry (request : Request Call) (i : WorkerId) (stage : Recovery) (rest : List WorkerId) :
    request.body ≠ .recover i stage rest := by
  cases request <;> nofun

theorem Orderly.request {s after : Runtime Call} (orderly : s.Orderly) (request : Request Call)
    (taken : s.acquire .client request.body = some after) : after.Orderly := by
  refine orderly.acquire taken ?_ (Request.body_fits request _) (Request.body_entry request)
  simp [Owns, Section.isClient, Request.body_isRequest]

theorem Orderly.call {s after : Runtime Call} {i : WorkerId} (orderly : s.Orderly)
    (request : Request Call) {work : Work Call} {awake : Bool}
    (runs : s.workerRuns i = true) (pc : (s.workers i).pc = .handle work awake)
    (taken : s.acquire (.worker i) request.body = some after) : after.Orderly := by
  simp only [workerRuns, Bool.and_eq_true] at runs
  refine orderly.acquire taken ⟨runs.1, ?_⟩ (Request.body_fits request _) (Request.body_entry request)
  rw [pc]
  exact Request.body_isRequest request

theorem Orderly.not_timer {s : Runtime Call} (orderly : s.Orderly)
    (task : s.timerTask.isCallback = false) : s.owner ≠ some .timerTask := by
  intro isOwner
  obtain ⟨⟨owner, body⟩, held, rfl⟩ := Option.map_eq_some_iff.mp isOwner
  have owns := (orderly.owns _ _ held).2
  rw [task] at owns
  cases owns

theorem Orderly.registry {s after : Runtime Call} {i : WorkerId} {worker : Worker Call}
    (orderly : s.Orderly) (workers : after.workers = Function.update s.workers i worker)
    (live : worker.live = (s.workers i).live) (suspended : worker.suspended = (s.workers i).suspended)
    (pc : worker.pc = (s.workers i).pc) (lock : after.lock = s.lock) (window : after.window = s.window)
    (idle : s.timerTask.isCallback = false)
    (fresh : ∀ j stage, stage.emptied = true → after.timerTask ≠ .recover j stage) : after.Orderly := by
  refine orderly.frame lock (congrArg _ window) (fun isOwner => absurd isOwner (orderly.not_timer idle))
    ?_ ?_ (fun j stage emptied recreating => absurd recreating (fresh j stage emptied)) ?_ (window ▸ orderly.ticks)
  · intro j _
    rw [workers]
    by_cases same : j = i
    · subst same
      simp [Worker.runnable, live, suspended, pc]
    · rw [Function.update_of_ne same]
      exact ⟨rfl, rfl⟩
  · rw [workers]
    exact orderly.dead.update i fun dead => pc.trans (orderly.dead i (live ▸ dead))
  · intro owner j stage rest emptied held
    rw [workers, update_live live]
    exact orderly.respawned owner j stage rest emptied held

theorem runs_not_callback {pc : WorkerPc Call} {body : Section Call} (runs : pc.runs body = true) :
    body.isCallback = false ∨ body = .done := by
  rcases runs_kind runs with kind | kind | kind
  · cases body <;> first | exact .inr rfl | exact .inl rfl | cases kind
  · cases body <;> first | exact .inr rfl | exact .inl rfl | cases kind
  · cases body with
    | hasWork reading asking => cases asking <;> first | exact .inl rfl | cases kind
    | idle asking => cases asking <;> first | exact .inl rfl | cases kind
    | busy asking => cases asking <;> first | exact .inl rfl | cases kind
    | evaluateEarlyCurfew => exact .inl rfl
    | done => exact .inr rfl
    | _ => cases kind

theorem client_not_callback {body : Section Call} (client : body.isClient = true) :
    body.isCallback = false ∨ body = .done := by
  cases body with
  | hasWork reading asking => cases asking <;> first | exact .inl rfl | cases client
  | idle asking => cases asking <;> first | exact .inl rfl | cases client
  | busy asking => cases asking <;> first | exact .inl rfl | cases client
  | _ => first | exact .inl rfl | exact .inr rfl | cases client

theorem Orderly.timer_of_callback {s : Runtime Call} (orderly : s.Orderly) {owner : Owner}
    {body : Section Call} (held : s.lock = some (owner, body)) (callback : body.isCallback = true)
    (unfinished : body ≠ .done) : owner = .timerTask := by
  have owns := orderly.owns owner body held
  by_contra other
  have outside : body.isCallback = false ∨ body = .done := by
    cases owner with
    | timerTask => exact absurd rfl other
    | client => exact client_not_callback owns
    | worker i => exact runs_not_callback owns.2
    | deleted => exact owns
  rcases outside with outside | finished
  · rw [callback] at outside
    cases outside
  · exact unfinished finished

theorem Orderly.no_recovery {s : Runtime Call} (orderly : s.Orderly)
    (task : s.timerTask.isCallback = false) (owner : Owner) (i : WorkerId) (stage : Recovery)
    (rest : List WorkerId) : s.lock ≠ some (owner, .recover i stage rest) := by
  -- only one recovery runs at a time: the timer task is in no section while it recovers a worker
  intro held
  obtain rfl := orderly.timer_of_callback held rfl (by simp)
  exact orderly.not_timer task (by rw [Runtime.owner, held]; rfl)

theorem Orderly.deleted {s : Runtime Call} {i : WorkerId} (orderly : s.Orderly)
    (task : s.timerTask = .recover i .delete) :
    Orderly { s.deleteWorker i with timerTask := .recover i (afterDelete (s.workers i)) } := by
  have notTimer := orderly.not_timer (by rw [task]; rfl)
  have kept := s.deleteWorker_onlyWorkers i
  refine ⟨?_, ?_, orderly.dead.deleted i, ?_, ?_, kept.window ▸ orderly.ticks⟩
  · intro owner body held
    obtain ⟨before, was, ⟨rfl, rfl⟩ | ⟨rfl, gone⟩⟩ := s.deleteWorker_lock i held
    · exact runs_not_callback (orderly.owns _ _ was).2
    · have owns := orderly.owns _ _ was
      cases owner with
      | client | deleted => exact owns
      | timerTask => exact absurd (by rw [Runtime.owner, was]; rfl) notTimer
      | worker j =>
          have apart : j ≠ i := by
            rintro rfl
            have runnable := owns.1
            simp [Worker.runnable, gone rfl] at runnable
          simp only [Owns, s.deleteWorker_others i apart]
          exact owns
  · intro owner body held
    obtain ⟨before, was, _⟩ := s.deleteWorker_lock i held
    rw [kept.window]
    exact orderly.fits _ _ was
  · rintro j _ _ ⟨⟩
    refine (s.deleteWorker_dead i fun pc => ?_).1
    by_contra gone
    exact pc (orderly.dead i (by simpa using gone))
  · intro owner j stage rest _ held
    obtain ⟨before, was, _⟩ := s.deleteWorker_lock i held
    exact absurd was (orderly.no_recovery (by rw [task]; rfl) before j stage rest)

theorem Orderly.created {s : Runtime Call} {i : WorkerId} (orderly : s.Orderly) (created : Bool)
    (task : s.timerTask = .recover i .create) :
    Orderly { s.createWorker i created with timerTask := .recover i .clearAbort } := by
  have notTimer := orderly.not_timer (by rw [task]; rfl)
  refine orderly.frame rfl rfl (fun isOwner => absurd isOwner notTimer) ?_
    (orderly.dead.update i fun _ => rfl) (fun _ _ emptied next => by cases next; cases emptied)
    (fun owner j stage rest _ held => absurd held (orderly.no_recovery (by rw [task]; rfl) owner j stage rest))
    orderly.ticks
  intro j isOwner
  have apart : j ≠ i := by
    rintro rfl
    obtain ⟨⟨_, body⟩, held, rfl⟩ := Option.map_eq_some_iff.mp isOwner
    have runnable := (orderly.owns _ _ held).1
    simp [Worker.runnable, orderly.recreated j .create rfl task] at runnable
  simp [createWorker, setWorker, Function.update_of_ne apart]

theorem Orderly.timer {s after : Runtime Call} {created : Bool} (orderly : s.Orderly)
    (taken : s.runTimerTask created = some after) (notTimer : s.owner ≠ some .timerTask) :
    after.Orderly := by
  unfold runTimerTask at taken
  cases task : s.timerTask with
  | idle => simp [task] at taken
  | window | grace | settlement =>
      simp only [task] at taken
      exact orderly.acquire taken ⟨rfl, by rw [task]; rfl⟩ rfl nofun
  | soft i =>
      simp only [task, Option.some.injEq] at taken
      subst taken
      exact orderly.registry rfl rfl rfl rfl rfl rfl (by rw [task]; rfl) fun _ _ _ idle => nomatch idle
  | hard i =>
      simp only [task, Option.some.injEq] at taken
      subst taken
      exact orderly.registry rfl rfl rfl rfl rfl rfl (by rw [task]; rfl) fun _ _ emptied next => by
        cases next
        cases emptied
  | recover i stage =>
      cases stage with
      | exchange =>
          simp only [task] at taken
          split at taken
          next =>
            cases taken
            exact orderly.registry rfl rfl rfl rfl rfl rfl (by rw [task]; rfl) fun _ _ emptied next => by
              cases next
              cases emptied
          next =>
            cases taken
            exact orderly.frame rfl rfl (fun isOwner => absurd isOwner notTimer) (fun _ _ => ⟨rfl, rfl⟩)
              orderly.dead (fun _ _ _ idle => nomatch idle) orderly.respawned orderly.ticks
      | delete =>
          simp only [task, Option.some.injEq] at taken
          subst taken
          exact orderly.deleted task
      | subtract =>
          simp only [task, Option.some.injEq] at taken
          subst taken
          exact orderly.frame rfl rfl (fun isOwner => absurd isOwner notTimer) (fun _ _ => ⟨rfl, rfl⟩)
            orderly.dead (fun j _ _ next => by cases next; exact orderly.recreated i .subtract rfl task)
            orderly.respawned orderly.ticks
      | create =>
          simp only [task, Option.some.injEq] at taken
          subst taken
          exact orderly.created created task
      | clearAbort | clearWorking =>
          simp only [task, Option.some.injEq] at taken
          subst taken
          refine orderly.registry rfl rfl rfl rfl rfl rfl (by rw [task]; rfl) fun _ _ emptied next => ?_
          cases next
          all_goals cases emptied
      | stop | park => simp [task] at taken

theorem Orderly.fire {s after : Runtime Call} {timer : TimerId} (orderly : s.Orderly)
    (taken : s.fire timer = some after) : after.Orderly := by
  unfold Runtime.fire at taken
  split at taken
  next idle =>
    have callback : s.timerTask.isCallback = false := by rw [idle]; rfl
    have notTimer := orderly.not_timer callback
    cases timer with
    | window | grace | settlement =>
        simp only [Option.ite_none_right_eq_some, Option.some.injEq] at taken
        obtain ⟨_, rfl⟩ := taken
        exact orderly.frame rfl rfl (fun isOwner => absurd isOwner notTimer) (fun _ _ => ⟨rfl, rfl⟩)
          orderly.dead (fun _ _ _ next => nomatch next) orderly.respawned orderly.ticks
    | soft i | hard i =>
        simp only [Option.ite_none_right_eq_some, Option.some.injEq] at taken
        obtain ⟨_, rfl⟩ := taken
        exact orderly.registry rfl rfl rfl rfl rfl rfl callback fun _ _ _ next => nomatch next
  next => cases taken

theorem Orderly.workerTimeout {s : Runtime Call} {i : WorkerId} {pc : WorkerPc Call}
    (orderly : s.Orderly) (runs : s.workerRuns i = true) :
    (s.setWorker i { s.workers i with pc := pc }).Orderly :=
  orderly.moves runs ⟨⟨_, rfl, rfl, rfl⟩, rfl, rfl, rfl, rfl, rfl⟩

theorem Orderly.step {s after : Runtime Call} {action : Action Call} (orderly : s.Orderly)
    (taken : s.step action = some after) : after.Orderly := by
  cases action with
  | request request =>
      simp only [Runtime.step, Option.ite_none_right_eq_some] at taken
      exact orderly.request request taken.2
  | requestTimeout request =>
      simp only [Runtime.step, Option.ite_none_right_eq_some, Option.some.injEq] at taken
      obtain ⟨_, rfl⟩ := taken
      exact orderly.timedOut request
  | workTick => exact orderly.acquire taken rfl rfl nofun
  | setActiveState uiActive =>
      cases taken
      exact ⟨orderly.owns, orderly.fits, orderly.dead, orderly.recreated,
        orderly.respawned, by cases uiActive <;> rfl⟩
  | elapse us =>
      cases taken
      exact ⟨orderly.owns, orderly.fits, orderly.dead, orderly.recreated, orderly.respawned, orderly.ticks⟩
  | worker i =>
      simp only [Runtime.step, Option.ite_none_right_eq_some] at taken
      exact orderly.worker taken.1 taken.2
  | workerTimeout i =>
      simp only [Runtime.step, Option.ite_none_right_eq_some, Bool.and_eq_true] at taken
      obtain ⟨⟨runs, _⟩, moved⟩ := taken
      cases pc : (s.workers i).pc with
      | counted | evaluate =>
          simp only [pc, Option.some.injEq] at moved
          subst moved
          exact orderly.workerTimeout runs
      | _ => simp [pc] at moved
  | call i request =>
      simp only [Runtime.step] at taken
      cases pc : (s.workers i).pc with
      | handle work awake =>
          simp only [pc, Option.ite_none_right_eq_some, Bool.and_eq_true] at taken
          exact orderly.call request taken.1.1 pc taken.2
      | _ => simp [pc] at taken
  | callTimeout i request =>
      simp only [Runtime.step] at taken
      cases pc : (s.workers i).pc with
      | handle work awake =>
          simp only [pc, Option.ite_none_right_eq_some, Option.some.injEq] at taken
          obtain ⟨_, rfl⟩ := taken
          exact orderly.timedOut request
      | _ => simp [pc] at taken
  | fire timer => exact orderly.fire taken
  | timerTask created =>
      simp only [Runtime.step] at taken
      split at taken
      next => cases taken
      next notTimer => exact orderly.timer taken notTimer
  | timerTimeout =>
      simp only [Runtime.step, Option.ite_none_right_eq_some] at taken
      obtain ⟨contended, idled⟩ := taken
      have notTimer : s.owner ≠ some .timerTask := by
        simp only [Runtime.contended, Bool.and_eq_true, decide_eq_true_eq] at contended
        exact contended.2
      cases task : s.timerTask with
      | window | grace | settlement =>
          simp only [task, Option.some.injEq] at idled
          subst idled
          exact orderly.frame rfl rfl (fun isOwner => absurd isOwner notTimer) (fun _ _ => ⟨rfl, rfl⟩)
            orderly.dead (fun _ _ _ idle => nomatch idle) orderly.respawned orderly.ticks
      | _ => simp [task] at idled
  | advance created => exact orderly.advance taken

theorem Initial.orderly {s : Runtime Call} (initial : s.Initial) : s.Orderly where
  owns := by
    intro _ _ held
    rw [initial.lock] at held
    cases held
  fits := by
    intro _ _ held
    rw [initial.lock] at held
    cases held
  dead := by
    intro i _
    obtain ⟨live, worker⟩ := initial.workers i
    rw [worker]
  recreated := by
    intro i _ _ task
    rw [initial.timerTask] at task
    cases task
  respawned := by
    intro _ _ _ _ _ held
    rw [initial.lock] at held
    cases held
  ticks := by
    rw [initial.window]
    rfl

theorem orderly_of_reach {guard : Runtime Call → Action Call → Prop} {s : Runtime Call}
    (reached : Reach step Initial guard s) : s.Orderly :=
  reached.invariant (fun _ => Initial.orderly) fun _ _ _ orderly _ taken => orderly.step taken

end Runtime

end WatchFirmware.RuntimeManager
