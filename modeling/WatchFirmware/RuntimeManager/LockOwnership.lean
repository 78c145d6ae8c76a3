import WatchFirmware.RuntimeManager.LockSections

set_option autoImplicit false

namespace WatchFirmware.RuntimeManager

open Transition

variable {Call : Type}

def WorkerPc.locks : WorkerPc Call → Bool
  | counted _ | evaluate => true
  | receive | received _ | prepare _ | launch _ | handle _ _ | handled _ | stopping _ | leaving => false

namespace Runtime

def Locks (s : Runtime Call) (action : Action Call) (i : WorkerId) : Prop :=
  (action = .worker i ∧ (s.workers i).pc.locks = true) ∨ ∃ request, action = .call i request

inductive LockStep (s : Runtime Call) : Action Call → Runtime Call → Prop where
  | kept (action : Action Call) (after : Runtime Call) (lock : after.lock = s.lock) :
      LockStep s action after
  | taken (action : Action Call) (owner : Owner) (body : Section Call) (free : s.lock = none)
      (isTask : owner ≠ .deleted) (locks : ∀ i, owner = .worker i → s.Locks action i) :
      LockStep s action { s with lock := some (owner, body) }
  | released (created : Bool) (owner : Owner) (held : s.lock = some (owner, .done))
      (canRun : s.canRun owner = true) : LockStep s (.advance created) (s.release owner)
  | ran (created : Bool) (owner : Owner) (body : Section Call) (held : s.lock = some (owner, body))
      (unfinished : body ≠ .done) (canRun : s.canRun owner = true) :
      LockStep s (.advance created) { (s.runSection body created).1 with
        lock := some (owner, (s.runSection body created).2) }
  | deleted (created : Bool) (i : WorkerId) (task : s.timerTask = .recover i .delete) :
      LockStep s (.timerTask created)
        { s.deleteWorker i with timerTask := .recover i (afterDelete (s.workers i)) }

theorem lockStep_acquire {s after : Runtime Call} {action : Action Call} {owner : Owner}
    {body : Section Call} (acquired : s.acquire owner body = some after) (isTask : owner ≠ .deleted)
    (locks : ∀ i, owner = .worker i → s.Locks action i) : LockStep s action after := by
  obtain ⟨free, rfl⟩ := acquire_eq_some acquired
  exact .taken action owner body free isTask locks

theorem lockStep_advance {s after : Runtime Call} {created : Bool}
    (taken : s.advance created = some after) : LockStep s (.advance created) after := by
  obtain ⟨owner, body, held, canRun, ⟨rfl, rfl⟩ | ⟨unfinished, rfl⟩⟩ := advance_cases taken
  · exact .released created owner held canRun
  · exact .ran created owner body held unfinished canRun

theorem lockStep_timer {s after : Runtime Call} {created : Bool}
    (taken : s.runTimerTask created = some after) : LockStep s (.timerTask created) after := by
  unfold runTimerTask at taken
  cases task : s.timerTask with
  | idle => simp [task] at taken
  | window | grace | settlement =>
      simp only [task] at taken
      exact lockStep_acquire taken (by simp) (by simp)
  | soft i | hard i =>
      simp only [task, Option.some.injEq] at taken
      subst taken
      exact .kept _ _ rfl
  | recover i stage =>
      cases stage with
      | exchange =>
          simp only [task] at taken
          split at taken <;> cases taken <;> exact .kept _ _ rfl
      | delete =>
          simp only [task, Option.some.injEq] at taken
          subst taken
          exact .deleted created i task
      | subtract | create | clearAbort | clearWorking =>
          simp only [task, Option.some.injEq] at taken
          subst taken
          exact .kept _ _ rfl
      | stop | park => simp [task] at taken

theorem lockStep_fire {s after : Runtime Call} {timer : TimerId} (taken : s.fire timer = some after) :
    LockStep s (.fire timer) after := by
  unfold Runtime.fire at taken
  split at taken
  next =>
    cases timer with
    | window | grace | settlement | soft | hard =>
        simp only [Option.ite_none_right_eq_some, Option.some.injEq] at taken
        obtain ⟨_, rfl⟩ := taken
        exact .kept _ _ rfl
  next => cases taken

theorem lockStep_of_step {s after : Runtime Call} {action : Action Call}
    (taken : s.step action = some after) : LockStep s action after := by
  cases action with
  | request request =>
      simp only [Runtime.step, Option.ite_none_right_eq_some] at taken
      exact lockStep_acquire taken.2 (by simp) (by simp)
  | requestTimeout request =>
      simp only [Runtime.step, Option.ite_none_right_eq_some, Option.some.injEq] at taken
      obtain ⟨_, rfl⟩ := taken
      cases request <;> exact .kept _ _ rfl
  | workTick => exact lockStep_acquire taken (by simp) (by simp)
  | setActiveState | elapse =>
      cases taken
      exact .kept _ _ rfl
  | worker i =>
      simp only [Runtime.step, Option.ite_none_right_eq_some] at taken
      have locks (pc : (s.workers i).pc.locks = true) (j : WorkerId) (same : Owner.worker i = .worker j) :
          s.Locks (.worker i) j := by
        cases same
        exact .inl ⟨rfl, pc⟩
      rcases (workerStep_of_entry taken.2).lock_or_moves with ⟨_, pc, acquired⟩ | ⟨pc, acquired⟩ | moves
      · exact lockStep_acquire acquired (by simp) (locks (by rw [pc]; rfl))
      · exact lockStep_acquire acquired (by simp) (locks (by rw [pc]; rfl))
      · exact .kept _ _ moves.lock
  | workerTimeout i =>
      simp only [Runtime.step, Option.ite_none_right_eq_some] at taken
      obtain ⟨_, moved⟩ := taken
      cases pc : (s.workers i).pc with
      | counted | evaluate =>
          simp only [pc, Option.some.injEq] at moved
          subst moved
          exact .kept _ _ rfl
      | _ => simp [pc] at moved
  | call i request =>
      simp only [Runtime.step] at taken
      cases pc : (s.workers i).pc with
      | handle =>
          simp only [pc, Option.ite_none_right_eq_some] at taken
          refine lockStep_acquire taken.2 (by simp) fun j same => ?_
          cases same
          exact .inr ⟨request, rfl⟩
      | _ => simp [pc] at taken
  | callTimeout i request =>
      simp only [Runtime.step] at taken
      cases pc : (s.workers i).pc with
      | handle =>
          simp only [pc, Option.ite_none_right_eq_some, Option.some.injEq] at taken
          obtain ⟨_, rfl⟩ := taken
          cases request <;> exact .kept _ _ rfl
      | _ => simp [pc] at taken
  | fire timer => exact lockStep_fire taken
  | timerTask created =>
      simp only [Runtime.step] at taken
      split at taken
      next => cases taken
      next => exact lockStep_timer taken
  | timerTimeout =>
      simp only [Runtime.step, Option.ite_none_right_eq_some] at taken
      obtain ⟨_, idled⟩ := taken
      cases task : s.timerTask with
      | window | grace | settlement =>
          simp only [task, Option.some.injEq] at idled
          subst idled
          exact .kept _ _ rfl
      | _ => simp [task] at idled
  | advance created => exact lockStep_advance taken

def backlog (s : Runtime Call) : Nat :=
  (s.pendings .user).length + (s.pendings .system).length + s.window.windowHooks.length

def recoveryLeft : Recovery → Nat
  | .stop => 8
  | .exchange => 7
  | .delete => 6
  | .subtract => 5
  | .create => 4
  | .clearAbort => 3
  | .clearWorking => 2
  | .park => 1

def sectionLeft (s : Runtime Call) : Section Call → Nat
  | .done => 0
  | .scheduleWork _ _ | .getState | .registerHook _ | .unregisterHook _ | .resetSettlementTimer
  | .suspendAll | .idle .evaluate | .busy .evaluate | .busy .settlement => 1
  | .hasWork .user .evaluate => 2
  | .hasWork .system .evaluate => 3
  | .hasWork .active .evaluate => 4
  | .evaluateEarlyCurfew => 5
  | .startWork => 6
  | .submitHooks rest => 1 + rest.length
  | .forceAbort rest => 2 + 9 * rest.length
  | .recover _ stage rest => 2 + 9 * rest.length + recoveryLeft stage
  | .drainPending .system => 57 + s.backlog
  | .drainPending .user => 58 + s.backlog
  | .sleep _ => 59 + s.backlog
  | .gracePeriodExpiry => 60 + s.backlog
  | .idle .curfew | .busy .curfew => 60 + s.backlog
  | .hasWork .user .curfew => 61 + s.backlog
  | .hasWork .system .curfew => 62 + s.backlog
  | .hasWork .active .curfew => 63 + s.backlog
  | .workWindowExpiry | .idle .settlement => 64 + s.backlog
  | .hasWork .user .settlement => 65 + s.backlog
  | .hasWork .system .settlement => 66 + s.backlog
  | .hasWork .active .settlement => 67 + s.backlog
  | .curfewSettlementExpiry => 68 + s.backlog

theorem drain_backlog {s after : Runtime Call} {queue : WorkType}
    (drained : s.drainPendingQueue queue = some after) : after.backlog < s.backlog := by
  obtain ⟨work, rest, list, _, ⟨_, rfl⟩ | ⟨_, rfl⟩⟩ := drainPendingQueue_cases drained <;>
    cases queue <;> simp [backlog, list, Function.update]

theorem begin_left (s : Runtime Call) :
    s.runtimeManagerBeginCurfewUnsafe.1.sectionLeft s.runtimeManagerBeginCurfewUnsafe.2 <
      64 + s.backlog := by
  unfold runtimeManagerBeginCurfewUnsafe
  dsimp only
  split
  · simp [sectionLeft, backlog]
  · simp [sectionLeft, backlog]

theorem runSection_left (s : Runtime Call) (body : Section Call) (created : Bool)
    (ticks : s.window.workState.isActive = true) (unfinished : body ≠ .done) :
    (s.runSection body created).1.sectionLeft (s.runSection body created).2 < s.sectionLeft body := by
  cases body with
  | scheduleWork | getState | unregisterHook | resetSettlementTimer | suspendAll =>
      simp [runSection, sectionLeft]
  | registerHook => simp only [runSection]; split <;> simp [sectionLeft]
  | startWork =>
      rcases s.setRuntimeState_start ticks with rest | rest <;>
        simp [runSection, rest, sectionLeft]
  | evaluateEarlyCurfew =>
      simp only [runSection]
      split <;> simp [sectionLeft]
  | curfewSettlementExpiry =>
      simp only [runSection]
      split
      · exact Nat.add_pos_left (by decide) _
      · simp [sectionLeft]
  | workWindowExpiry =>
      simp only [runSection]
      split
      · exact s.begin_left
      · exact Nat.add_pos_left (by decide) _
  | gracePeriodExpiry =>
      simp only [runSection]
      split
      · simp [sectionLeft, backlog, expireGrace, watchdogForceAllCooperativeAbort]
      · exact Nat.add_pos_left (by decide) _
  | hasWork reading asking =>
      cases reading <;> cases asking <;> simp only [runSection] <;> split <;>
        simp [sectionLeft, backlog] <;> omega
  | idle asking =>
      cases asking with
      | evaluate => simp [runSection, sectionLeft]
      | settlement =>
          simp only [runSection]
          split
          · exact s.begin_left
          · simp [sectionLeft]
      | curfew => simp [runSection, sectionLeft]
  | busy asking =>
      cases asking with
      | evaluate | settlement => simp [runSection, sectionLeft]
      | curfew =>
          simp only [runSection, sectionLeft, backlog]
          omega
  | submitHooks rest =>
      cases rest with
      | nil => simp [runSection, sectionLeft]
      | cons hook rest => simp [runSection, sectionLeft]
  | sleep =>
      simp only [runSection, setRuntimeState]
      split
      · exact Nat.add_pos_left (by decide) _
      · simp [sectionLeft, backlog]
  | drainPending queue =>
      simp only [runSection]
      cases drained : s.drainPendingQueue queue with
      | none =>
          cases queue with
          | user => simp [sectionLeft]
          | system =>
              simp only [reduceCtorEq, if_false, sectionLeft, List.length_finRange, workerPoolSize]
              omega
      | some after =>
          have fewer := drain_backlog drained
          cases queue <;> simp only [sectionLeft] <;> omega
  | forceAbort rest =>
      cases rest with
      | nil => simp [runSection, sectionLeft]
      | cons i rest =>
          simp only [runSection]
          split <;> simp only [sectionLeft, recoveryLeft, List.length_cons] <;> omega
  | recover i stage rest =>
      cases stage with
      | exchange => simp only [runSection]; split <;> simp [sectionLeft, recoveryLeft]
      | delete =>
          simp only [runSection, sectionLeft]
          rcases afterDelete_cases (s.workers i) with gone | gone
          · simp [gone, recoveryLeft]
          · simp [gone, recoveryLeft]
      | stop | subtract | create | clearAbort | clearWorking | park => simp [runSection, sectionLeft, recoveryLeft]
  | done => exact absurd rfl unfinished

/-- `worker_hard_abort_cb` is under way for this worker, and finds its working flag set or has found it so. -/
def dooms (s : Runtime Call) (i : WorkerId) : Bool :=
  match s.timerTask with
  | .hard j | .recover j .exchange => decide (j = i) && (s.workers i).working
  | .recover j .delete => decide (j = i)
  | _ => false

-- The hard timeout does not begin inside a locked section of its worker, and the worker begins no such
-- section, in a call or in its own loop, as long as the callback is on its way to vTaskDelete.
def NoOverlap (s : Runtime Call) : Action Call → Prop
  | .fire (.hard i) => (s.workers i).working = true → s.owner ≠ some (.worker i)
  | .worker i => (s.workers i).pc.locks = true → s.dooms i = false
  | .call i _ => s.dooms i = false
  | _ => True

/-- A worker that is about to be deleted is outside its locked sections. -/
def Apart (s : Runtime Call) : Prop := ∀ i, s.owner = some (.worker i) → s.dooms i = false

section Overlap

variable {s after : Runtime Call} {i : WorkerId}

theorem dooms_same (task : after.timerTask = s.timerTask) (working : (after.workers i).working = (s.workers i).working) :
    after.dooms i = s.dooms i := by
  rw [dooms, dooms, task, working]

theorem acquire_held {owner : Owner} {body : Section Call} (held : s.owner = some (.worker i)) :
    s.acquire owner body = none := by
  obtain ⟨lock, held, _⟩ := Option.map_eq_some_iff.mp held
  rw [Runtime.acquire, held]

theorem timedOut_dooms (s : Runtime Call) (request : Request Call) (i : WorkerId) :
    (s.timedOut request).dooms i = s.dooms i := by
  have only := s.timedOut_onlyQueues request
  exact dooms_same only.timerTask (by rw [only.workers])

theorem dooms_timer {created : Bool} (spared : s.dooms i = false) (held : s.owner = some (.worker i))
    (taken : s.runTimerTask created = some after) : after.dooms i = false := by
  unfold runTimerTask at taken
  cases task : s.timerTask with
  | idle => simp [task] at taken
  | window | grace | settlement => simp [task, acquire_held held] at taken
  | soft j =>
      simp only [task, Option.some.injEq] at taken
      subst taken
      rfl
  | hard j =>
      simp only [task, Option.some.injEq] at taken
      subst taken
      by_cases same : j = i
      · subst same
        simpa [dooms, task, setWorker] using spared
      · simp [dooms, same]
  | recover j stage =>
      cases stage with
      | exchange =>
          simp only [task] at taken
          split at taken
          next working =>
            cases taken
            by_cases same : j = i
            · subst same
              simp [dooms, task, working] at spared
            · simp [dooms, same]
          next =>
            cases taken
            rfl
      | delete =>
          simp only [task, Option.some.injEq] at taken
          subst taken
          rcases afterDelete_cases (s.workers j) with gone | gone
          · simp [dooms, gone]
          · simp [dooms, gone]
      | subtract | create | clearAbort | clearWorking =>
          simp only [task, Option.some.injEq] at taken
          subst taken
          rfl
      | stop | park => simp [task] at taken

theorem dooms_fire {timer : TimerId} (apart : s.NoOverlap (.fire timer)) (held : s.owner = some (.worker i))
    (taken : s.fire timer = some after) : after.dooms i = false := by
  unfold Runtime.fire at taken
  split at taken
  next =>
    cases timer with
    | window | grace | settlement | soft =>
        simp only [Option.ite_none_right_eq_some, Option.some.injEq] at taken
        obtain ⟨_, rfl⟩ := taken
        rfl
    | hard j =>
        simp only [Option.ite_none_right_eq_some, Option.some.injEq] at taken
        obtain ⟨_, rfl⟩ := taken
        by_cases same : j = i
        · subst same
          have idle : (s.workers j).working = false := by
            by_contra working
            exact apart (by simpa using working) held
          simp [dooms, setWorker, idle]
        · simp [dooms, same]
  next => cases taken

theorem Apart.step {action : Action Call} (orderly : s.Orderly) (apart : s.Apart) (allowed : s.NoOverlap action)
    (taken : s.step action = some after) : after.Apart := by
  intro i held
  by_cases before : s.owner = some (.worker i)
  · -- the owner goes on, or another task takes a step that leaves its working flag alone
    have spared := apart i before
    cases action with
    | request | workTick => simp [Runtime.step, acquire_held before] at taken
    | call j request =>
        simp only [Runtime.step] at taken
        split at taken
        next => simp [acquire_held before] at taken
        next => cases taken
    | requestTimeout request =>
        simp only [Runtime.step, Option.ite_none_right_eq_some, Option.some.injEq] at taken
        obtain ⟨_, rfl⟩ := taken
        exact (s.timedOut_dooms request i).trans spared
    | callTimeout j request =>
        simp only [Runtime.step] at taken
        split at taken
        next =>
          simp only [Option.ite_none_right_eq_some, Option.some.injEq] at taken
          obtain ⟨_, rfl⟩ := taken
          exact (s.timedOut_dooms request i).trans spared
        next => cases taken
    | setActiveState | elapse =>
        cases taken
        exact spared
    | worker j =>
        simp only [Runtime.step, Option.ite_none_right_eq_some] at taken
        obtain ⟨runs, entered⟩ := taken
        have other : i ≠ j := by
          rintro rfl
          simp [workerRuns, before] at runs
        rcases (workerStep_of_entry entered).lock_or_moves with ⟨_, _, acquired⟩ | ⟨_, acquired⟩ | moves
        · simp [acquire_held before] at acquired
        · simp [acquire_held before] at acquired
        · exact (dooms_same moves.timerTask (by rw [moves.others other])).trans spared
    | workerTimeout j =>
        simp only [Runtime.step, Option.ite_none_right_eq_some, Bool.and_eq_true] at taken
        obtain ⟨⟨runs, _⟩, moved⟩ := taken
        have other : i ≠ j := by
          rintro rfl
          simp [workerRuns, before] at runs
        have same (pc : WorkerPc Call) : (s.setWorker j { s.workers j with pc := pc }).dooms i = false :=
          (dooms_same (by rfl) (by simp [setWorker, Function.update_of_ne other])).trans spared
        cases pc : (s.workers j).pc with
        | counted | evaluate =>
            simp only [pc, Option.some.injEq] at moved
            subst moved
            exact same _
        | _ => simp [pc] at moved
    | fire timer => exact dooms_fire allowed before taken
    | timerTask created =>
        simp only [Runtime.step] at taken
        split at taken
        next => cases taken
        next => exact dooms_timer spared before taken
    | timerTimeout =>
        simp only [Runtime.step, Option.ite_none_right_eq_some] at taken
        obtain ⟨_, idled⟩ := taken
        cases task : s.timerTask with
        | window | grace | settlement =>
            simp only [task, Option.some.injEq] at idled
            subst idled
            rfl
        | _ => simp [task] at idled
    | advance created =>
        obtain ⟨owner, body, lock, _, ⟨_, rfl⟩ | ⟨_, rfl⟩⟩ := advance_cases taken
        · rw [Runtime.owner, release_lock] at held
          cases held
        · have same : owner = .worker i := by
            rw [Runtime.owner, lock] at before
            exact Option.some.inj before
          subst same
          have workers := s.runSection_workers body created (runs_kind (orderly.owns _ _ lock).2)
          refine (dooms_same ?_ ?_).trans spared
          · exact s.runSection_timerTask body created
          · exact congrArg _ (congrFun workers i)
  · -- the worker has just taken the lock
    cases lockStep_of_step taken with
    | kept _ _ lock => exact absurd (by rw [Runtime.owner, ← lock]; exact held) before
    | released _ owner =>
        rw [Runtime.owner, release_lock] at held
        cases held
    | ran _ owner body lock => exact absurd (by rw [Runtime.owner, lock]; exact held) before
    | deleted _ j task =>
        obtain ⟨⟨owner, body⟩, lock, same⟩ := Option.map_eq_some_iff.mp held
        obtain ⟨earlier, was, ⟨_, rfl⟩ | ⟨rfl, _⟩⟩ := s.deleteWorker_lock j lock
        · cases same
        · exact absurd (by rw [Runtime.owner, was]; exact congrArg some same) before
    | taken _ owner body _ _ locks =>
        have spared : s.dooms i = false := by
          obtain ⟨rfl, pc⟩ | ⟨request, rfl⟩ := locks i (Option.some.inj held)
          · exact allowed pc
          · exact allowed
        exact spared

end Overlap

theorem Initial.apart {s : Runtime Call} (initial : s.Initial) : s.Apart := by
  intro i held
  rw [Runtime.owner, initial.lock] at held
  cases held

theorem apart_of_reach {s : Runtime Call} (reached : Reach step Initial NoOverlap s) : s.Apart := by
  induction reached with
  | start initial => exact initial.apart
  | next before allowed taken apart => exact apart.step (orderly_of_reach before) allowed taken

theorem Apart.spares {s : Runtime Call} (apart : s.Apart) {i : WorkerId} (task : s.timerTask = .recover i .delete) :
    s.owner ≠ some (.worker i) := by
  intro held
  have spared := apart i held
  simp [dooms, task] at spared

theorem Apart.alive_step {s after : Runtime Call} {action : Action Call} (apart : s.Apart)
    (alive : s.owner ≠ some .deleted) (taken : s.step action = some after) : after.owner ≠ some .deleted := by
  cases lockStep_of_step taken with
  | kept _ _ lock =>
      rw [Runtime.owner, lock]
      exact alive
  | taken _ owner body _ isTask => simpa [Runtime.owner] using isTask
  | released _ owner =>
      rw [Runtime.owner, release_lock]
      simp
  | ran _ owner body held _ canRun =>
      have same : s.owner = some owner := by rw [Runtime.owner, held]; rfl
      rw [same] at alive
      exact alive
  | deleted _ i task =>
      intro orphaned
      obtain ⟨⟨owner, body⟩, held, rfl⟩ := Option.map_eq_some_iff.mp orphaned
      obtain ⟨before, was, ⟨rfl, _⟩ | ⟨rfl, _⟩⟩ := s.deleteWorker_lock i held
      · exact apart.spares task (by rw [Runtime.owner, was]; rfl)
      · exact alive (by rw [Runtime.owner, was]; rfl)

theorem alive_of_reach {s : Runtime Call} (reached : Reach step Initial NoOverlap s) :
    s.owner ≠ some .deleted := by
  induction reached with
  | start initial =>
      rw [Runtime.owner, initial.lock]
      simp
  | next before _ taken alive => exact (apart_of_reach before).alive_step alive taken

theorem Orderly.canRun {s : Runtime Call} (orderly : s.Orderly) {owner : Owner} {body : Section Call}
    (held : s.lock = some (owner, body)) (isTask : owner ≠ .deleted) : s.canRun owner = true := by
  cases owner with
  | worker i => exact (orderly.owns _ _ held).1
  | client | timerTask => rfl
  | deleted => exact absurd rfl isTask

theorem advance_run {s : Runtime Call} {owner : Owner} {body : Section Call} (created : Bool)
    (held : s.lock = some (owner, body)) (canRun : s.canRun owner = true) (unfinished : body ≠ .done) :
    s.advance created = some { (s.runSection body created).1 with
      lock := some (owner, (s.runSection body created).2) } := by
  unfold Runtime.advance
  simp only [held, canRun, if_true]

theorem advance_release {s : Runtime Call} {owner : Owner} (created : Bool)
    (held : s.lock = some (owner, .done)) (canRun : s.canRun owner = true) :
    s.advance created = some (s.release owner) := by
  unfold Runtime.advance
  simp only [held, canRun, if_true]

/-- Left alone, the owner gives the lock back. -/
theorem released_by_owner (created : Bool) (left : Nat) {s : Runtime Call} (orderly : s.Orderly)
    {owner : Owner} {body : Section Call} (held : s.lock = some (owner, body))
    (isTask : owner ≠ .deleted) (bound : s.sectionLeft body ≤ left) :
    ∃ count after, run step s (List.replicate count (.advance created)) = some after ∧
      after.lock = none := by
  induction left generalizing s body with
  | zero =>
      by_cases finished : body = .done
      · subst finished
        have taken := advance_release created held (orderly.canRun held isTask)
        refine ⟨1, s.release owner, ?_, release_lock s owner⟩
        simp only [List.replicate_one, run, step, taken, Option.bind_some]
      · have fewer := s.runSection_left body created orderly.ticks finished
        omega
  | succ left ih =>
      by_cases finished : body = .done
      · subst finished
        exact ih orderly held (Nat.zero_le _)
      · have canRun := orderly.canRun held isTask
        have taken := advance_run created held canRun finished
        have fewer := s.runSection_left body created orderly.ticks finished
        obtain ⟨count, after, ran, free⟩ := ih (orderly.advance taken) rfl
          (Nat.le_of_lt_succ (Nat.lt_of_lt_of_le fewer bound))
        refine ⟨count + 1, after, ?_, free⟩
        simp only [List.replicate_succ, run, step, taken, Option.bind_some]
        exact ran

theorem deleteWorker_keeps_lock {s : Runtime Call} {i : WorkerId} (spared : s.owner ≠ some (.worker i)) :
    (s.deleteWorker i).lock = s.lock := by
  unfold deleteWorker
  dsimp only
  split
  next =>
    cases held : s.lock with
    | none => rfl
    | some lock =>
        have other : lock.1 ≠ .worker i := by
          intro same
          exact spared (by rw [Runtime.owner, held, Option.map_some, same])
        simp [other]
  next => rfl

/-- Whoever holds the lock can run, keeps it against all other steps, and gives it back. -/
theorem lock_never_orphaned {s : Runtime Call} (reached : Reach step Initial NoOverlap s)
    {owner : Owner} {body : Section Call} (held : s.lock = some (owner, body)) :
    s.canRun owner = true ∧
      (∀ i, s.timerTask = .recover i .delete → owner ≠ .worker i) ∧
      (∀ i rest, body = .recover i .delete rest → owner = .timerTask) ∧
      (∀ action after, (∀ created, action ≠ .advance created) → s.step action = some after →
        after.lock = s.lock) ∧
      ∃ count after, run step s (List.replicate count (.advance true)) = some after ∧
        after.lock = none := by
  have orderly := orderly_of_reach reached
  have apart := apart_of_reach reached
  have isTask : owner ≠ .deleted := by
    rintro rfl
    exact alive_of_reach reached (by rw [Runtime.owner, held]; rfl)
  refine ⟨orderly.canRun held isTask, ?_, ?_, ?_, released_by_owner true _ orderly held isTask le_rfl⟩
  · rintro i task rfl
    exact apart.spares task (by rw [Runtime.owner, held]; rfl)
  · rintro i rest rfl
    have owns := orderly.owns _ _ held
    cases owner with
    | client => cases owns
    | worker j =>
        rcases runs_kind owns.2 with kind | kind | kind <;> cases kind
    | timerTask => rfl
    | deleted => exact absurd rfl isTask
  · intro action after others taken
    cases lockStep_of_step taken with
    | kept _ _ lock => exact lock
    | taken _ _ _ free =>
        rw [free] at held
        cases held
    | released created => exact absurd rfl (others created)
    | ran created => exact absurd rfl (others created)
    | deleted _ i task => exact deleteWorker_keeps_lock (apart.spares task)

theorem delete_orphans {s : Runtime Call} {i : WorkerId} {body : Section Call}
    (held : s.lock = some (.worker i, body)) (live : (s.workers i).live = true) :
    (s.deleteWorker i).owner = some .deleted := by
  simp [Runtime.owner, deleteWorker, live, held]

/-- An overlap is a bug whenever the owner is slow: the callback alone deletes it. -/
theorem overlap_orphans {s : Runtime Call} {i : WorkerId} {body : Section Call}
    (held : s.lock = some (.worker i, body)) (live : (s.workers i).live = true) (doomed : s.dooms i = true) :
    ∃ count after, run step s (List.replicate count (.timerTask true)) = some after ∧ after.owner = some .deleted := by
  have ready {s : Runtime Call} (held : s.lock = some (.worker i, body)) :
      s.step (.timerTask true) = s.runTimerTask true := by
    simp [Runtime.step, Runtime.owner, held]
  have deletes {s : Runtime Call} (held : s.lock = some (.worker i, body)) (live : (s.workers i).live = true)
      (task : s.timerTask = .recover i .delete) :
      ∃ count after, run step s (List.replicate count (.timerTask true)) = some after ∧
        after.owner = some .deleted := by
    refine ⟨1, { s.deleteWorker i with timerTask := .recover i (afterDelete (s.workers i)) }, ?_,
      delete_orphans held live⟩
    simp only [List.replicate_one, run, ready held, runTimerTask, task, Option.bind_some]
  have exchanges {s : Runtime Call} (held : s.lock = some (.worker i, body)) (live : (s.workers i).live = true)
      (working : (s.workers i).working = true) (task : s.timerTask = .recover i .exchange) :
      ∃ count after, run step s (List.replicate count (.timerTask true)) = some after ∧
        after.owner = some .deleted := by
    obtain ⟨count, after, ran, orphaned⟩ := @deletes
      { s.setWorker i { s.workers i with working := false } with timerTask := .recover i .delete }
      held (by simpa [setWorker] using live) rfl
    refine ⟨count + 1, after, ?_, orphaned⟩
    simp only [List.replicate_succ, run, ready held, runTimerTask, task, working, if_true, Option.bind_some]
    exact ran
  unfold dooms at doomed
  cases task : s.timerTask with
  | hard j =>
      simp only [task, Bool.and_eq_true, decide_eq_true_eq] at doomed
      obtain ⟨rfl, working⟩ := doomed
      let expired := { s.setWorker j { s.workers j with
        abortFlag := true, hardClose := (s.workers j).hardClose.map fun _ => .stopped } with
        timerTask := .recover j .exchange }
      obtain ⟨count, after, ran, orphaned⟩ := @exchanges expired held
        (by simpa [expired, setWorker] using live) (by simpa [expired, setWorker] using working) rfl
      refine ⟨count + 1, after, ?_, orphaned⟩
      simp only [List.replicate_succ, run, ready held, runTimerTask, task, Option.bind_some]
      exact ran
  | recover j stage =>
      cases stage with
      | exchange =>
          simp only [task, Bool.and_eq_true, decide_eq_true_eq] at doomed
          obtain ⟨rfl, working⟩ := doomed
          exact exchanges held live working task
      | delete =>
          simp only [task, decide_eq_true_eq] at doomed
          subst doomed
          exact deletes held live task
      | _ => simp [task] at doomed
  | _ => simp [task] at doomed

instance (s : Runtime Call) (action : Action Call) : Decidable (s.NoOverlap action) :=
  match action with
  | .fire (.hard i) => inferInstanceAs (Decidable ((s.workers i).working = true → s.owner ≠ some (.worker i)))
  | .worker i => inferInstanceAs (Decidable ((s.workers i).pc.locks = true → s.dooms i = false))
  | .call i _ => inferInstanceAs (Decidable (s.dooms i = false))
  | .request _ | .requestTimeout _ | .workTick | .setActiveState _ | .elapse _ | .workerTimeout _
  | .callTimeout _ _ | .fire .window | .fire .grace | .fire .settlement | .fire (.soft _) | .timerTask _
  | .timerTimeout | .advance _ => inferInstanceAs (Decidable True)

def twoUserWorkers : List (Action Nat) :=
  [.request (.scheduleUserWork (userItem 1))] ++ advances 2 ++
    [.request (.scheduleUserWork (userItem 2))] ++ advances 2 ++ [.workTick] ++ advances 7 ++
    startHandler 0 ++ startHandler 1 ++ [.elapse 30000, .fire (.soft 0), .timerTask true, .fire (.soft 1),
      .timerTask true, .elapse 10000, .call 0 .getState]

theorem lock_never_orphaned_hard_abort :
    ∃ s : Runtime Nat, s.lock = some (.worker 0, .getState) ∧ s.timerTask = .recover 1 .subtract ∧
      s.canRun (.worker 0) = true ∧
      (∀ action after, (∀ created, action ≠ .advance created) → s.step action = some after →
        after.lock = s.lock) ∧
      ∃ count after, run step s (List.replicate count (.advance true)) = some after ∧
        after.lock = none := by
  let actions := twoUserWorkers ++ [.fire (.hard 1), .timerTask true, .timerTask true, .timerTask true]
  have ran : ((run step booted actions).map fun s => (s.lock, s.timerTask)) =
      some (some (.worker 0, .getState), .recover 1 .subtract) := by decide +kernel
  obtain ⟨s, taken, seen⟩ := Option.map_eq_some_iff.mp ran
  obtain ⟨held, task⟩ := Prod.mk.inj seen
  have guarded : Guarded step NoOverlap booted actions := by decide +kernel
  have reached := (Reach.start booted_initial).of_run guarded taken
  obtain ⟨canRun, _, _, kept, released⟩ := lock_never_orphaned reached held
  exact ⟨s, held, task, canRun, kept, released⟩

/-- The hard timeout hits a handler inside `runtime_get_state`. -/
theorem lock_orphaned_by_hard_abort :
    ∃ before after : Runtime Nat, Reach step Initial Unguarded before ∧
      before.owner = some (.worker 0) ∧ before.step (.timerTask true) = some after ∧
      (after.workers 0).live = false ∧ after.owner = some .deleted := by
  let actions := twoUserWorkers ++ [.fire (.hard 0), .timerTask true, .timerTask true]
  have ran : ((run step booted actions).map fun s => (s.owner, (s.step (.timerTask true)).map fun after =>
      ((after.workers 0).live, after.owner))) =
      some (some (.worker 0), some (false, some .deleted)) := by decide +kernel
  obtain ⟨before, taken, seen⟩ := Option.map_eq_some_iff.mp ran
  obtain ⟨owner, deleted⟩ := Prod.mk.inj seen
  obtain ⟨after, next, orphaned⟩ := Option.map_eq_some_iff.mp deleted
  obtain ⟨dead, lock⟩ := Prod.mk.inj orphaned
  exact ⟨before, after, (Reach.start booted_initial).of_run (guarded_unguarded _ _ _) taken, owner, next,
    dead, lock⟩

end Runtime

end WatchFirmware.RuntimeManager
