import WatchFirmware.RuntimeManager.RuntimeManager

set_option autoImplicit false

namespace WatchFirmware.RuntimeManager

variable {Call : Type}

namespace Runtime

theorem acquire_eq_some {s after : Runtime Call} {owner : Owner} {body : Section Call}
    (taken : s.acquire owner body = some after) :
    s.lock = none ∧ after = { s with lock := some (owner, body) } := by
  unfold acquire at taken
  cases free : s.lock with
  | none => exact ⟨rfl, by simpa [free] using taken.symm⟩
  | some held => simp [free] at taken

theorem advance_cases {s after : Runtime Call} {created : Bool} (taken : s.advance created = some after) :
    ∃ owner body, s.lock = some (owner, body) ∧ s.canRun owner = true ∧
      ((body = .done ∧ after = s.release owner) ∨
        (body ≠ .done ∧ after = { (s.runSection body created).1 with
          lock := some (owner, (s.runSection body created).2) })) := by
  unfold advance at taken
  cases held : s.lock with
  | none => simp [held] at taken
  | some lock =>
      obtain ⟨owner, body⟩ := lock
      simp only [held] at taken
      split at taken
      next canRun =>
        refine ⟨owner, body, rfl, canRun, ?_⟩
        cases body with
        | done => exact .inl ⟨rfl, (Option.some.inj taken).symm⟩
        | _ => exact .inr ⟨by simp, (Option.some.inj taken).symm⟩
      next => cases taken

structure OnlyQueues (s after : Runtime Call) : Prop where
  window : after.window = s.window
  activeWorkers : after.activeWorkers = s.activeWorkers
  workers : after.workers = s.workers
  timerTask : after.timerTask = s.timerTask
  now : after.now = s.now

structure OnlyWindow (s after : Runtime Call) : Prop where
  queues : after.queues = s.queues
  pendings : after.pendings = s.pendings
  activeWorkers : after.activeWorkers = s.activeWorkers
  workers : after.workers = s.workers
  timerTask : after.timerTask = s.timerTask
  now : after.now = s.now

structure OnlyWorkers (s after : Runtime Call) : Prop where
  window : after.window = s.window
  queues : after.queues = s.queues
  pendings : after.pendings = s.pendings
  timerTask : after.timerTask = s.timerTask
  now : after.now = s.now

section Operations

variable (s : Runtime Call)

theorem scheduleWork_onlyQueues (queue : WorkType) (item : WorkItem Call) :
    OnlyQueues s (s.scheduleWork queue item).2 := by
  unfold scheduleWork
  dsimp only
  split
  next =>
    cases BoundedQueue.send (pendingCapacity queue) (s.pendings queue) _ with
    | none => exact ⟨rfl, rfl, rfl, rfl, rfl⟩
    | some sent => exact ⟨rfl, rfl, rfl, rfl, rfl⟩
  next =>
    cases BoundedQueue.send (queueCapacity queue) (s.queues queue) _ with
    | none => exact ⟨rfl, rfl, rfl, rfl, rfl⟩
    | some sent => exact ⟨rfl, rfl, rfl, rfl, rfl⟩

theorem submitHook_onlyQueues (hook : Hook) : OnlyQueues s (s.submitHook hook) := by
  unfold submitHook
  dsimp only
  cases BoundedQueue.send (queueCapacity .system) (s.queues .system) _ with
  | none => exact ⟨rfl, rfl, rfl, rfl, rfl⟩
  | some sent => exact ⟨rfl, rfl, rfl, rfl, rfl⟩

theorem timedOut_onlyQueues (request : Request Call) : OnlyQueues s (s.timedOut request) := by
  cases request <;> exact ⟨rfl, rfl, rfl, rfl, rfl⟩

theorem armSettlement_onlyWindow : OnlyWindow s s.armSettlement := by
  unfold armSettlement
  dsimp only
  split
  · exact ⟨rfl, rfl, rfl, rfl, rfl, rfl⟩
  · split <;> exact ⟨rfl, rfl, rfl, rfl, rfl, rfl⟩

theorem armSettlement_runtimeState : s.armSettlement.window.runtimeState = s.window.runtimeState := by
  unfold armSettlement
  dsimp only
  split
  · rfl
  · split <;> rfl

end Operations

theorem drainPendingQueue_cases {s after : Runtime Call} {queue : WorkType}
    (drained : s.drainPendingQueue queue = some after) :
    ∃ work rest, s.pendings queue = work :: rest ∧ s.window.runtimeState ≠ .gracePeriod ∧
      ((queueCapacity queue ≤ (s.queues queue).length ∧ after = { s with
          pendings := Function.update s.pendings queue rest
          ledger := { s.ledger with lost := s.ledger.lost ++ [work] } }) ∨
        ((s.queues queue).length < queueCapacity queue ∧ after = { s with
          pendings := Function.update s.pendings queue rest
          queues := Function.update s.queues queue (s.queues queue ++ [work]) })) := by
  unfold drainPendingQueue at drained
  split at drained
  next => simp at drained
  next awake =>
    cases list : s.pendings queue with
    | nil => simp [list] at drained
    | cons work rest =>
        refine ⟨work, rest, rfl, awake, ?_⟩
        by_cases room : (s.queues queue).length < queueCapacity queue
        · exact .inr ⟨room, by simpa [list, BoundedQueue.send, room] using drained.symm⟩
        · exact .inl ⟨Nat.not_lt.mp room, by simpa [list, BoundedQueue.send, room] using drained.symm⟩

theorem drainPendingQueue_none {s : Runtime Call} {queue : WorkType}
    (stopped : s.drainPendingQueue queue = none) (awake : s.window.runtimeState ≠ .gracePeriod) :
    s.pendings queue = [] := by
  unfold drainPendingQueue at stopped
  rw [if_neg awake] at stopped
  cases list : s.pendings queue with
  | nil => rfl
  | cons work rest =>
      simp only [list] at stopped
      split at stopped <;> simp at stopped

theorem drainPendingQueue_onlyQueues {s after : Runtime Call} {queue : WorkType}
    (drained : s.drainPendingQueue queue = some after) : OnlyQueues s after := by
  obtain ⟨_, _, _, _, ⟨_, rfl⟩ | ⟨_, rfl⟩⟩ := drainPendingQueue_cases drained <;>
    exact ⟨rfl, rfl, rfl, rfl, rfl⟩

section Recovery

variable (s : Runtime Call) (i : WorkerId)

theorem deleteWorker_onlyWorkers : OnlyWorkers s (s.deleteWorker i) := by
  unfold deleteWorker
  dsimp only
  split <;> exact ⟨rfl, rfl, rfl, rfl, rfl⟩

theorem deleteWorker_activeWorkers : (s.deleteWorker i).activeWorkers = s.activeWorkers := by
  unfold deleteWorker
  dsimp only
  split <;> rfl

theorem deleteWorker_dead (dead : (s.workers i).pc ≠ .receive → (s.workers i).live = true) :
    ((s.deleteWorker i).workers i).live = false ∧ ((s.deleteWorker i).workers i).pc = .receive := by
  unfold deleteWorker
  dsimp only
  split
  next => simp [setWorker]
  next gone =>
    refine ⟨by simpa using gone, ?_⟩
    by_contra other
    exact gone (dead other)

theorem deleteWorker_others {j : WorkerId} (other : j ≠ i) :
    (s.deleteWorker i).workers j = s.workers j := by
  unfold deleteWorker
  dsimp only
  split
  next => simp [setWorker, Function.update_of_ne other]
  next => rfl

theorem deleteWorker_lock {owner : Owner} {body : Section Call}
    (held : (s.deleteWorker i).lock = some (owner, body)) :
    ∃ before, s.lock = some (before, body) ∧
      ((before = .worker i ∧ owner = .deleted) ∨
        (owner = before ∧ (before = .worker i → (s.workers i).live = false))) := by
  -- a lock whose owner is deleted stays taken; every other owner keeps it
  unfold deleteWorker at held
  dsimp only at held
  split at held
  next live =>
    obtain ⟨⟨before, other⟩, was, equal⟩ := Option.map_eq_some_iff.mp held
    obtain ⟨isOwner, rfl⟩ := Prod.mk.inj equal
    refine ⟨before, was, ?_⟩
    dsimp only at isOwner
    split at isOwner
    next same => exact .inl ⟨same, isOwner.symm⟩
    next apart => exact .inr ⟨isOwner.symm, fun same => absurd same apart⟩
  next dead => exact ⟨owner, held, .inr ⟨rfl, fun _ => by simpa using dead⟩⟩

end Recovery

structure WorkerMoves (s : Runtime Call) (i : WorkerId) (after : Runtime Call) : Prop where
  workers : ∃ worker, after.workers = Function.update s.workers i worker ∧
    worker.live = (s.workers i).live ∧ worker.suspended = (s.workers i).suspended
  window : after.window = s.window
  pendings : after.pendings = s.pendings
  lock : after.lock = s.lock
  timerTask : after.timerTask = s.timerTask
  now : after.now = s.now

theorem WorkerMoves.others {s after : Runtime Call} {i : WorkerId} (moves : WorkerMoves s i after)
    {j : WorkerId} (other : j ≠ i) : after.workers j = s.workers j := by
  obtain ⟨worker, workers, -, -⟩ := moves.workers
  rw [workers, Function.update_of_ne other]

theorem WorkerMoves.live {s after : Runtime Call} {i : WorkerId} (moves : WorkerMoves s i after)
    (j : WorkerId) : (after.workers j).live = (s.workers j).live := by
  obtain ⟨worker, workers, live, -⟩ := moves.workers
  rw [workers]
  by_cases same : j = i
  · subst same
    simpa using live
  · rw [Function.update_of_ne same]

inductive WorkerStep (s : Runtime Call) (i : WorkerId) : Runtime Call → Prop where
  | take (work : Work Call) (rest : List (Work Call)) (pc : (s.workers i).pc = .receive)
      (queue : s.queues (workerType i) = work :: rest) :
      WorkerStep s i { s.setWorker i { s.workers i with pc := .received work } with
        queues := Function.update s.queues (workerType i) rest
        ledger := s.ledger.take work }
  | count (work : Work Call) (pc : (s.workers i).pc = .received work) :
      WorkerStep s i { s.setWorker i { s.workers i with pc := .counted work } with
        activeWorkers := s.activeWorkers + 1 }
  | reset (work : Work Call) (after : Runtime Call) (pc : (s.workers i).pc = .counted work)
      (acquired : s.acquire (.worker i) .resetSettlementTimer = some after) : WorkerStep s i after
  | evaluate (after : Runtime Call) (pc : (s.workers i).pc = .evaluate)
      (acquired : s.acquire (.worker i) .evaluateEarlyCurfew = some after) : WorkerStep s i after
  | move (worker : Worker Call) (live : worker.live = (s.workers i).live)
      (suspended : worker.suspended = (s.workers i).suspended)
      (held : worker.pc.held = (s.workers i).pc.held) (counted : worker.pc.isCounted = true)
      (wasCounted : (s.workers i).pc.isCounted = true) : WorkerStep s i (s.setWorker i worker)
  | finish (work : Work Call) (startedAwake isUserTask : Bool)
      (pc : (s.workers i).pc = .handle work startedAwake) :
      WorkerStep s i { s.setWorker i { s.workers i with pc := .handled isUserTask } with
        ledger := { s.ledger with completed := s.ledger.completed ++ [work] } }
  | leave (next : WorkerPc Call) (pc : (s.workers i).pc = .leaving)
      (done : next = .evaluate ∨ next = .receive) :
      WorkerStep s i { s.setWorker i { s.workers i with pc := next } with
        activeWorkers := s.activeWorkers - 1 }

theorem workerStep_of_entry {s after : Runtime Call} {i : WorkerId}
    (taken : s.poolWorkerEntry i = some after) : WorkerStep s i after := by
  unfold poolWorkerEntry at taken
  cases pc : (s.workers i).pc with
  | receive =>
      simp only [pc] at taken
      cases queue : s.queues (workerType i) with
      | nil => simp [queue] at taken
      | cons work rest =>
          simp only [queue, Option.some.injEq] at taken
          subst taken
          exact .take work rest pc queue
  | received work =>
      simp only [pc, Option.some.injEq] at taken
      subst taken
      exact .count work pc
  | counted work => exact .reset work after pc (by simpa only [pc] using taken)
  | evaluate => exact .evaluate after pc (by simpa only [pc] using taken)
  | prepare work =>
      simp only [pc] at taken
      split at taken
      next =>
        simp only [watchdogStartUserWork, Option.map_map, Option.map_eq_some_iff] at taken
        obtain ⟨soft, _, rfl⟩ := taken
        exact .move _ rfl rfl (by rw [pc]; rfl) rfl (by rw [pc]; rfl)
      next =>
        cases taken
        exact .move _ rfl rfl (by rw [pc]; rfl) rfl (by rw [pc]; rfl)
  | launch work =>
      simp only [pc, Option.some.injEq] at taken
      subst taken
      exact .move _ rfl rfl (by rw [pc]; rfl) rfl (by rw [pc]; rfl)
  | handle work startedAwake =>
      simp only [pc, Option.some.injEq] at taken
      subst taken
      exact .finish work startedAwake _ pc
  | handled isUserTask =>
      simp only [pc, Option.some.injEq] at taken
      subst taken
      exact .move _ rfl rfl (by rw [pc]; rfl) rfl (by rw [pc]; rfl)
  | stopping isUserTask =>
      simp only [pc, Option.some.injEq] at taken
      subst taken
      cases isUserTask <;> exact .move _ rfl rfl (by rw [pc]; rfl) rfl (by rw [pc]; rfl)
  | leaving =>
      simp only [pc, Option.some.injEq] at taken
      subst taken
      refine .leave _ pc ?_
      split
      · exact .inl rfl
      · exact .inr rfl

theorem WorkerStep.lock_or_moves {s after : Runtime Call} {i : WorkerId} (step : WorkerStep s i after) :
    (∃ work, (s.workers i).pc = .counted work ∧
        s.acquire (.worker i) .resetSettlementTimer = some after) ∨
      ((s.workers i).pc = .evaluate ∧ s.acquire (.worker i) .evaluateEarlyCurfew = some after) ∨
        WorkerMoves s i after := by
  cases step with
  | reset work _ pc acquired => exact .inl ⟨work, pc, acquired⟩
  | evaluate _ pc acquired => exact .inr (.inl ⟨pc, acquired⟩)
  | move worker live suspended =>
      exact .inr (.inr ⟨⟨worker, rfl, live, suspended⟩, rfl, rfl, rfl, rfl, rfl⟩)
  | take | count | finish | leave =>
      exact .inr (.inr ⟨⟨_, rfl, rfl, rfl⟩, rfl, rfl, rfl, rfl, rfl⟩)

theorem release_lock (s : Runtime Call) (owner : Owner) : (s.release owner).lock = none := by
  unfold release
  cases owner with
  | worker i => cases pc : (s.workers i).pc <;> simp only [pc, setWorker]
  | client | timerTask | deleted => rfl

theorem release_activeWorkers (s : Runtime Call) (owner : Owner) :
    (s.release owner).activeWorkers = s.activeWorkers := by
  unfold release
  cases owner with
  | worker i => cases pc : (s.workers i).pc <;> simp only [pc, setWorker]
  | client | timerTask | deleted => rfl

theorem release_window (s : Runtime Call) (owner : Owner) : (s.release owner).window = s.window := by
  unfold release
  cases owner with
  | worker i => cases pc : (s.workers i).pc <;> simp only [pc, setWorker]
  | client | timerTask | deleted => rfl

theorem release_timerTask (s : Runtime Call) {owner : Owner} (other : owner ≠ .timerTask) :
    (s.release owner).timerTask = s.timerTask := by
  unfold release
  cases owner with
  | worker i => cases pc : (s.workers i).pc <;> simp only [pc, setWorker]
  | client | deleted => rfl
  | timerTask => exact absurd rfl other

def running (s : Runtime Call) : Section Call :=
  match s.lock with
  | none => .done
  | some (_, body) => body

theorem running_held {s : Runtime Call} {owner : Owner} {body : Section Call} (held : s.lock = some (owner, body)) :
    s.running = body := by
  unfold running
  rw [held]

end Runtime

end WatchFirmware.RuntimeManager
