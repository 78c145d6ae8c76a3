import WatchFirmware.RuntimeManager.WorkWindow
import WatchFirmware.Shared.Tally

set_option autoImplicit false

namespace WatchFirmware.RuntimeManager

open Transition

variable {Call : Type}

namespace Section

/-- `worker_pool_has_work` has read the counter and goes on reading. -/
def isProbing : Section Call → Bool
  | .hasWork .system _ | .hasWork .user _ => true
  | _ => false

/-- `worker_pool_has_work` has returned false and nothing has happened since. -/
def isConcluded : Section Call → Bool
  | .idle _ | .sleep .idle => true
  | _ => false

def owes : Section Call → Nat
  | .recover _ .subtract _ => 1
  | _ => 0

end Section

def TimerTask.owes : TimerTask → Nat
  | .recover _ .subtract => 1
  | _ => 0

namespace Runtime

def counts (worker : Worker Call) : Int := if worker.pc.isCounted then 1 else 0

def unsubtracted (s : Runtime Call) : Nat := s.timerTask.owes + s.lock.elim 0 fun lock => lock.2.owes

def settled (s : Runtime Call) : Int := s.activeWorkers - s.unsubtracted

def HandsEmpty (s : Runtime Call) : Prop := ∀ i, (s.workers i).pc.held = []

structure Quiet (s : Runtime Call) : Prop where
  queues : ∀ queue, s.queues queue = []
  hands : s.HandsEmpty

structure Watched (s : Runtime Call) : Prop where
  count : s.settled = ∑ i, counts (s.workers i)
  unraced : ∀ owner body, s.lock = some (owner, body) → body.isProbing = true →
    s.ledger.raced = false → s.HandsEmpty
  noSystem : ∀ owner asking, s.lock = some (owner, .hasWork .user asking) → s.queues .system = []
  quiet : ∀ owner body, s.lock = some (owner, body) → body.isConcluded = true → s.Quiet

theorem Watched.frame {s after : Runtime Call} (watched : s.Watched)
    (lock : ∀ owner body, after.lock = some (owner, body) → ∃ before, s.lock = some (before, body))
    (count : after.settled = ∑ i, counts (after.workers i))
    (queues : ∀ queue, s.queues queue = [] → after.queues queue = [])
    (hands : after.ledger.raced = false → s.HandsEmpty → after.HandsEmpty)
    (raced : after.ledger.raced = false → s.ledger.raced = false)
    (quiet : s.Quiet → after.HandsEmpty) : after.Watched where
  count := count
  unraced := by
    intro owner body held probing unraced
    obtain ⟨before, was⟩ := lock owner body held
    exact hands unraced (watched.unraced before body was probing (raced unraced))
  noSystem := by
    intro owner asking held
    obtain ⟨before, was⟩ := lock owner _ held
    exact queues _ (watched.noSystem before asking was)
  quiet := by
    intro owner body held concluded
    obtain ⟨before, was⟩ := lock owner body held
    have before := watched.quiet before body was concluded
    exact ⟨fun queue => queues queue (before.queues queue), quiet before⟩

theorem watched_ordinary {after : Runtime Call} {owner : Owner} {rest : Section Call}
    (count : after.settled = ∑ i, counts (after.workers i)) (lock : after.lock = some (owner, rest))
    (probing : rest.isProbing = false) (concluded : rest.isConcluded = false) : after.Watched := by
  refine ⟨count, ?_, ?_, ?_⟩
  · intro _ _ held isProbing
    rw [lock] at held
    cases held
    rw [probing] at isProbing
    cases isProbing
  · intro _ _ held
    rw [lock] at held
    cases held
    cases probing
  · intro _ _ held isConcluded
    rw [lock] at held
    cases held
    rw [concluded] at isConcluded
    cases isConcluded

theorem watched_free {after : Runtime Call}
    (count : after.settled = ∑ i, counts (after.workers i)) (lock : after.lock = none) :
    after.Watched := by
  refine ⟨count, ?_, ?_, ?_⟩ <;>
    · intro _ _ held
      rw [lock] at held
      cases held

theorem count_update {s : Runtime Call} (count : s.settled = ∑ i, counts (s.workers i))
    (i : WorkerId) {worker : Worker Call} {active : Int}
    (change : active + counts (s.workers i) = s.settled + counts worker) :
    active = ∑ j, counts (Function.update s.workers i worker j) := by
  have swapped := Tally.sum_update counts s.workers i worker
  rw [count] at change
  omega

theorem hands_update {s : Runtime Call} (hands : s.HandsEmpty) (i : WorkerId) {worker : Worker Call}
    (empty : worker.pc.held = []) :
    ∀ j, (Function.update s.workers i worker j).pc.held = [] := by
  intro j
  by_cases same : j = i
  · subst same
    simpa using empty
  · rw [Function.update_of_ne same]
    exact hands j

theorem Watched.acquire {s after : Runtime Call} (watched : s.Watched) {owner : Owner}
    {body : Section Call} (acquired : s.acquire owner body = some after)
    (probing : body.isProbing = false) (concluded : body.isConcluded = false) (owes : body.owes = 0) :
    after.Watched := by
  obtain ⟨free, rfl⟩ := acquire_eq_some acquired
  refine watched_ordinary ?_ rfl probing concluded
  rw [← watched.count]
  simp [settled, unsubtracted, free, owes]

theorem Watched.worker {s after : Runtime Call} {i : WorkerId} (watched : s.Watched)
    (step : WorkerStep s i after) : after.Watched := by
  have same : ∀ owner body, s.lock = some (owner, body) → ∃ before, s.lock = some (before, body) :=
    fun owner _ held => ⟨owner, held⟩
  cases step with
  | take work rest pc queue =>
      have available : s.queues (workerType i) ≠ [] := by
        rw [queue]
        exact List.cons_ne_nil _ _
      refine watched.frame same (count_update watched.count i ?_) ?_ (fun raced => nomatch raced)
        (fun raced => nomatch raced) fun quiet => absurd (quiet.queues _) available
      · simp [counts, pc, WorkerPc.isCounted, setWorker, settled, unsubtracted]
      · intro other empty
        have apart : other ≠ workerType i := by
          rintro rfl
          exact available empty
        exact (Function.update_of_ne apart _ _).trans empty
  | count work pc =>
      have busy : ¬ s.HandsEmpty := fun hands => by simpa [pc, WorkerPc.held] using hands i
      refine watched.frame same (count_update watched.count i ?_) (fun _ empty => empty)
        (fun _ hands => absurd hands busy) id fun quiet => absurd quiet.hands busy
      simp [counts, pc, WorkerPc.isCounted, settled, unsubtracted, setWorker]
      omega
  | reset work _ pc acquired => exact watched.acquire acquired rfl rfl rfl
  | evaluate _ pc acquired => exact watched.acquire acquired rfl rfl rfl
  | move worker live suspended held counted wasCounted =>
      have still : s.HandsEmpty → ∀ j, (Function.update s.workers i worker j).pc.held = [] :=
        fun hands => hands_update hands i (held.trans (hands i))
      refine watched.frame same (count_update watched.count i ?_) (fun _ empty => empty)
        (fun _ => still) id fun quiet => still quiet.hands
      simp [counts, counted, wasCounted, setWorker, settled, unsubtracted]
  | finish work startedAwake isUserTask pc =>
      have busy : ¬ s.HandsEmpty := fun hands => by simpa [pc, WorkerPc.held] using hands i
      refine watched.frame same (count_update watched.count i ?_) (fun _ empty => empty)
        (fun _ hands => absurd hands busy) id fun quiet => absurd quiet.hands busy
      simp [counts, pc, WorkerPc.isCounted, setWorker, settled, unsubtracted]
  | leave next pc done =>
      have empty : next.held = [] := by rcases done with rfl | rfl <;> rfl
      refine watched.frame same (count_update watched.count i ?_) (fun _ empty => empty)
        (fun _ hands => hands_update hands i empty) id fun quiet => hands_update quiet.hands i empty
      have left : counts { s.workers i with pc := next } = 0 := by
        rcases done with rfl | rfl
        · rfl
        · rfl
      have was : counts (s.workers i) = 1 := by simp [counts, pc, WorkerPc.isCounted]
      rw [left, was]
      simp only [settled, unsubtracted, setWorker]
      omega

structure Steady (s after : Runtime Call) : Prop where
  activeWorkers : after.activeWorkers = s.activeWorkers
  pcs : ∀ i, (after.workers i).pc = (s.workers i).pc

theorem Steady.of_queues {s after : Runtime Call} (only : OnlyQueues s after) : Steady s after :=
  ⟨only.activeWorkers, fun i => by rw [only.workers]⟩

theorem Steady.of_window {s after : Runtime Call} (only : OnlyWindow s after) : Steady s after :=
  ⟨only.activeWorkers, fun i => by rw [only.workers]⟩

theorem Steady.of_update {s after : Runtime Call} {i : WorkerId} {worker : Worker Call}
    (workers : after.workers = Function.update s.workers i worker) (pc : worker.pc = (s.workers i).pc)
    (activeWorkers : after.activeWorkers = s.activeWorkers) : Steady s after := by
  refine ⟨activeWorkers, fun j => ?_⟩
  rw [workers]
  by_cases same : j = i
  · subst same
    simpa using pc
  · rw [Function.update_of_ne same]

theorem Steady.count {s after : Runtime Call} (steady : Steady s after)
    (owed : after.unsubtracted = s.unsubtracted) (count : s.settled = ∑ i, counts (s.workers i)) :
    after.settled = ∑ i, counts (after.workers i) := by
  simp only [counts, settled, steady.activeWorkers, steady.pcs, owed]
  exact count

theorem Steady.hands {s after : Runtime Call} (steady : Steady s after) (hands : s.HandsEmpty) :
    after.HandsEmpty := fun i => by rw [steady.pcs i]; exact hands i

theorem setRuntimeState_steady (s : Runtime Call) (target : RuntimeState) :
    Steady s (s.setRuntimeState target).1 := by
  unfold setRuntimeState
  split
  · exact ⟨rfl, fun _ => rfl⟩
  · cases target with
    | uiActive | backgroundActive => dsimp only; split <;> exact ⟨rfl, fun _ => rfl⟩
    | sleep | gracePeriod => exact ⟨rfl, fun _ => rfl⟩

theorem runSection_steady {s : Runtime Call} (orderly : s.Orderly) {owner : Owner}
    {body : Section Call} (created : Bool) (held : s.lock = some (owner, body))
    (spares : ∀ i stage rest, stage = .delete ∨ stage = .subtract → body ≠ .recover i stage rest) :
    Steady s (s.runSection body created).1 := by
  -- a section counts nobody; only a recovery takes a worker away
  cases body with
  | scheduleWork queue item => exact .of_queues (s.scheduleWork_onlyQueues queue item)
  | startWork => exact s.setRuntimeState_steady _
  | sleep => exact s.setRuntimeState_steady _
  | registerHook | evaluateEarlyCurfew | workWindowExpiry | gracePeriodExpiry
  | curfewSettlementExpiry =>
      simp only [runSection]
      split <;> exact ⟨rfl, fun _ => rfl⟩
  | hasWork reading =>
      cases reading with
      | active => simp only [runSection]; split <;> exact ⟨rfl, fun _ => rfl⟩
      | system | user => exact ⟨rfl, fun _ => rfl⟩
  | idle asking =>
      cases asking with
      | evaluate => exact .of_window s.armSettlement_onlyWindow
      | settlement => simp only [runSection]; split <;> exact ⟨rfl, fun _ => rfl⟩
      | curfew => exact ⟨rfl, fun _ => rfl⟩
  | busy asking => cases asking <;> exact ⟨rfl, fun _ => rfl⟩
  | submitHooks rest =>
      cases rest with
      | nil => exact ⟨rfl, fun _ => rfl⟩
      | cons hook rest => exact .of_queues (s.submitHook_onlyQueues hook)
  | drainPending queue =>
      simp only [runSection]
      cases drained : s.drainPendingQueue queue with
      | none => exact ⟨rfl, fun _ => rfl⟩
      | some after => exact .of_queues (drainPendingQueue_onlyQueues drained)
  | forceAbort rest =>
      cases rest with
      | nil => exact ⟨rfl, fun _ => rfl⟩
      | cons i rest =>
          exact ⟨rfl, fun _ => rfl⟩
  | recover i stage rest =>
      cases stage with
      | stop | exchange =>
          simp only [runSection]
          split
          · exact .of_update rfl rfl rfl
          · exact ⟨rfl, fun _ => rfl⟩
      | delete => exact absurd rfl (spares i .delete rest (.inl rfl))
      | subtract => exact absurd rfl (spares i .subtract rest (.inr rfl))
      | create => exact .of_update rfl (orderly.dead i (orderly.respawned owner i .create rest rfl held)).symm rfl
      | clearAbort | clearWorking | park => exact .of_update rfl rfl rfl
  | getState | unregisterHook | resetSettlementTimer | suspendAll | done => exact ⟨rfl, fun _ => rfl⟩

def CountedOrGone (s : Runtime Call) (i : WorkerId) : Prop :=
  (s.workers i).live = true → (s.workers i).pc.isCounted = true

theorem deleteWorker_count {s : Runtime Call} {i : WorkerId}
    (count : s.settled = ∑ j, counts (s.workers j)) (counted : s.CountedOrGone i) {active : Int}
    (change : active + (if (s.workers i).live then 1 else 0) = s.settled) :
    active = ∑ j, counts ((s.deleteWorker i).workers j) := by
  unfold deleteWorker
  dsimp only
  split
  next live =>
    have one : counts (s.workers i) = 1 := if_pos (counted live)
    rw [if_pos live] at change
    refine count_update count i ?_
    rw [one]
    simpa [counts, WorkerPc.isCounted] using change
  next gone =>
    rw [if_neg gone, Int.add_zero] at change
    rw [change]
    exact count

theorem task_owes_afterDelete (i : WorkerId) (worker : Worker Call) :
    (TimerTask.recover i (afterDelete worker)).owes = if worker.live then 1 else 0 := by
  unfold afterDelete
  split
  next => rfl
  next => rfl

theorem section_owes_afterDelete (i : WorkerId) (worker : Worker Call) (rest : List WorkerId) :
    (Section.recover i (afterDelete worker) rest : Section Call).owes = if worker.live then 1 else 0 := by
  unfold afterDelete
  split
  next => rfl
  next => rfl

theorem runSection_owes {s : Runtime Call} {body : Section Call} (created : Bool)
    (spares : ∀ i rest, body ≠ .recover i .delete rest) : (s.runSection body created).2.owes = 0 := by
  cases next : (s.runSection body created).2 with
  | recover i stage rest =>
      cases stage with
      | subtract =>
          obtain rfl | rfl := runSection_respawn rfl next
          next => exact absurd rfl (spares i rest)
          next => cases next
      | _ => rfl
  | _ => rfl

theorem begin_rest (s : Runtime Call) :
    s.runtimeManagerBeginCurfewUnsafe.2.isProbing = false ∧
      s.runtimeManagerBeginCurfewUnsafe.2.isConcluded = false := by
  unfold runtimeManagerBeginCurfewUnsafe
  dsimp only
  split <;> exact ⟨rfl, rfl⟩

theorem runSection_rest (s : Runtime Call) {body : Section Call} (created : Bool)
    (reads : ∀ reading asking, body ≠ .hasWork reading asking)
    (idles : ∀ asking, body ≠ .idle asking) :
    (s.runSection body created).2.isProbing = false ∧
      (s.runSection body created).2.isConcluded = false := by
  -- only has_work reads on, and only it finds the workers idle
  cases body with
  | hasWork reading asking => exact absurd rfl (reads reading asking)
  | idle asking => exact absurd rfl (idles asking)
  | startWork | sleep =>
      simp only [runSection]
      rcases s.setRuntimeState_rest _ with rest | rest | rest <;> rw [rest] <;> exact ⟨rfl, rfl⟩
  | workWindowExpiry =>
      simp only [runSection]
      split
      · exact s.begin_rest
      · exact ⟨rfl, rfl⟩
  | registerHook | evaluateEarlyCurfew | gracePeriodExpiry | curfewSettlementExpiry =>
      simp only [runSection]
      split <;> exact ⟨rfl, rfl⟩
  | busy asking => cases asking <;> exact ⟨rfl, rfl⟩
  | submitHooks rest => cases rest <;> exact ⟨rfl, rfl⟩
  | drainPending queue =>
      simp only [runSection]
      cases s.drainPendingQueue queue with
      | none => dsimp only; split <;> exact ⟨rfl, rfl⟩
      | some after => exact ⟨rfl, rfl⟩
  | forceAbort rest =>
      cases rest with
      | nil => exact ⟨rfl, rfl⟩
      | cons i rest => simp only [runSection]; split <;> exact ⟨rfl, rfl⟩
  | recover i stage rest =>
      cases stage with
      | exchange => simp only [runSection]; split <;> exact ⟨rfl, rfl⟩
      | stop | delete | subtract | create | clearAbort | clearWorking | park => exact ⟨rfl, rfl⟩
  | scheduleWork | getState | unregisterHook | resetSettlementTimer | suspendAll | done =>
      exact ⟨rfl, rfl⟩

theorem hands_of_count {s : Runtime Call} (dead : DeadReceive s.workers)
    (count : s.settled = ∑ i, counts (s.workers i)) (none : s.activeWorkers ≤ 0)
    (uncounted : ∀ i, (s.workers i).live = true → (s.workers i).pc.isReceived = false) :
    s.HandsEmpty := by
  have zero : ∀ i, counts (s.workers i) = 0 := by
    have positive : ∀ i ∈ Finset.univ, 0 ≤ counts (s.workers i) := fun i _ => by
      unfold counts
      split <;> decide
    have total : ∑ i, counts (s.workers i) = 0 :=
      le_antisymm (by rw [← count, settled]; omega) (Finset.sum_nonneg positive)
    exact fun i => (Finset.sum_eq_zero_iff_of_nonneg positive).mp total i (Finset.mem_univ i)
  intro i
  have idle := zero i
  unfold counts at idle
  cases pc : (s.workers i).pc with
  | received work =>
      have alive : (s.workers i).live = true := by
        by_contra gone
        rw [dead i (by simpa using gone)] at pc
        cases pc
      have seen := uncounted i alive
      rw [pc] at seen
      cases seen
  | counted | prepare | launch | handle => simp [pc, WorkerPc.isCounted] at idle
  | receive | handled | stopping | leaving | evaluate => rfl

def SectionObserved (s : Runtime Call) : Section Call → Prop
  | .recover i .delete _ => s.CountedOrGone i
  | .hasWork .user _ => s.queues .user = [] → s.ledger.raced = false
  | _ => True

/-- No worker is counted out twice, and none takes an item behind the reads of has_work. -/
def IdleObserved (s : Runtime Call) : Action Call → Prop
  | .timerTask _ => ∀ i, s.timerTask = .recover i .delete → s.CountedOrGone i
  | .advance _ => ∀ lock ∈ s.lock, s.SectionObserved lock.2
  | _ => True

theorem section_count {s : Runtime Call} (orderly : s.Orderly) {owner : Owner} {body : Section Call}
    {created : Bool} (held : s.lock = some (owner, body)) (observed : s.IdleObserved (.advance created))
    (count : s.settled = ∑ i, counts (s.workers i)) :
    Runtime.settled { (s.runSection body created).1 with lock := some (owner, (s.runSection body created).2) } =
      ∑ i, counts ((s.runSection body created).1.workers i) := by
  have before : s.settled = s.activeWorkers - (s.timerTask.owes + body.owes : Nat) := by
    rw [settled, unsubtracted, held]
    rfl
  have task := s.runSection_timerTask body created
  by_cases recovers : ∃ i stage rest, (stage = .delete ∨ stage = .subtract) ∧ body = .recover i stage rest
  · obtain ⟨i, _, rest, rfl | rfl, rfl⟩ := recovers
    next =>
      have counted : s.CountedOrGone i := observed _ held
      refine deleteWorker_count count counted ?_
      have active : (s.deleteWorker i).activeWorkers = s.activeWorkers := deleteWorker_activeWorkers s i
      have same : (s.deleteWorker i).timerTask = s.timerTask := task
      rw [before]
      simp only [settled, unsubtracted, runSection, Option.elim_some, section_owes_afterDelete, active, same]
      cases (s.workers i).live <;> simp [Section.owes]
      omega
    next =>
      rw [show ((s.runSection (.recover i .subtract rest) created).1.workers) = s.workers from rfl, ← count, before]
      simp only [settled, unsubtracted, task, Option.elim_some]
      simp [runSection, subtractWorker, Section.owes]
      omega
  · have steady := runSection_steady orderly created held fun i stage rest kind is =>
      recovers ⟨i, stage, rest, kind, is⟩
    have owes : body.owes = 0 := by
      cases body with
      | recover i stage rest =>
          cases stage with
          | subtract => exact absurd ⟨i, .subtract, rest, .inr rfl, rfl⟩ recovers
          | _ => rfl
      | _ => rfl
    have next := @runSection_owes _ s body created fun i rest is => recovers ⟨i, .delete, rest, .inl rfl, is⟩
    have same : Runtime.settled { (s.runSection body created).1 with
        lock := some (owner, (s.runSection body created).2) } = s.settled := by
      rw [before]
      simp only [settled, unsubtracted, task, Option.elim_some, next, owes, steady.activeWorkers]
    rw [same, count]
    simp only [counts, steady.pcs]

theorem Watched.section {s : Runtime Call} (watched : s.Watched) (orderly : s.Orderly) {owner : Owner}
    {body : Section Call} {created : Bool} (held : s.lock = some (owner, body))
    (observed : s.IdleObserved (.advance created)) :
    Watched { (s.runSection body created).1 with
      lock := some (owner, (s.runSection body created).2) } := by
  have count := section_count orderly held observed watched.count
  by_cases reads : ∃ reading asking, body = .hasWork reading asking
  · obtain ⟨reading, asking, rfl⟩ := reads
    cases reading with
    | active =>
        simp only [runSection] at count ⊢
        revert count
        split
        next =>
          intro count
          exact watched_ordinary count rfl rfl rfl
        next none =>
          intro count
          refine ⟨count, ?_, ?_, ?_⟩
          · rintro _ _ ⟨⟩ _ unraced
            refine (hands_of_count orderly.dead watched.count (Int.not_lt.mp none) fun i live => ?_ :
              s.HandsEmpty)
            by_contra received
            exact of_decide_eq_false unraced ⟨i, live, by simpa using received⟩
          · rintro _ _ ⟨⟩
          · rintro _ _ ⟨⟩ concluded
            cases concluded
    | system =>
        simp only [runSection] at count ⊢
        revert count
        split
        next empty =>
          intro count
          refine ⟨count, ?_, ?_, ?_⟩
          · rintro _ _ ⟨⟩ _
            exact watched.unraced _ _ held rfl
          · rintro _ _ ⟨⟩
            exact empty
          · rintro _ _ ⟨⟩ concluded
            cases concluded
        next =>
          intro count
          exact watched_ordinary count rfl rfl rfl
    | user =>
        simp only [runSection] at count ⊢
        revert count
        split
        next empty =>
          intro count
          have hands := watched.unraced _ _ held rfl (observed _ held empty)
          have system := watched.noSystem _ _ held
          refine ⟨count, ?_, ?_, ?_⟩
          · rintro _ _ ⟨⟩ probing
            cases probing
          · rintro _ _ ⟨⟩
          · rintro _ _ ⟨⟩ _
            exact ⟨fun queue => by cases queue <;> assumption, hands⟩
        next =>
          intro count
          exact watched_ordinary count rfl rfl rfl
  · by_cases idles : ∃ asking, body = .idle asking
    · obtain ⟨asking, rfl⟩ := idles
      have quiet := watched.quiet _ _ held rfl
      have asleep : ∀ {after : Runtime Call}, after = { s with lock := some (owner, .sleep .idle) } →
          after.settled = ∑ i, counts (after.workers i) → after.Watched := by
        rintro _ rfl count
        refine ⟨count, ?_, ?_, ?_⟩
        · rintro _ _ ⟨⟩ probing
          cases probing
        · rintro _ _ ⟨⟩
        · rintro _ _ ⟨⟩ _
          exact ⟨quiet.queues, quiet.hands⟩
      cases asking with
      | evaluate => exact watched_ordinary count rfl rfl rfl
      | settlement =>
          simp only [runSection] at count ⊢
          revert count
          split
          next =>
            intro count
            exact watched_ordinary count rfl s.begin_rest.1 s.begin_rest.2
          next =>
            intro count
            exact asleep rfl count
      | curfew => exact asleep rfl count
    · have rest := s.runSection_rest created (fun reading asking is => reads ⟨reading, asking, is⟩)
        fun asking is => idles ⟨asking, is⟩
      exact watched_ordinary count rfl rest.1 rest.2

theorem release_settled {s : Runtime Call} (orderly : s.Orderly) {owner : Owner}
    (held : s.lock = some (owner, .done)) : (s.release owner).settled = s.settled := by
  have before : s.settled = s.activeWorkers - s.timerTask.owes := by
    rw [settled, unsubtracted, held]
    rfl
  have task : (s.release owner).timerTask.owes = s.timerTask.owes := by
    by_cases timer : owner = .timerTask
    · subst timer
      have callback : s.timerTask.isCallback = true := (orderly.owns _ _ held).2
      cases task : s.timerTask with
      | window | grace | settlement => rfl
      | idle | soft | hard | recover =>
          rw [task] at callback
          cases callback
    · rw [s.release_timerTask timer]
  rw [before, settled, unsubtracted, release_lock, task, release_activeWorkers]
  rfl

theorem Watched.release {s : Runtime Call} (watched : s.Watched) (orderly : s.Orderly) {owner : Owner}
    (held : s.lock = some (owner, .done)) : (s.release owner).Watched := by
  refine watched_free ?_ (release_lock s owner)
  rw [release_settled orderly held]
  unfold Runtime.release
  cases owner with
  | worker i =>
      cases pc : (s.workers i).pc with
      | counted | evaluate =>
          simp only [pc]
          refine count_update watched.count i ?_
          simp [counts, pc, WorkerPc.isCounted]
      | _ =>
          simp only [pc]
          exact watched.count
  | client | timerTask | deleted => exact watched.count

theorem Watched.advance {s after : Runtime Call} {created : Bool} (watched : s.Watched)
    (orderly : s.Orderly) (observed : s.IdleObserved (.advance created))
    (taken : s.advance created = some after) : after.Watched := by
  obtain ⟨owner, body, held, _, ⟨rfl, rfl⟩ | ⟨_, rfl⟩⟩ := advance_cases taken
  · exact watched.release orderly held
  · exact watched.section orderly held observed

theorem Watched.steady {s after : Runtime Call} (watched : s.Watched) (steady : Steady s after)
    (lock : after.lock = s.lock) (owes : after.timerTask.owes = s.timerTask.owes)
    (queues : after.queues = s.queues) (raced : after.ledger.raced = s.ledger.raced) : after.Watched :=
  watched.frame (fun owner _ held => ⟨owner, lock ▸ held⟩)
    (steady.count (by rw [unsubtracted, unsubtracted, lock, owes]) watched.count)
    (fun _ empty => queues ▸ empty) (fun _ => steady.hands) (fun unraced => raced ▸ unraced)
    fun quiet => steady.hands quiet.hands

theorem Watched.timedOut {s : Runtime Call} (watched : s.Watched) (request : Request Call) :
    (s.timedOut request).Watched := by
  have only := s.timedOut_onlyQueues request
  cases request <;> exact watched.steady (.of_queues only) rfl rfl rfl rfl

theorem lock_owes_deleteWorker (s : Runtime Call) (i : WorkerId) :
    ((s.deleteWorker i).lock.elim 0 fun lock => lock.2.owes) = s.lock.elim 0 fun lock => lock.2.owes := by
  unfold deleteWorker
  dsimp only
  split
  next => cases s.lock <;> rfl
  next => rfl

theorem Watched.deleted {s : Runtime Call} {i : WorkerId} (watched : s.Watched) (orderly : s.Orderly)
    (task : s.timerTask = .recover i .delete) (counted : s.CountedOrGone i) :
    Watched { s.deleteWorker i with timerTask := .recover i (afterDelete (s.workers i)) } := by
  have gone := s.deleteWorker_dead i fun pc => by
    by_contra dead
    exact pc (orderly.dead i (by simpa using dead))
  have hands : s.HandsEmpty → (s.deleteWorker i).HandsEmpty := fun hands j => by
    by_cases same : j = i
    · subst same
      rw [gone.2]
      rfl
    · rw [s.deleteWorker_others i same]
      exact hands j
  have kept := s.deleteWorker_onlyWorkers i
  refine watched.frame ?_ (deleteWorker_count watched.count counted ?_)
    (fun queue empty => by rw [← empty, ← kept.queues]) (fun _ => hands) ?_ fun quiet => hands quiet.hands
  · intro owner body held
    obtain ⟨before, was, _⟩ := s.deleteWorker_lock i held
    exact ⟨before, was⟩
  · have was : s.timerTask.owes = 0 := by rw [task]; rfl
    have active : (s.deleteWorker i).activeWorkers = s.activeWorkers := deleteWorker_activeWorkers s i
    simp only [settled, unsubtracted, task_owes_afterDelete, lock_owes_deleteWorker, active, was]
    split
    next => push_cast; omega
    next => push_cast; omega
  · unfold deleteWorker
    dsimp only
    split
    next =>
      dsimp only [Ledger.abandon]
      split <;> exact id
    next => exact id

theorem Watched.subtracted {s : Runtime Call} {i : WorkerId} (watched : s.Watched)
    (task : s.timerTask = .recover i .subtract) :
    Watched { s.subtractWorker with timerTask := .recover i .create } := by
  refine watched.frame (fun owner _ held => ⟨owner, held⟩) ?_ (fun _ empty => empty) (fun _ hands => hands)
    id fun quiet => quiet.hands
  have same : Runtime.settled { s.subtractWorker with timerTask := .recover i .create } = s.settled := by
    simp only [settled, unsubtracted, subtractWorker, task, TimerTask.owes]
    push_cast
    omega
  rw [same]
  exact watched.count

theorem Watched.timer {s after : Runtime Call} {created : Bool} (watched : s.Watched)
    (orderly : s.Orderly) (observed : s.IdleObserved (.timerTask created))
    (taken : s.runTimerTask created = some after) : after.Watched := by
  unfold runTimerTask at taken
  cases task : s.timerTask with
  | idle => simp [task] at taken
  | window | grace | settlement =>
      simp only [task] at taken
      exact watched.acquire taken rfl rfl rfl
  | soft i | hard i =>
      simp only [task, Option.some.injEq] at taken
      subst taken
      exact watched.steady (.of_update rfl rfl rfl) rfl (by rw [task]; rfl) rfl rfl
  | recover i stage =>
      cases stage with
      | exchange =>
          simp only [task] at taken
          split at taken
          next =>
            cases taken
            exact watched.steady (.of_update rfl rfl rfl) rfl (by rw [task]; rfl) rfl rfl
          next =>
            cases taken
            exact watched.steady ⟨rfl, fun _ => rfl⟩ rfl (by rw [task]; rfl) rfl rfl
      | delete =>
          simp only [task, Option.some.injEq] at taken
          subst taken
          exact watched.deleted orderly task (observed i task)
      | subtract =>
          simp only [task, Option.some.injEq] at taken
          subst taken
          exact watched.subtracted task
      | create =>
          simp only [task, Option.some.injEq] at taken
          subst taken
          have idle := (orderly.dead i (orderly.recreated i .create rfl task)).symm
          exact watched.steady (.of_update rfl idle rfl) rfl (by rw [task]; rfl) rfl rfl
      | clearAbort | clearWorking =>
          simp only [task, Option.some.injEq] at taken
          subst taken
          exact watched.steady (.of_update rfl rfl rfl) rfl (by rw [task]; rfl) rfl rfl
      | stop | park => simp [task] at taken

theorem Watched.fire {s after : Runtime Call} {timer : TimerId} (watched : s.Watched)
    (taken : s.fire timer = some after) : after.Watched := by
  unfold Runtime.fire at taken
  split at taken
  next idle =>
    cases timer with
    | window | grace | settlement =>
        simp only [Option.ite_none_right_eq_some, Option.some.injEq] at taken
        obtain ⟨_, rfl⟩ := taken
        exact watched.steady ⟨rfl, fun _ => rfl⟩ rfl (by rw [idle]; rfl) rfl rfl
    | soft i | hard i =>
        simp only [Option.ite_none_right_eq_some, Option.some.injEq] at taken
        obtain ⟨_, rfl⟩ := taken
        exact watched.steady (.of_update rfl rfl rfl) rfl (by rw [idle]; rfl) rfl rfl
  next => cases taken

theorem Watched.workerTimeout {s after : Runtime Call} {i : WorkerId} (watched : s.Watched)
    (moved : (match (s.workers i).pc with
      | .counted work => some (s.setWorker i { s.workers i with pc := .prepare work })
      | .evaluate => some (s.setWorker i { s.workers i with pc := .receive })
      | _ => none) = some after) : after.Watched := by
  have moves : ∀ pc, pc.held = (s.workers i).pc.held → pc.isCounted = (s.workers i).pc.isCounted →
      (s.setWorker i { s.workers i with pc := pc }).Watched := by
    intro pc held counted
    have still : s.HandsEmpty → ∀ j, (Function.update s.workers i { s.workers i with pc := pc } j).pc.held = [] :=
      fun hands => hands_update hands i (held.trans (hands i))
    refine watched.frame (fun owner _ held => ⟨owner, held⟩) (count_update watched.count i ?_)
      (fun _ empty => empty) (fun _ => still) id fun quiet => still quiet.hands
    simp [counts, counted, setWorker, settled, unsubtracted]
  cases pc : (s.workers i).pc with
  | counted | evaluate =>
      simp only [pc, Option.some.injEq] at moved
      subst moved
      exact moves _ (by rw [pc]; rfl) (by rw [pc]; rfl)
  | _ => simp [pc] at moved

theorem Watched.step {s after : Runtime Call} {action : Action Call} (watched : s.Watched)
    (orderly : s.Orderly) (observed : s.IdleObserved action) (taken : s.step action = some after) :
    after.Watched := by
  cases action with
  | request request =>
      simp only [Runtime.step, Option.ite_none_right_eq_some] at taken
      exact watched.acquire taken.2 (by cases request <;> rfl) (by cases request <;> rfl)
        (by cases request <;> rfl)
  | requestTimeout request =>
      simp only [Runtime.step, Option.ite_none_right_eq_some, Option.some.injEq] at taken
      obtain ⟨_, rfl⟩ := taken
      exact watched.timedOut request
  | workTick => exact watched.acquire taken rfl rfl rfl
  | setActiveState | elapse =>
      cases taken
      exact watched.steady ⟨rfl, fun _ => rfl⟩ rfl rfl rfl rfl
  | worker i =>
      simp only [Runtime.step, Option.ite_none_right_eq_some] at taken
      exact watched.worker (workerStep_of_entry taken.2)
  | workerTimeout i =>
      simp only [Runtime.step, Option.ite_none_right_eq_some] at taken
      exact watched.workerTimeout taken.2
  | call i request =>
      simp only [Runtime.step] at taken
      cases pc : (s.workers i).pc with
      | handle =>
          simp only [pc, Option.ite_none_right_eq_some] at taken
          exact watched.acquire taken.2 (by cases request <;> rfl) (by cases request <;> rfl)
            (by cases request <;> rfl)
      | _ => simp [pc] at taken
  | callTimeout i request =>
      simp only [Runtime.step] at taken
      cases pc : (s.workers i).pc with
      | handle =>
          simp only [pc, Option.ite_none_right_eq_some, Option.some.injEq] at taken
          obtain ⟨_, rfl⟩ := taken
          exact watched.timedOut request
      | _ => simp [pc] at taken
  | fire timer => exact watched.fire taken
  | timerTask created =>
      simp only [Runtime.step] at taken
      split at taken
      next => cases taken
      next => exact watched.timer orderly observed taken
  | timerTimeout =>
      simp only [Runtime.step, Option.ite_none_right_eq_some] at taken
      obtain ⟨_, idled⟩ := taken
      cases task : s.timerTask with
      | window | grace | settlement =>
          simp only [task, Option.some.injEq] at idled
          subst idled
          exact watched.steady ⟨rfl, fun _ => rfl⟩ rfl (by rw [task]; rfl) rfl rfl
      | _ => simp [task] at idled
  | advance created => exact watched.advance orderly observed taken

theorem Initial.watched {s : Runtime Call} (initial : s.Initial) : s.Watched := by
  refine watched_free ?_ initial.lock
  rw [settled, unsubtracted, initial.activeWorkers, initial.timerTask, initial.lock]
  refine (Finset.sum_eq_zero fun i _ => ?_).symm
  obtain ⟨live, worker⟩ := initial.workers i
  rw [worker]
  rfl

theorem watched_of_reach {s : Runtime Call} (reached : Reach step Initial IdleObserved s) :
    s.Watched := by
  induction reached with
  | start initial => exact Initial.watched initial
  | next before observed taken watched => exact watched.step (orderly_of_reach before) observed taken

def countedWorkers (s : Runtime Call) : Finset WorkerId :=
  Finset.univ.filter fun i => (s.workers i).live = true ∧ (s.workers i).pc.isCounted = true

theorem countedWorkers_card {s : Runtime Call} (dead : DeadReceive s.workers) :
    (s.countedWorkers.card : Int) = ∑ i, counts (s.workers i) := by
  rw [countedWorkers, Finset.card_filter, Nat.cast_sum]
  refine Finset.sum_congr rfl fun i _ => ?_
  by_cases counted : (s.workers i).pc.isCounted = true
  · have live : (s.workers i).live = true := by
      by_contra gone
      rw [dead i (by simpa using gone)] at counted
      cases counted
    simp [counts, counted, live]
  · simp [counts, counted]

/-- The action reaches `vTaskDelete` for this worker. -/
def Deletes (s : Runtime Call) (action : Action Call) (i : WorkerId) : Prop :=
  match action with
  | .timerTask _ => s.timerTask = .recover i .delete
  | .advance _ => ∃ rest, s.running = .recover i .delete rest
  | _ => False

/-- As well, no recovery deletes a task: its worker is subtracted only afterwards. -/
def Undisturbed (s : Runtime Call) (action : Action Call) : Prop :=
  s.IdleObserved action ∧ ∀ i, s.Deletes action i → (s.workers i).live = false

theorem unsubtracted_kept {s after : Runtime Call} (lock : after.lock = s.lock)
    (owes : after.timerTask.owes = s.timerTask.owes) : after.unsubtracted = s.unsubtracted := by
  rw [unsubtracted, unsubtracted, lock, owes]

theorem unsubtracted_acquire {s after : Runtime Call} {owner : Owner} {body : Section Call}
    (acquired : s.acquire owner body = some after) (owes : body.owes = 0) :
    after.unsubtracted = s.unsubtracted := by
  obtain ⟨free, rfl⟩ := acquire_eq_some acquired
  simp [unsubtracted, free, owes]

theorem unsubtracted_worker {s after : Runtime Call} {i : WorkerId} (step : WorkerStep s i after) :
    after.unsubtracted = s.unsubtracted := by
  cases step with
  | reset work _ pc acquired => exact unsubtracted_acquire acquired rfl
  | evaluate _ pc acquired => exact unsubtracted_acquire acquired rfl
  | take | count | move | finish | leave => rfl

theorem unsubtracted_advance {s after : Runtime Call} {created : Bool} (orderly : s.Orderly)
    (taken : s.advance created = some after) (spared : ∀ i, s.Deletes (.advance created) i →
      (s.workers i).live = false) : after.unsubtracted ≤ s.unsubtracted := by
  obtain ⟨owner, body, held, _, ⟨rfl, rfl⟩ | ⟨_, rfl⟩⟩ := advance_cases taken
  next =>
    have settled := release_settled orderly held
    rw [Runtime.settled, Runtime.settled, release_activeWorkers] at settled
    omega
  next =>
    have task := s.runSection_timerTask body created
    have owes : (s.runSection body created).2.owes = 0 := by
      by_cases deletion : ∃ i rest, body = .recover i .delete rest
      · obtain ⟨i, rest, rfl⟩ := deletion
        have gone : (s.workers i).live = false := spared i ⟨rest, running_held held⟩
        simp only [runSection, section_owes_afterDelete, gone]
        rfl
      · exact runSection_owes created fun i rest is => deletion ⟨i, rest, is⟩
    simp only [unsubtracted, task, Option.elim_some, owes]
    omega

theorem unsubtracted_timer {s after : Runtime Call} {created : Bool}
    (taken : s.runTimerTask created = some after) (spared : ∀ i, s.Deletes (.timerTask created) i →
      (s.workers i).live = false) : after.unsubtracted ≤ s.unsubtracted := by
  have less : ∀ {next : Runtime Call}, next.lock = s.lock → next.timerTask.owes = 0 →
      next.unsubtracted ≤ s.unsubtracted := by
    intro next lock owes
    rw [unsubtracted, unsubtracted, lock, owes]
    omega
  unfold runTimerTask at taken
  cases task : s.timerTask with
  | idle => simp [task] at taken
  | window | grace | settlement =>
      simp only [task] at taken
      exact (unsubtracted_acquire taken rfl).le
  | soft i | hard i =>
      simp only [task, Option.some.injEq] at taken
      subst taken
      exact less rfl rfl
  | recover i stage =>
      cases stage with
      | exchange =>
          simp only [task] at taken
          split at taken
          next =>
            cases taken
            exact less rfl rfl
          next =>
            cases taken
            exact less rfl rfl
      | delete =>
          have gone : (s.workers i).live = false := spared i task
          simp only [task, Option.some.injEq] at taken
          subst taken
          refine less ?_ (by rw [task_owes_afterDelete, gone]; rfl)
          simp [deleteWorker, gone]
      | subtract | create | clearAbort | clearWorking =>
          simp only [task, Option.some.injEq] at taken
          subst taken
          exact less rfl rfl
      | stop | park => simp [task] at taken

theorem unsubtracted_step {s after : Runtime Call} {action : Action Call} (orderly : s.Orderly)
    (spared : ∀ i, s.Deletes action i → (s.workers i).live = false)
    (taken : s.step action = some after) : after.unsubtracted ≤ s.unsubtracted := by
  cases action with
  | request request =>
      simp only [Runtime.step, Option.ite_none_right_eq_some] at taken
      exact (unsubtracted_acquire taken.2 (by cases request <;> rfl)).le
  | requestTimeout request =>
      simp only [Runtime.step, Option.ite_none_right_eq_some, Option.some.injEq] at taken
      obtain ⟨_, rfl⟩ := taken
      cases request <;> exact le_rfl
  | workTick => exact (unsubtracted_acquire taken rfl).le
  | setActiveState | elapse =>
      cases taken
      exact le_rfl
  | worker i =>
      simp only [Runtime.step, Option.ite_none_right_eq_some] at taken
      exact (unsubtracted_worker (workerStep_of_entry taken.2)).le
  | workerTimeout i =>
      simp only [Runtime.step, Option.ite_none_right_eq_some] at taken
      obtain ⟨_, moved⟩ := taken
      cases pc : (s.workers i).pc with
      | counted | evaluate =>
          simp only [pc, Option.some.injEq] at moved
          subst moved
          exact le_rfl
      | _ => simp [pc] at moved
  | call i request =>
      simp only [Runtime.step] at taken
      cases pc : (s.workers i).pc with
      | handle =>
          simp only [pc, Option.ite_none_right_eq_some] at taken
          exact (unsubtracted_acquire taken.2 (by cases request <;> rfl)).le
      | _ => simp [pc] at taken
  | callTimeout i request =>
      simp only [Runtime.step] at taken
      cases pc : (s.workers i).pc with
      | handle =>
          simp only [pc, Option.ite_none_right_eq_some, Option.some.injEq] at taken
          obtain ⟨_, rfl⟩ := taken
          cases request <;> exact le_rfl
      | _ => simp [pc] at taken
  | fire timer =>
      simp only [Runtime.step, Runtime.fire] at taken
      split at taken
      next idle =>
        cases timer <;>
          · simp only [Option.ite_none_right_eq_some, Option.some.injEq] at taken
            obtain ⟨_, rfl⟩ := taken
            refine (unsubtracted_kept ?_ ?_).le
            · rfl
            · rw [idle]
              rfl
      next => cases taken
  | timerTask created =>
      simp only [Runtime.step] at taken
      split at taken
      next => cases taken
      next => exact unsubtracted_timer taken spared
  | timerTimeout =>
      simp only [Runtime.step, Option.ite_none_right_eq_some] at taken
      obtain ⟨_, idled⟩ := taken
      cases task : s.timerTask with
      | window | grace | settlement =>
          simp only [task, Option.some.injEq] at idled
          subst idled
          refine (unsubtracted_kept ?_ ?_).le
          · rfl
          · rw [task]
            rfl
      | _ => simp [task] at idled
  | advance created => exact unsubtracted_advance orderly taken spared

theorem unsubtracted_delete {s after : Runtime Call} {action : Action Call} {i : WorkerId}
    (deletes : s.Deletes action i) (live : (s.workers i).live = true)
    (taken : s.step action = some after) : 0 < after.unsubtracted := by
  cases action with
  | timerTask created =>
      have task : s.timerTask = .recover i .delete := deletes
      simp only [Runtime.step] at taken
      split at taken
      next => cases taken
      next =>
        simp only [runTimerTask, task, Option.some.injEq] at taken
        subst taken
        simp [unsubtracted, afterDelete, live, TimerTask.owes]
  | advance created =>
      obtain ⟨rest, running⟩ := deletes
      obtain ⟨owner, body, held, _, ⟨rfl, _⟩ | ⟨_, rfl⟩⟩ := advance_cases taken
      next =>
        rw [running_held held] at running
        cases running
      next =>
        rw [running_held held] at running
        subst running
        simp [unsubtracted, runSection, afterDelete, live, Section.owes]
  | _ => exact deletes.elim

theorem settled_of_reach {s : Runtime Call} (reached : Reach step Initial Undisturbed s) :
    s.unsubtracted = 0 := by
  induction reached with
  | start initial => simp [unsubtracted, initial.timerTask, initial.lock, TimerTask.owes]
  | next before observed taken settled =>
      have less := unsubtracted_step (orderly_of_reach before) observed.2 taken
      omega

theorem count_of_reach {s : Runtime Call} (reached : Reach step Initial IdleObserved s) :
    s.activeWorkers = s.countedWorkers.card + s.unsubtracted := by
  rw [countedWorkers_card (orderly_of_reach reached).dead, ← (watched_of_reach reached).count, settled]
  omega

/-- Until its subtraction every deletion of a task leaves the counter wrong. -/
theorem deletion_miscounts {s after : Runtime Call} {action : Action Call} {i : WorkerId}
    (reached : Reach step Initial IdleObserved s) (observed : s.IdleObserved action)
    (taken : s.step action = some after) (deletes : s.Deletes action i)
    (live : (s.workers i).live = true) : after.activeWorkers ≠ after.countedWorkers.card := by
  have owed := unsubtracted_delete deletes live taken
  have count := count_of_reach (.next reached observed taken)
  omega

/-- The counter counts the busy workers, and has_work misses none of their items. -/
theorem idle_means_idle {s : Runtime Call} (reached : Reach step Initial IdleObserved s) :
    s.activeWorkers = s.countedWorkers.card + s.unsubtracted ∧
      (Reach step Initial Undisturbed s → s.activeWorkers = s.countedWorkers.card) ∧
        (∀ owner asking, s.lock = some (owner, .idle asking) → s.Quiet) ∧
          ∀ owner, s.lock = some (owner, .sleep .idle) → s.Quiet := by
  have watched := watched_of_reach reached
  refine ⟨count_of_reach reached, ?_, ?_, ?_⟩
  · intro undisturbed
    rw [count_of_reach reached, settled_of_reach undisturbed]
    exact add_zero _
  · intro owner asking held
    exact watched.quiet owner _ held rfl
  · intro owner held
    exact watched.quiet owner _ held rfl

instance (s : Runtime Call) (i : WorkerId) : Decidable (s.CountedOrGone i) :=
  inferInstanceAs (Decidable ((s.workers i).live = true → (s.workers i).pc.isCounted = true))

instance (s : Runtime Call) (body : Section Call) : Decidable (s.SectionObserved body) := by
  unfold SectionObserved
  split <;> infer_instance

instance (s : Runtime Call) (action : Action Call) : Decidable (s.IdleObserved action) :=
  match action with
  | .timerTask _ =>
      inferInstanceAs (Decidable (∀ i, s.timerTask = .recover i .delete → s.CountedOrGone i))
  | .advance _ => inferInstanceAs (Decidable (∀ lock ∈ s.lock, s.SectionObserved lock.2))
  | .request _ | .requestTimeout _ | .workTick | .setActiveState _ | .elapse _ | .worker _
  | .workerTimeout _ | .call _ _ | .callTimeout _ _ | .fire _ | .timerTimeout =>
      inferInstanceAs (Decidable True)

def stuckUserHandler : List (Action Nat) :=
  [.request (.scheduleUserWork (userItem 1))] ++ advances 2 ++ [.workTick] ++ advances 7 ++
    startHandler 0 ++ [.elapse 30000, .fire (.soft 0), .timerTask true, .elapse 10000, .fire (.hard 0)] ++
    List.replicate 7 (.timerTask true) ++ [.elapse 660000, .fire .window, .timerTask true] ++ advances 5

theorem idle_means_idle_recovered :
    ∃ s : Runtime Nat, s.lock = some (.timerTask, .sleep .idle) ∧
      s.ledger.aborted = [⟨0, .user, userItem 1⟩] ∧
      s.activeWorkers = s.countedWorkers.card + s.unsubtracted ∧ s.Quiet := by
  have ran : ((run step booted stuckUserHandler).map fun s => (s.lock, s.ledger.aborted)) =
      some (some (.timerTask, .sleep .idle), [⟨0, .user, userItem 1⟩]) := by decide +kernel
  obtain ⟨s, taken, seen⟩ := Option.map_eq_some_iff.mp ran
  obtain ⟨held, aborted⟩ := Prod.mk.inj seen
  have guarded : Guarded step IdleObserved booted stuckUserHandler := by decide +kernel
  have reached := (Reach.start booted_initial).of_run guarded taken
  obtain ⟨count, _, _, quiet⟩ := idle_means_idle reached
  exact ⟨s, held, aborted, count, quiet _ held⟩

def idleWindow : List (Action Nat) :=
  [.workTick] ++ advances 7 ++ [.elapse 10000, .fire .settlement,
    .request (.scheduleSystemWork (systemItem 1))] ++ advances 2 ++ [.timerTask true]

/-- A worker takes the item between the counter and the queue reads, and is suspended with it. -/
theorem idle_with_item_in_hand :
    ∃ s : Runtime Nat, Reach step Initial Unguarded s ∧ s.lock = some (.timerTask, .sleep .idle) ∧
      s.ledger.accepted = [⟨0, .system, systemItem 1⟩] ∧ s.ledger.completed = [] ∧
      (s.workers 2).pc = .received ⟨0, .system, systemItem 1⟩ := by
  let actions := idleWindow ++ advances 2 ++ [.worker 2] ++ advances 7
  have ran : ((run step booted actions).map fun s =>
      (s.lock, s.ledger.accepted, s.ledger.completed, (s.workers 2).pc)) =
      some (some (.timerTask, .sleep .idle), [⟨0, .system, systemItem 1⟩], [],
        .received ⟨0, .system, systemItem 1⟩) := by decide +kernel
  obtain ⟨s, taken, seen⟩ := Option.map_eq_some_iff.mp ran
  obtain ⟨held, seen⟩ := Prod.mk.inj seen
  obtain ⟨accepted, seen⟩ := Prod.mk.inj seen
  obtain ⟨completed, pc⟩ := Prod.mk.inj seen
  exact ⟨s, (Reach.start booted_initial).of_run (guarded_unguarded _ _ _) taken, held, accepted,
    completed, pc⟩

end Runtime

end WatchFirmware.RuntimeManager
