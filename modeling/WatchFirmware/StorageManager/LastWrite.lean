import WatchFirmware.StorageManager.StorageManager

set_option autoImplicit false

namespace WatchFirmware.StorageManager

open RuntimeManager Transition

namespace StorageWork

def touches (work : StorageWork) (key : StorageKey) : Bool :=
  match work.opType with
  | .save | .eraseKey => decide (work.key.length ≤ 15) && decide (key = ⟨work.appId, work.key⟩)
  | .eraseAll => decide (key.appId = work.appId)

def leaves (work : StorageWork) : Option (List Byte) :=
  match work.opType with
  | .save => some work.data
  | .eraseKey | .eraseAll => none

end StorageWork

theorem execute_apply (nvs : Nvs) (work : StorageWork) (key : StorageKey) :
    storageManagerExecuteWork nvs work key = if work.touches key then work.leaves else nvs key := by
  cases op : work.opType with
  | save | eraseKey =>
      simp only [storageManagerExecuteWork, StorageWork.touches, StorageWork.leaves, op]
      by_cases short : work.key.length ≤ 15
      · by_cases same : key = ⟨work.appId, work.key⟩
        · subst same
          simp [short, Nvs.setBlob, Nvs.eraseKey]
        · simp [short, same, Nvs.setBlob, Nvs.eraseKey]
      · simp [short]
  | eraseAll => simp [storageManagerExecuteWork, StorageWork.touches, StorageWork.leaves, op, Nvs.eraseAll]

variable {Other : Type}

def perform (nvs : Nvs) (work : Work (Call Other)) : Nvs :=
  match storageOperation work.item with
  | some op => storageManagerExecuteWork nvs op
  | none => nvs

def performAll (works : List (Work (Call Other))) (nvs : Nvs) : Nvs := works.foldl perform nvs

def Touches (work : Work (Call Other)) (key : StorageKey) : Bool :=
  match storageOperation work.item with
  | some op => op.touches key
  | none => false

def effect : Replay.Effect (Work (Call Other)) StorageKey (Option (List Byte)) where
  touches := Touches
  leaves := fun work _ => (storageOperation work.item).bind StorageWork.leaves

theorem perform_apply (nvs : Nvs) (work : Work (Call Other)) :
    perform nvs work = Replay.apply effect nvs work := by
  funext key
  cases isOp : storageOperation work.item with
  | none => simp [perform, Replay.apply, effect, Touches, isOp]
  | some op => simp [perform, Replay.apply, effect, Touches, isOp, execute_apply]

theorem performAll_run (works : List (Work (Call Other))) (nvs : Nvs) :
    performAll works nvs = Replay.run effect works nvs := by
  unfold performAll Replay.run
  rw [show (perform : Nvs → Work (Call Other) → Nvs) = Replay.apply effect from
    funext fun nvs => funext fun work => perform_apply nvs work]

theorem performAll_snoc (works : List (Work (Call Other))) (work : Work (Call Other)) (nvs : Nvs) :
    performAll (works ++ [work]) nvs = perform (performAll works nvs) work := by
  simp [performAll]

theorem touches_operation {work : Work (Call Other)} {key : StorageKey} (touches : Touches work key = true) :
    (storageOperation work.item).isSome = true := by
  unfold Touches at touches
  cases op : storageOperation work.item with
  | none => simp [op] at touches
  | some op => rfl

theorem eq_of_increasing {first second : List (Work (Call Other))}
    (firstUp : first.Pairwise fun one other => one.id < other.id)
    (secondUp : second.Pairwise fun one other => one.id < other.id)
    (same : ∀ work, work ∈ first ↔ work ∈ second) : first = second := by
  have antisymm : Std.Antisymm fun one other : Work (Call Other) => one.id < other.id :=
    ⟨fun _ _ one other => absurd one (Nat.lt_asymm other)⟩
  have irrefl : Std.Irrefl fun one other : Work (Call Other) => one.id < other.id :=
    ⟨fun _ => Nat.lt_irrefl _⟩
  exact firstUp.eq_of_mem_iff secondUp same

namespace Storage

/-- No worker takes an operation on the key while another one has still to execute its own. -/
def Separate (key : StorageKey) (s : Storage Other) : Action Other → Prop
  | .runtime (.worker i) =>
      match (s.runtime.workers i).pc, s.runtime.queues (workerType i) with
      | .receive, work :: _ => Touches work key = true →
          ∀ j, ∀ other ∈ s.runtime.held j, Touches other key = true → other ∈ s.executed
      | _, _ => True
  | _ => True

theorem runtime_of_step {s after : Storage Other} {action : Action Other}
    (taken : s.step action = some after) :
    (after.runtime = s.runtime) ∨ ∃ below, s.runtime.step below = some after.runtime := by
  cases action with
  | storage caller request timesOut =>
      simp only [step] at taken
      cases valid : request.work with
      | none =>
          simp only [valid, Option.some.injEq] at taken
          exact .inl (by rw [taken])
      | some work =>
          simp only [valid, Option.map_eq_some_iff] at taken
          obtain ⟨next, moved, rfl⟩ := taken
          exact .inr ⟨_, moved⟩
  | execute i =>
      simp only [step, Option.ite_none_right_eq_some, Option.map_eq_some_iff] at taken
      obtain ⟨_, ⟨work, op⟩, _, rfl⟩ := taken
      exact .inl rfl
  | runtime action =>
      simp only [step, Option.ite_none_right_eq_some, Option.map_eq_some_iff] at taken
      obtain ⟨_, next, moved, rfl⟩ := taken
      exact .inr ⟨action, moved⟩

theorem runtime_reach {first : Nvs} {guard : Storage Other → Action Other → Prop} {s : Storage Other}
    (reached : Reach step (Initial first) guard s) :
    Reach Runtime.step Runtime.Initial Unguarded s.runtime := by
  induction reached with
  | start initial => exact .start (Initial.runtime initial)
  | next _ _ taken below =>
      rcases runtime_of_step taken with same | ⟨action, moved⟩
      · rw [same]
        exact below
      · exact .next below trivial moved

structure Systemic (s : Storage Other) : Prop where
  running : ∀ queue item, s.runtime.running = .scheduleWork queue item →
    (storageOperation item).isSome = true → queue = .system
  entered : ∀ work ∈ s.runtime.ledger.entered, (storageOperation work.item).isSome = true →
    work.queue = .system

theorem foreign_schedules {action : Runtime.Action (Call Other)} {queue : WorkType}
    {item : WorkItem (Call Other)} (isForeign : foreign action = true)
    (schedules : Runtime.Schedules action queue item ∨ Runtime.TimesOut action queue item) :
    (storageOperation item).isNone = true := by
  rcases schedules with (rfl | ⟨i, rfl⟩) | rfl | ⟨i, rfl⟩ <;> exact isForeign

theorem schedule_schedules {caller : Option WorkerId} {work : StorageWork} {timesOut : Bool}
    {queue : WorkType} {item : WorkItem (Call Other)}
    (schedules : Runtime.Schedules (schedule caller work timesOut) queue item ∨
      Runtime.TimesOut (schedule caller work timesOut) queue item) : queue = .system := by
  cases caller <;> cases timesOut <;>
    simp [schedule, Runtime.Schedules, Runtime.TimesOut, Runtime.Request.scheduleSystemWork] at schedules <;>
      exact schedules.1.symm

def SchedulesSystem (action : Runtime.Action (Call Other)) : Prop :=
  ∀ queue item, (Runtime.Schedules action queue item ∨ Runtime.TimesOut action queue item) →
    (storageOperation item).isSome = true → queue = .system

theorem Systemic.moved {s : Storage Other} {action : Runtime.Action (Call Other)}
    {next : Runtime (Call Other)} (systemic : s.Systemic) (schedules : SchedulesSystem action)
    (orderly : s.runtime.Orderly) (taken : s.runtime.step action = some next) :
    ({ s with runtime := next } : Storage Other).Systemic := by
  refine ⟨fun queue item running isOp => ?_, fun work member isOp => ?_⟩
  · rcases Runtime.scheduled_of_step taken running with before | new
    · exact systemic.running queue item before isOp
    · exact schedules queue item (.inl new) isOp
  · have flow := Runtime.flow_of_step orderly taken
    have old := systemic.entered work
    have entering : ∀ {new : Work (Call Other)}, work ∈ s.runtime.ledger.entered ++ [new] →
        ((storageOperation new.item).isSome = true → new.queue = .system) → work.queue = .system := by
      intro new member system
      rcases List.mem_append.mp member with before | isNew
      · exact old before isOp
      · rw [List.mem_singleton.mp isNew] at isOp ⊢
        exact system isOp
    have member : work ∈ next.items.ledger.entered := member
    generalize next.items = items at flow member
    cases flow with
    | still | take | finish | drain | drop | purge => exact old member isOp
    | send queue item running => exact entering member fun isOp => systemic.running queue item running isOp
    | defer queue item running => exact entering member fun isOp => systemic.running queue item running isOp
    | refuse queue item timesOut => exact entering member fun isOp => schedules queue item (.inr timesOut) isOp
    | hook => exact entering member fun _ => rfl
    | abandon i =>
        obtain ⟨_, entered, -⟩ := Runtime.abandon_rest s.runtime.ledger (s.runtime.workers i).pc
        simp only [Ledger.unmarked, entered] at member
        exact old member isOp

/-- The operations on the key were executed in the order of their calls, and the one operation on it
that is still to be executed comes behind them. -/
structure InOrder (first : Nvs) (key : StorageKey) (s : Storage Other) : Prop where
  nvs : s.nvs = performAll s.executed first
  taken : ∀ work ∈ s.executed, work ∈ s.runtime.ledger.taken .system
  done : ∀ work ∈ s.runtime.ledger.completed, (storageOperation work.item).isSome = true →
    work ∈ s.executed
  sorted : (Replay.touching effect key s.executed).Pairwise fun one other => one.id < other.id
  behind : ∀ i, ∀ work ∈ s.runtime.held i, Touches work key = true → work ∉ s.executed →
    ∀ before ∈ s.executed, Touches before key = true → before.id < work.id
  alone : ∀ i, ∀ one ∈ s.runtime.held i, ∀ j, ∀ other ∈ s.runtime.held j, Touches one key = true →
    Touches other key = true → one ∉ s.executed → other ∉ s.executed → one = other

section Runs

variable {first : Nvs} {key : StorageKey} {s : Storage Other}

theorem operating_some {i : WorkerId} {work : Work (Call Other)} {op : StorageWork}
    (operating : s.operating i = some (work, op)) :
    work ∈ s.runtime.held i ∧ storageOperation work.item = some op ∧ work ∉ s.executed := by
  unfold Storage.operating at operating
  cases pc : (s.runtime.workers i).pc with
  | handle held awake =>
      simp only [pc, Option.ite_none_left_eq_some, Option.map_eq_some_iff, Prod.mk.injEq] at operating
      obtain ⟨fresh, found, isOp, rfl, rfl⟩ := operating
      refine ⟨by simp [Runtime.held, pc, WorkerPc.held], isOp, fun old => fresh ?_⟩
      exact List.any_eq_true.mpr ⟨held, old, by simp⟩
  | _ => simp [pc] at operating

theorem held_system (accounted : s.runtime.Accounted) (systemic : s.Systemic) {i : WorkerId}
    {work : Work (Call Other)} (held : work ∈ s.runtime.held i)
    (isOp : (storageOperation work.item).isSome = true) : work ∈ s.runtime.ledger.taken .system := by
  have taken := accounted.traced.received i work held
  have entered := accounted.traced.entered (workerType i) work
    (List.mem_append_left _ (List.mem_append_left _ taken))
  have own := accounted.traced.typed (workerType i) work taken
  rw [← systemic.entered work entered isOp, own]
  exact taken

theorem next_behind (accounted : s.runtime.Accounted) {queue : WorkType} {work : Work (Call Other)}
    {rest : List (Work (Call Other))} (list : s.runtime.queues queue = work :: rest)
    {before : Work (Call Other)} (taken : before ∈ s.runtime.ledger.taken queue) : before.id < work.id := by
  have line := (accounted.booked.line queue).increasing
  simp only [Items.line, Runtime.items, List.append_assoc] at line
  exact (List.pairwise_append.mp line).2.2 before taken work (by simp [list])

theorem InOrder.execute {i : WorkerId} {work : Work (Call Other)} {op : StorageWork}
    (inOrder : s.InOrder first key) (accounted : s.runtime.Accounted) (systemic : s.Systemic)
    (operating : s.operating i = some (work, op)) :
    InOrder first key { s with
      nvs := storageManagerExecuteWork s.nvs op, executed := s.executed ++ [work] } := by
  obtain ⟨held, isOp, fresh⟩ := operating_some operating
  have some_op : (storageOperation work.item).isSome = true := by rw [isOp]; rfl
  refine ⟨?_, ?_, ?_, ?_, ?_, ?_⟩
  · rw [performAll_snoc, ← inOrder.nvs, perform, isOp]
  · intro other member
    rcases List.mem_append.mp member with old | new
    · exact inOrder.taken other old
    · rw [List.mem_singleton.mp new]
      exact held_system accounted systemic held some_op
  · exact fun other completed isOp => List.mem_append_left _ (inOrder.done other completed isOp)
  · simp only [Replay.touching, List.filter_append]
    refine List.pairwise_append.mpr ⟨inOrder.sorted, ?_, ?_⟩
    · exact (List.pairwise_singleton _ work).sublist List.filter_sublist
    · intro before old new isNew
      obtain ⟨isWork, touches⟩ := List.mem_filter.mp isNew
      obtain ⟨executed, touched⟩ := List.mem_filter.mp old
      rw [List.mem_singleton.mp isWork] at touches ⊢
      exact inOrder.behind i work held touches fresh before executed touched
  · intro j other isHeld touches unexecuted before executed touched
    have apart : other ∉ s.executed := fun old => unexecuted (List.mem_append_left _ old)
    rcases List.mem_append.mp executed with old | new
    · exact inOrder.behind j other isHeld touches apart before old touched
    · rw [List.mem_singleton.mp new] at touched
      have same := inOrder.alone i work held j other isHeld touched touches fresh apart
      exact absurd (List.mem_append_right _ (by simp [same])) unexecuted
  · intro j one isOne k other isOther touchesOne touchesOther freshOne freshOther
    exact inOrder.alone j one isOne k other isOther touchesOne touchesOther
      (fun old => freshOne (List.mem_append_left _ old))
      (fun old => freshOther (List.mem_append_left _ old))

theorem executed_of_returns {i : WorkerId} {work : Work (Call Other)} {awake : Bool}
    (inOrder : s.InOrder first key) (accounted : s.runtime.Accounted)
    (returns : s.mayStep (.worker i) = true) (pc : (s.runtime.workers i).pc = .handle work awake)
    (isOp : (storageOperation work.item).isSome = true) : work ∈ s.executed := by
  have entered : ∀ queue, ∀ other ∈ s.runtime.ledger.taken queue, other ∈ s.runtime.ledger.entered :=
    fun queue other taken => accounted.traced.entered queue other
      (List.mem_append_left _ (List.mem_append_left _ taken))
  have held : work ∈ s.runtime.held i := by simp [Runtime.held, pc, WorkerPc.held]
  obtain ⟨op, isOp⟩ := Option.isSome_iff_exists.mp isOp
  simp only [mayStep, Storage.operating, pc, isOp, Option.map_some] at returns
  by_cases executed : (s.executed.any fun other => decide (other.id = work.id)) = true
  · obtain ⟨other, member, same⟩ := List.any_eq_true.mp executed
    have unique := accounted.booked.unique (entered _ other (inOrder.taken other member))
      (entered _ work (accounted.traced.received i work held)) (of_decide_eq_true same)
    rwa [← unique]
  · simp [executed] at returns

theorem InOrder.moved {action : Runtime.Action (Call Other)} {next : Runtime (Call Other)}
    (inOrder : s.InOrder first key) (accounted : s.runtime.Accounted) (systemic : s.Systemic)
    (orderly : s.runtime.Orderly) (separate : s.Separate key (.runtime action))
    (returns : s.mayStep action = true) (taken : s.runtime.step action = some next) :
    InOrder first key { s with runtime := next } := by
  have flow := Runtime.flow_of_step orderly taken
  have received : ∀ work ∈ s.executed, work ∈ next.ledger.taken .system := fun work executed =>
    flow.taken_mono .system work (inOrder.taken work executed)
  have done : ∀ work ∈ next.ledger.completed, (storageOperation work.item).isSome = true →
      work ∈ s.executed := by
    intro work completed isOp
    rcases flow.completed_cases with same | ⟨i, finished, awake, rfl, pc, more⟩
    · rw [show next.ledger.completed = _ from same] at completed
      exact inOrder.done work completed isOp
    · rw [show next.ledger.completed = _ from more] at completed
      rcases List.mem_append.mp completed with old | new
      · exact inOrder.done work old isOp
      · obtain rfl := List.mem_singleton.mp new
        exact executed_of_returns inOrder accounted returns pc isOp
  rcases flow.held_cases with fewer | ⟨i, head, rest, rfl, pc, list, held⟩
  · refine ⟨inOrder.nvs, received, done, inOrder.sorted, ?_, ?_⟩
    · exact fun i work isHeld => inOrder.behind i work (fewer i work isHeld)
    · exact fun i one isOne j other isOther =>
        inOrder.alone i one (fewer i one isOne) j other (fewer j other isOther)
  · have origin : ∀ j, ∀ work ∈ next.held j, work ∈ s.runtime.held j ∨ work = head := by
      intro j work isHeld
      rw [show next.held = _ from held] at isHeld
      by_cases same : j = i
      · subst same
        rw [Function.update_self] at isHeld
        exact .inr (List.mem_singleton.mp isHeld)
      · rw [Function.update_of_ne same] at isHeld
        exact .inl isHeld
    have others : Touches head key = true → ∀ j, ∀ other ∈ s.runtime.held j,
        Touches other key = true → other ∈ s.executed := by
      simpa only [Separate, pc, list] using separate
    refine ⟨inOrder.nvs, received, done, inOrder.sorted, ?_, ?_⟩
    · intro j work isHeld touches fresh before executed touched
      rcases origin j work isHeld with old | rfl
      · exact inOrder.behind j work old touches fresh before executed touched
      · have own : work.queue = workerType i := (accounted.booked.queued (workerType i)) work (by
          rw [show s.runtime.items.queues = s.runtime.queues from rfl, list]
          exact List.mem_cons_self)
        have entered := accounted.traced.entered (workerType i) work (by
          simp [Items.line, Runtime.items, list])
        have system := systemic.entered work entered (touches_operation touches)
        rw [system] at own
        rw [← own] at list
        exact next_behind accounted list (inOrder.taken before executed)
    · intro j one isOne k other isOther touchesOne touchesOther freshOne freshOther
      rcases origin j one isOne with oldOne | rfl
      · rcases origin k other isOther with oldOther | rfl
        · exact inOrder.alone j one oldOne k other oldOther touchesOne touchesOther freshOne freshOther
        · exact absurd (others touchesOther j one oldOne touchesOne) freshOne
      · rcases origin k other isOther with oldOther | rfl
        · exact absurd (others touchesOne k other oldOther touchesOther) freshOther
        · rfl

structure Ordered (first : Nvs) (key : StorageKey) (s : Storage Other) : Prop where
  systemic : s.Systemic
  inOrder : s.InOrder first key

theorem Ordered.step {after : Storage Other} {action : Action Other} (ordered : s.Ordered first key)
    (accounted : s.runtime.Accounted) (orderly : s.runtime.Orderly) (separate : s.Separate key action)
    (taken : s.step action = some after) : after.Ordered first key := by
  obtain ⟨systemic, inOrder⟩ := ordered
  cases action with
  | storage caller request timesOut =>
      simp only [Storage.step] at taken
      cases valid : request.work with
      | none =>
          simp only [valid, Option.some.injEq] at taken
          exact taken ▸ ⟨systemic, inOrder⟩
      | some work =>
          simp only [valid, Option.map_eq_some_iff] at taken
          obtain ⟨next, moved, rfl⟩ := taken
          refine ⟨systemic.moved ?_ orderly moved,
            inOrder.moved accounted systemic orderly ?_ ?_ moved⟩
          · exact fun queue item schedules _ => schedule_schedules schedules
          · cases caller <;> cases timesOut <;> trivial
          · cases caller <;> cases timesOut <;> rfl
  | execute i =>
      simp only [Storage.step, Option.ite_none_right_eq_some, Option.map_eq_some_iff] at taken
      obtain ⟨_, ⟨work, op⟩, operating, rfl⟩ := taken
      exact ⟨⟨systemic.running, systemic.entered⟩, inOrder.execute accounted systemic operating⟩
  | runtime action =>
      simp only [Storage.step, Option.ite_none_right_eq_some, Option.map_eq_some_iff,
        Bool.and_eq_true] at taken
      obtain ⟨⟨isForeign, returns⟩, next, moved, rfl⟩ := taken
      refine ⟨systemic.moved ?_ orderly moved,
        inOrder.moved accounted systemic orderly separate returns moved⟩
      intro queue item schedules isOp
      have noOp := foreign_schedules isForeign schedules
      rw [Option.isNone_iff_eq_none.mp noOp] at isOp
      cases isOp

theorem Initial.ordered (initial : s.Initial first) : s.Ordered first key := by
  have idle : ∀ i, s.runtime.held i = [] := by
    intro i
    obtain ⟨live, worker⟩ := initial.runtime.workers i
    rw [Runtime.held, worker]
    rfl
  refine ⟨⟨?_, ?_⟩, ?_, ?_, ?_, ?_, ?_, ?_⟩
  · intro queue item running
    rw [Runtime.running, initial.runtime.lock] at running
    cases running
  · rw [initial.runtime.ledger]
    exact List.forall_mem_nil _
  · rw [initial.nvs, initial.executed]
    rfl
  · rw [initial.executed]
    exact List.forall_mem_nil _
  · rw [initial.runtime.ledger]
    exact List.forall_mem_nil _
  · rw [initial.executed]
    exact List.Pairwise.nil
  · intro i
    rw [idle i]
    exact List.forall_mem_nil _
  · intro i
    rw [idle i]
    exact List.forall_mem_nil _

theorem ordered_of_reach (reached : Reach Storage.step (Initial first) (Separate key) s) :
    s.Ordered first key := by
  induction reached with
  | start initial => exact Initial.ordered initial
  | next before separate taken ordered =>
      have below := runtime_reach before
      exact ordered.step (Runtime.accounted_of_reach below) (Runtime.orderly_of_reach below) separate taken

end Runs

/-- With the operations on a key taken one after another, its value is what the calls leave in order. -/
theorem last_write_wins {first : Nvs} {key : StorageKey} {s : Storage Other}
    (reached : Reach step (Initial first) (Separate key) s)
    (finished : ∀ work ∈ s.runtime.ledger.accepted, (storageOperation work.item).isSome = true →
      work ∈ s.runtime.ledger.completed) :
    s.nvs key = performAll s.runtime.ledger.accepted first key := by
  obtain ⟨_, inOrder⟩ := ordered_of_reach reached
  have accounted := Runtime.accounted_of_reach (runtime_reach reached)
  have called : (Replay.touching effect key s.runtime.ledger.accepted).Pairwise
      fun one other => one.id < other.id :=
    ((accounted.booked.increasing.sublist accounted.booked.accepted).sublist List.filter_sublist)
  have same : Replay.touching effect key s.executed =
      Replay.touching effect key s.runtime.ledger.accepted := by
    refine eq_of_increasing inOrder.sorted called fun work => ?_
    simp only [Replay.touching, List.mem_filter]
    refine and_congr_left fun touches => ⟨fun executed => ?_, fun accepted => ?_⟩
    · have entered := accounted.traced.entered .system work
        (List.mem_append_left _ (List.mem_append_left _ (inOrder.taken work executed)))
      rcases accounted.traced.foreign work entered with accepted | ⟨hook, isHook⟩
      · exact accepted
      · have isOp := touches_operation touches
        simp [storageOperation, isHook] at isOp
    · have isOp := touches_operation touches
      exact inOrder.done work (finished work accepted isOp) isOp
  rw [inOrder.nvs, performAll_run, performAll_run]
  exact Replay.run_eq_of_touching effect same

instance [DecidableEq Other] (key : StorageKey) (s : Storage Other) (action : Action Other) :
    Decidable (s.Separate key action) := by
  unfold Separate
  split
  · split <;> infer_instance
  · infer_instance

def booted : Storage Nat where
  runtime :=
    { window := ⟨.sleep, .uiActive, [], 0, 0, .stopped, .stopped, .stopped⟩
      queues := fun _ => []
      pendings := fun _ => []
      activeWorkers := 0
      workers := fun i => ⟨true, true, false, false,
        if workerType i = .user then some .stopped else none,
        if workerType i = .user then some .stopped else none, .receive⟩
      lock := none
      timerTask := .idle
      now := 1000
      ledger := ⟨0, [], [], fun _ => [], [], [], [], [], 0, false⟩ }
  nvs := fun _ => none
  executed := []

theorem booted_initial : booted.Initial fun _ => none :=
  ⟨⟨rfl, rfl, rfl, rfl, fun _ => ⟨true, rfl⟩, rfl, rfl, by decide, rfl⟩, rfl, rfl⟩

def onRuntime (actions : List (Runtime.Action (Call Nat))) : List (Action Nat) := actions.map .runtime

def advances (count : Nat) : List (Action Nat) := onRuntime (List.replicate count (.advance true))

def startHandler (i : WorkerId) : List (Action Nat) :=
  onRuntime [.worker i, .worker i, .worker i] ++ advances 2 ++ onRuntime [.worker i, .worker i]

def level : StorageKey := ⟨1, [76, 86, 76]⟩

def saveLevel (value : Byte) : List (Action Nat) :=
  .storage none (.saveKey level.appId (some level.key) (some [value]) 1) false :: advances 2

def twoSaves : List (Action Nat) := saveLevel 30 ++ saveLevel 80 ++ onRuntime [.workTick] ++ advances 6

theorem last_write_wins_twice :
    ∃ s : Storage Nat, s.nvs level = some [80] ∧
      s.nvs level = performAll s.runtime.ledger.accepted (fun _ => none) level := by
  let actions := twoSaves ++ startHandler 2 ++ [.execute 2] ++ startHandler 3 ++ [.execute 3] ++
    onRuntime [.worker 2, .worker 3]
  have ran : ((run step booted actions).map fun s => (s.nvs level,
      decide (∀ work ∈ s.runtime.ledger.accepted, work ∈ s.runtime.ledger.completed))) =
      some (some [80], true) := by decide +kernel
  obtain ⟨s, taken, seen⟩ := Option.map_eq_some_iff.mp ran
  obtain ⟨value, finished⟩ := Prod.mk.inj seen
  have guarded : Guarded step (Separate level) booted actions := by decide +kernel
  have reached := (Reach.start booted_initial).of_run guarded taken
  exact ⟨s, value, last_write_wins reached fun work accepted _ =>
    of_decide_eq_true finished work accepted⟩

/-- Two workers take the saves, and the second save is written first. -/
theorem stale_save_wins :
    ∃ s : Storage Nat, Reach step (Initial fun _ => none) Unguarded s ∧
      (∀ work ∈ s.runtime.ledger.accepted, work ∈ s.runtime.ledger.completed) ∧
      s.nvs level = some [30] ∧
      performAll s.runtime.ledger.accepted (fun _ => none) level = some [80] := by
  let actions := twoSaves ++ startHandler 2 ++ startHandler 3 ++ [.execute 3, .execute 2] ++
    onRuntime [.worker 2, .worker 3]
  have ran : ((run step booted actions).map fun s => (s.nvs level,
      performAll s.runtime.ledger.accepted (fun _ => none) level,
      decide (∀ work ∈ s.runtime.ledger.accepted, work ∈ s.runtime.ledger.completed))) =
      some (some [30], some [80], true) := by decide +kernel
  obtain ⟨s, taken, seen⟩ := Option.map_eq_some_iff.mp ran
  obtain ⟨value, seen⟩ := Prod.mk.inj seen
  obtain ⟨called, finished⟩ := Prod.mk.inj seen
  exact ⟨s, (Reach.start booted_initial).of_run (guarded_unguarded _ _ _) taken,
    of_decide_eq_true finished, value, called⟩

end Storage

end WatchFirmware.StorageManager
