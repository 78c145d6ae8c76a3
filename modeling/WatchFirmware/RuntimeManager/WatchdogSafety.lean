import WatchFirmware.RuntimeManager.Watchdog

set_option autoImplicit false

namespace WatchFirmware.RuntimeManager

open Transition

variable {Call : Type}

namespace Runtime

theorem isWatched_rest {pc : WorkerPc Call} (unwatched : pc.isWatched = false) :
    pc.isLaunch = false ∧ pc.isHandle = false ∧ pc.isHandling = false ∧
      ∀ isUserTask, pc ≠ .handled isUserTask ∧ pc ≠ .stopping isUserTask := by
  cases pc with
  | receive | received | counted | prepare | leaving | evaluate => exact ⟨rfl, rfl, rfl, fun _ => ⟨by simp, by simp⟩⟩
  | launch | handle | handled | stopping => cases unwatched

structure Tended (v : Watch Call) : Prop where
  softMade : v.softMade = true
  hardMade : v.hardMade = true
  single : v.soft = true → v.hard = false ∧ v.grip ≠ .soft
  pending : v.grip = .soft → v.pc.isWatched = true
  seized : v.grip ≠ .none → v.hard = false
  idle : v.pc.isWatched = false → v.soft = false ∧ v.hard = false
  launch : v.pc.isLaunch = true → v.soft = true ∨ v.hard = true ∨ v.grip = .soft ∨ v.grip = .hard ∨
    v.grip = .exchange
  handle : v.pc.isHandle = true → v.soft = true ∨ v.hard = true ∨ v.grip.attends = true
  working : v.pc.isHandle = true → v.working = true ∨ v.grip = .delete
  resting : v.pc.isHandling = false → v.working = false ∨ v.grip = .emptied
  flag : ∀ isUserTask, v.pc = .handled isUserTask ∨ v.pc = .stopping isUserTask → isUserTask = true

section Tended

variable {i : WorkerId} {v : Watch Call} {pc : WorkerPc Call}

theorem Tended.rests (tended : Tended v) (still : v.soft = false ∧ v.hard = false)
    (calm : v.grip ≠ .soft) (unwatched : pc.isWatched = false)
    (resting : v.working = false ∨ v.grip = .emptied) : Tended ({ v with pc } : Watch Call) := by
  obtain ⟨notLaunch, notHandle, _, notDone⟩ := isWatched_rest unwatched
  refine { tended with
    pending := ?_, idle := ?_, launch := ?_, handle := ?_, working := ?_, resting := ?_, flag := ?_ }
  · exact fun soft => absurd soft calm
  · exact fun _ => still
  · exact fun launch => by rw [notLaunch] at launch; cases launch
  · exact fun handle => by rw [notHandle] at handle; cases handle
  · exact fun handle => by rw [notHandle] at handle; cases handle
  · exact fun _ => resting
  · exact fun isUserTask done => absurd done (not_or.mpr (notDone isUserTask))

theorem Tended.calm (tended : Tended v) (unwatched : v.pc.isWatched = false) : v.grip ≠ .soft := by
  intro soft
  have watched := tended.pending soft
  rw [unwatched] at watched
  cases watched

theorem Tended.stopped (tended : Tended v) (grip : Grip) (pending : grip = .soft → v.pc.isWatched = true)
    (launch : v.pc.isLaunch = true → grip = .soft ∨ grip = .hard ∨ grip = .exchange)
    (handle : v.pc.isHandle = true → grip.attends = true)
    (working : v.pc.isHandle = true → v.working = true ∨ grip = .delete)
    (resting : v.pc.isHandling = false → v.working = false ∨ grip = .emptied) :
    Tended ({ v with soft := false, hard := false, grip } : Watch Call) where
  softMade := tended.softMade
  hardMade := tended.hardMade
  single := fun soft => by cases soft
  pending := pending
  seized := fun _ => rfl
  idle := fun _ => ⟨rfl, rfl⟩
  launch := fun isLaunch => .inr (.inr (launch isLaunch))
  handle := fun isHandle => .inr (.inr (handle isHandle))
  working := working
  resting := resting
  flag := tended.flag

theorem Tended.start (tended : Tended v) {work : Work Call} (pc : v.pc = .prepare work) :
    Tended ({ v with pc := .launch work, soft := true } : Watch Call) := by
  have unwatched : v.pc.isWatched = false := by rw [pc]; rfl
  refine { tended with
    single := ?_, pending := ?_, idle := ?_, launch := ?_, handle := ?_, working := ?_, resting := ?_, flag := ?_ }
  · exact fun _ => ⟨(tended.idle unwatched).2, tended.calm unwatched⟩
  · exact fun _ => rfl
  · exact fun idle => by cases idle
  · exact fun _ => .inl rfl
  · exact fun handle => by cases handle
  · exact fun handle => by cases handle
  · exact fun _ => tended.resting (isWatched_rest unwatched).2.2.1
  · rintro isUserTask (done | done) <;> cases done

theorem Tended.launches (tended : Tended v) {work : Work Call} {awake : Bool} (pc : v.pc = .launch work) :
    Tended ({ v with pc := .handle work awake, working := true } : Watch Call) := by
  refine { tended with
    pending := ?_, idle := ?_, launch := ?_, handle := ?_, working := ?_, resting := ?_, flag := ?_ }
  · exact fun _ => rfl
  · exact fun idle => by cases idle
  · exact fun launch => by cases launch
  · intro _
    -- the hard callback may be on its way already; it recovers the handler or finds it working
    rcases tended.launch (by rw [pc]; rfl) with soft | hard | grip | grip | grip
    · exact .inl soft
    · exact .inr (.inl hard)
    · exact .inr (.inr (by rw [grip]; rfl))
    · exact .inr (.inr (by rw [grip]; rfl))
    · exact .inr (.inr (by rw [grip]; rfl))
  · exact fun _ => .inl rfl
  · exact fun resting => by cases resting
  · rintro isUserTask (done | done) <;> cases done

theorem Tended.finish (tended : Tended v) {isUserTask : Bool} (isUser : isUserTask = true) :
    Tended ({ v with pc := .handled isUserTask } : Watch Call) := by
  refine { tended with
    pending := ?_, idle := ?_, launch := ?_, handle := ?_, working := ?_, resting := ?_, flag := ?_ }
  · exact fun _ => rfl
  · exact fun idle => by cases idle
  · exact fun launch => by cases launch
  · exact fun handle => by cases handle
  · exact fun handle => by cases handle
  · exact fun resting => by cases resting
  · rintro flag (done | done)
    · cases done
      exact isUser
    · cases done

theorem Tended.idles (tended : Tended v) {isUserTask : Bool} (pc : v.pc = .handled isUserTask) :
    Tended ({ v with pc := .stopping isUserTask, working := false } : Watch Call) := by
  refine { tended with
    pending := ?_, idle := ?_, launch := ?_, handle := ?_, working := ?_, resting := ?_, flag := ?_ }
  · exact fun _ => rfl
  · exact fun idle => by cases idle
  · exact fun launch => by cases launch
  · exact fun handle => by cases handle
  · exact fun handle => by cases handle
  · exact fun _ => .inl rfl
  · rintro flag (done | done)
    · cases done
    · cases done
      exact tended.flag _ (.inl pc)

theorem Tended.stop (tended : Tended v) {isUserTask : Bool} (pc : v.pc = .stopping isUserTask)
    (calm : v.grip ≠ .soft) : Tended ({ v with pc := .leaving, soft := false, hard := false } : Watch Call) := by
  have notHandling : v.pc.isHandling = false := by rw [pc]; rfl
  have still : Tended ({ v with soft := false, hard := false } : Watch Call) := by
    refine tended.stopped v.grip tended.pending ?_ ?_ ?_ tended.resting
    · exact fun launch => by rw [pc] at launch; cases launch
    · exact fun handle => by rw [pc] at handle; cases handle
    · exact fun handle => by rw [pc] at handle; cases handle
  exact still.rests ⟨rfl, rfl⟩ calm rfl (tended.resting notHandling)

theorem Tended.free_working (tended : Tended v) (unheld : v.grip ≠ .delete) (handle : v.pc.isHandle = true) :
    v.working = true :=
  (tended.working handle).resolve_right unheld

theorem Tended.free_resting (tended : Tended v) (unheld : v.grip ≠ .emptied) (idle : v.pc.isHandling = false) :
    v.working = false :=
  (tended.resting idle).resolve_right unheld

theorem Tended.softFires (tended : Tended v) (free : v.grip = .none) (soft : v.soft = true) :
    Tended ({ v with soft := false, grip := .soft } : Watch Call) := by
  have hard := (tended.single soft).1
  have watched : v.pc.isWatched = true := by
    by_contra unwatched
    rw [(tended.idle (by simpa using unwatched)).1] at soft
    cases soft
  show Tended ({ v with soft := false, hard := v.hard, grip := .soft } : Watch Call)
  rw [hard]
  exact tended.stopped .soft (fun _ => watched) (fun _ => .inl rfl) (fun _ => rfl)
    (fun handle => .inl (tended.free_working (by simp [free]) handle))
    fun idle => .inl (tended.free_resting (by simp [free]) idle)

theorem Tended.hardFires (tended : Tended v) (free : v.grip = .none) (hard : v.hard = true) :
    Tended ({ v with hard := false, grip := .hard } : Watch Call) := by
  have soft : v.soft = false := by
    by_contra soft
    rw [(tended.single (by simpa using soft)).1] at hard
    cases hard
  show Tended ({ v with soft := v.soft, hard := false, grip := .hard } : Watch Call)
  rw [soft]
  exact tended.stopped .hard (fun fires => by cases fires) (fun _ => .inr (.inl rfl)) (fun _ => rfl)
    (fun handle => .inl (tended.free_working (by simp [free]) handle))
    fun idle => .inl (tended.free_resting (by simp [free]) idle)

theorem Tended.softExpires (tended : Tended v) (expired : v.grip = .soft) :
    Tended ({ v with soft := false, hard := v.hardMade, grip := .none } : Watch Call) := by
  have watched := tended.pending expired
  refine { tended with
    single := ?_, pending := ?_, seized := ?_, idle := ?_, launch := ?_, handle := ?_, working := ?_, resting := ?_ }
  · exact fun soft => by cases soft
  · exact fun fires => by cases fires
  · exact fun held => absurd rfl held
  · exact fun idle => by rw [watched] at idle; cases idle
  · exact fun _ => .inr (.inl tended.hardMade)
  · exact fun _ => .inr (.inl tended.hardMade)
  · exact fun handle => .inl (tended.free_working (by simp [expired]) handle)
  · exact fun idle => .inl (tended.free_resting (by simp [expired]) idle)

theorem Tended.hardExpires (tended : Tended v) (expired : v.grip = .hard) :
    Tended ({ v with hard := false, grip := .exchange } : Watch Call) := by
  have hard : v.hard = false := tended.seized (by simp [expired])
  refine { tended with
    single := ?_, pending := ?_, seized := ?_, idle := ?_, launch := ?_, handle := ?_, working := ?_, resting := ?_ }
  · exact fun _ => ⟨rfl, by simp⟩
  · exact fun fires => by cases fires
  · exact fun _ => rfl
  · exact fun idle => ⟨(tended.idle idle).1, rfl⟩
  · exact fun _ => .inr (.inr (.inr (.inr rfl)))
  · exact fun _ => .inr (.inr rfl)
  · exact fun handle => .inl (tended.free_working (by simp [expired]) handle)
  · exact fun idle => .inl (tended.free_resting (by simp [expired]) idle)

theorem Tended.recovers (tended : Tended v) (reached : v.grip = .exchange)
    (started : v.pc.isLaunch = true → v.soft = true) :
    Tended ({ v with working := false, grip := .delete } : Watch Call) := by
  refine { tended with
    single := ?_, pending := ?_, seized := ?_, launch := ?_, handle := ?_, working := ?_, resting := ?_ }
  · exact fun soft => ⟨(tended.single soft).1, by simp⟩
  · exact fun fires => by cases fires
  · exact fun _ => tended.seized (by simp [reached])
  · exact fun launch => .inl (started launch)
  · exact fun _ => .inr (.inr rfl)
  · exact fun _ => .inr rfl
  · exact fun _ => .inl rfl

theorem Tended.spares (tended : Tended v) (reached : v.grip = .exchange) (still : v.working = false)
    (started : v.pc.isLaunch = true → v.soft = true) : Tended ({ v with grip := .none } : Watch Call) := by
  have outside (handle : v.pc.isHandle = true) : False := by
    have working := tended.free_working (by simp [reached]) handle
    rw [still] at working
    cases working
  refine { tended with
    single := ?_, pending := ?_, seized := ?_, launch := ?_, handle := ?_, working := ?_, resting := ?_ }
  · exact fun soft => ⟨(tended.single soft).1, by simp⟩
  · exact fun fires => by cases fires
  · exact fun held => absurd rfl held
  · exact fun launch => .inl (started launch)
  · exact fun handle => (outside handle).elim
  · exact fun handle => (outside handle).elim
  · exact fun _ => .inl still

theorem Tended.deletes (tended : Tended v) (reached : v.grip = .delete) (soft : v.soft = false) :
    Tended ({ v with pc := .receive, grip := .emptied } : Watch Call) := by
  have hard := tended.seized (by simp [reached])
  refine { tended with
    single := ?_, pending := ?_, seized := ?_, idle := ?_, launch := ?_, handle := ?_, working := ?_,
    resting := ?_, flag := ?_ }
  · exact fun soft => ⟨(tended.single soft).1, by simp⟩
  · exact fun fires => by cases fires
  · exact fun _ => hard
  · exact fun _ => ⟨soft, hard⟩
  · exact fun launch => by cases launch
  · exact fun handle => by cases handle
  · exact fun handle => by cases handle
  · exact fun _ => .inr rfl
  · rintro isUserTask (done | done) <;> cases done

theorem Tended.creates (tended : Tended v) (pc : v.pc = .receive) :
    Tended ({ v with working := false, grip := .none } : Watch Call) := by
  refine { tended with
    single := ?_, pending := ?_, seized := ?_, launch := ?_, handle := ?_, working := ?_, resting := ?_ }
  · exact fun soft => ⟨(tended.single soft).1, by simp⟩
  · exact fun fires => by cases fires
  · exact fun held => absurd rfl held
  · exact fun launch => by rw [pc] at launch; cases launch
  · exact fun handle => by rw [pc] at handle; cases handle
  · exact fun handle => by rw [pc] at handle; cases handle
  · exact fun _ => .inl rfl

theorem Tended.clears (tended : Tended v) (outside : v.pc.isHandle = false) :
    Tended ({ v with working := false } : Watch Call) := by
  refine { tended with working := ?_, resting := fun _ => .inl rfl }
  exact fun handle => by rw [outside] at handle; cases handle

theorem Tended.aborts (tended : Tended v) (free : v.grip = .none) (started : v.pc.isLaunch = false) :
    Tended ({ v with soft := false, hard := false, grip := .exchange } : Watch Call) :=
  tended.stopped .exchange (fun fires => by cases fires) (fun launch => by rw [started] at launch; cases launch)
    (fun _ => rfl) (fun handle => .inl (tended.free_working (by simp [free]) handle))
    fun idle => .inl (tended.free_resting (by simp [free]) idle)

theorem Tended.step {next : Watch Call} (tended : Tended v) (step : WatchStep i v next)
    (isUser : workerType i = .user) (matched : ∀ work ∈ v.pc.held, work.item.type = .user) : Tended next := by
  cases step with
  | still => exact tended
  | moves pc was now =>
      exact tended.rests (tended.idle was) (tended.calm was) now (tended.resting (isWatched_rest was).2.2.1)
  | start work pc => exact tended.start pc
  | startSystem work pc isSystem =>
      exact absurd (matched work (by rw [pc]; exact List.mem_singleton_self work)) isSystem
  | launch work awake pc => exact tended.launches pc
  | finish work awake pc =>
      have type := matched work (by rw [pc]; exact List.mem_singleton_self work)
      exact tended.finish (decide_eq_true type)
  | idles isUserTask pc => exact tended.idles pc
  | stop pc calm => exact tended.stop pc calm
  | stopSystem pc => cases tended.flag false (.inr pc)
  | softFires free soft => exact tended.softFires free soft
  | hardFires free hard => exact tended.hardFires free hard
  | softExpires expired => exact tended.softExpires expired
  | hardExpires expired => exact tended.hardExpires expired
  | recovers reached started => exact tended.recovers reached started
  | spares reached still started => exact tended.spares reached still started
  | deletes reached soft => exact tended.deletes reached soft
  | creates reached pc => exact tended.creates pc
  | clears free outside => exact tended.clears outside
  | aborts free started => exact tended.aborts free started
  | system isSystem => exact absurd isUser isSystem

end Tended

def Plain (v : Watch Call) : Prop :=
  ∀ isUserTask, v.pc = .handled isUserTask ∨ v.pc = .stopping isUserTask → isUserTask = false

theorem Plain.step {i : WorkerId} {v next : Watch Call} (plain : Plain v) (step : WatchStep i v next)
    (matched : ∀ work ∈ v.pc.held, work.item.type = .system) : Plain next := by
  intro isUserTask at_
  cases step with
  | moves pc was now =>
      rcases at_ with rfl | rfl <;> cases now
  | finish work startedAwake pc =>
      have type := matched work (by rw [pc]; exact List.mem_singleton_self work)
      simp only [type, WorkerPc.handled.injEq] at at_
      simpa using at_.symm
  | idles flag pc =>
      simp only [WorkerPc.stopping.injEq, reduceCtorEq, false_or] at at_
      exact at_ ▸ plain flag (.inl pc)
  | system isSystem next pc =>
      rcases pc with same | gone
      · exact plain isUserTask (same ▸ at_)
      · rw [gone] at at_
        simp at at_
  | start | startSystem | launch | stop | stopSystem | deletes => simp at at_
  | still | softFires | hardFires | softExpires | hardExpires | recovers | spares | creates | clears
  | aborts => exact plain isUserTask at_

structure ItemTypes (items : Items Call) : Prop where
  queued : ∀ queue, ∀ work ∈ items.queues queue, work.item.type = queue
  deferred : ∀ queue, ∀ work ∈ items.pendings queue, work.item.type = queue
  held : ∀ i, ∀ work ∈ items.held i, work.item.type = workerType i

theorem types_update {index : Type} [DecidableEq index] {lists : index → List (Work Call)}
    {type : index → WorkType} (typed : ∀ key, ∀ work ∈ lists key, work.item.type = type key) (key : index)
    {list : List (Work Call)} (list_typed : ∀ work ∈ list, work.item.type = type key) :
    ∀ other, ∀ work ∈ Function.update lists key list other, work.item.type = type other := by
  intro other
  by_cases same : other = key
  · subst same
    rwa [Function.update_self]
  · rw [Function.update_of_ne same]
    exact typed other

theorem types_append {list : List (Work Call)} {type : WorkType} {work : Work Call}
    (typed : ∀ work ∈ list, work.item.type = type) (new : work.item.type = type) :
    ∀ other ∈ list ++ [work], other.item.type = type := by
  intro other member
  rcases List.mem_append.mp member with old | last
  · exact typed other old
  · rw [List.mem_singleton.mp last]
    exact new

theorem Flow.itemTypes {s : Runtime Call} {action : Action Call} {next : Items Call}
    (flow : Flow s action next) (typed : ItemTypes s.items)
    (scheduled : ∀ queue item, s.running = .scheduleWork queue item → item.type = queue) : ItemTypes next := by
  have rest {queue : WorkType} {work : Work Call} {list found : List (Work Call)} (is : found = work :: list)
      (all : ∀ other ∈ found, other.item.type = queue) :
      work.item.type = queue ∧ ∀ other ∈ list, other.item.type = queue :=
    List.forall_mem_cons.mp (is ▸ all)
  cases flow with
  | still => exact typed
  | refuse => exact { typed with }
  | send queue item running =>
      exact { typed with
        queued := types_update typed.queued queue
          (types_append (typed.queued queue) (scheduled queue item running)) }
  | defer queue item running =>
      exact { typed with
        deferred := types_update typed.deferred queue
          (types_append (typed.deferred queue) (scheduled queue item running)) }
  | hook hook =>
      exact { typed with
        queued := types_update typed.queued .system (types_append (typed.queued .system) rfl) }
  | take i work list isTurn pc queue =>
      obtain ⟨first, others⟩ := rest queue (typed.queued (workerType i))
      exact { typed with
        queued := types_update typed.queued (workerType i) others
        held := types_update typed.held i (by simpa using first) }
  | finish i | abandon i => exact { typed with held := types_update typed.held i (by simp) }
  | drain queue work list running pending =>
      obtain ⟨first, others⟩ := rest pending (typed.deferred queue)
      exact { typed with
        deferred := types_update typed.deferred queue others
        queued := types_update typed.queued queue (types_append (typed.queued queue) first) }
  | drop queue work list created isTurn running pending =>
      exact { typed with
        deferred := types_update typed.deferred queue (rest pending (typed.deferred queue)).2 }
  | purge => exact { typed with queued := types_update typed.queued .user (by simp) }

structure Kept (s : Runtime Call) : Prop where
  typed : ItemTypes s.items
  scheduled : ∀ queue item, s.running = .scheduleWork queue item → item.type = queue
  tended : ∀ i, workerType i = .user → Tended (s.watch i)
  plain : ∀ i, workerType i = .system → Plain (s.watch i)

theorem Initial.kept {s : Runtime Call} (initial : s.Initial) : s.Kept := by
  have running : s.running = .done := running_free initial.lock
  have resting (i : WorkerId) : ∃ live, s.workers i = ⟨live, true, false, false,
      if workerType i = .user then some .stopped else none,
      if workerType i = .user then some .stopped else none, .receive⟩ := initial.workers i
  constructor
  case typed =>
    constructor
    case queued =>
      intro queue work member
      rw [show s.items.queues = _ from initial.queues] at member
      cases member
    case deferred =>
      intro queue work member
      rw [show s.items.pendings = _ from initial.pendings] at member
      cases member
    case held =>
      intro i work member
      obtain ⟨live, worker⟩ := resting i
      rw [show s.items.held i = (s.workers i).pc.held from rfl, worker] at member
      cases member
  case scheduled => simp [running]
  case tended =>
    intro i isUser
    obtain ⟨live, worker⟩ := resting i
    have free : s.grip i = .none := by simp [grip, initial.timerTask, running, TimerTask.grip, Section.grip]
    constructor <;> simp [watch, worker, isUser, free, armed, EspTimer.isActive, WorkerPc.isWatched,
      WorkerPc.isLaunch, WorkerPc.isHandle]
  case plain =>
    intro i isSystem
    obtain ⟨live, worker⟩ := resting i
    simp [Plain, watch, worker]

theorem Kept.step {s after : Runtime Call} {action : Action Call} (kept : s.Kept) (orderly : s.Orderly)
    (allowed : s.Attends action) (taken : s.step action = some after) : after.Kept := by
  have held (i : WorkerId) : ∀ work ∈ (s.watch i).pc.held, work.item.type = workerType i := kept.typed.held i
  have watched := watchStep_of_step orderly allowed taken
  constructor
  case typed => exact (flow_of_step orderly taken).itemTypes kept.typed kept.scheduled
  case scheduled =>
    intro queue item running
    rcases scheduled_of_step taken running with before | rfl | ⟨i, rfl⟩
    · exact kept.scheduled queue item before
    · exact allowed
    · exact allowed
  case tended =>
    intro i isUser
    exact (kept.tended i isUser).step (watched i) isUser (isUser ▸ held i)
  case plain =>
    intro i isSystem
    exact (kept.plain i isSystem).step (watched i) (isSystem ▸ held i)

theorem kept_watchdog_of_reach {s : Runtime Call} (reached : Reach step Initial Attends s) : s.Kept := by
  induction reached with
  | start initial => exact initial.kept
  | next before allowed taken kept => exact kept.step (orderly_of_reach before) allowed taken

/-- The watchdog law of one worker. A callback or the mandatory abort that is stopping the worker has
taken its timer over. -/
structure WatchdogLaw (s : Runtime Call) (i : WorkerId) : Prop where
  runs : workerType i = .user → ∀ work awake, (s.workers i).pc = .handle work awake →
    armed (s.workers i).softClose = true ∨ armed (s.workers i).hardClose = true ∨
      s.timerTask.attends i = true ∨ s.running.aborts i = true
  ends : workerType i = .user → (s.workers i).pc.isWatched = false →
    armed (s.workers i).softClose = false ∧ armed (s.workers i).hardClose = false ∧ s.timerTask ≠ .soft i
  starts : ∀ work, (s.workers i).pc = .prepare work → work.item.type = .user →
    (s.workers i).softClose.isSome = true
  stops : (s.workers i).pc = .stopping true →
    (s.workers i).softClose.isSome = true ∧ (s.workers i).hardClose.isSome = true

theorem workerType_cases (i : WorkerId) : workerType i = .user ∨ workerType i = .system := by
  cases workerType i with
  | user => exact .inl rfl
  | system => exact .inr rfl

theorem attended_of_grip {s : Runtime Call} {i : WorkerId} (attends : (s.grip i).attends = true) :
    s.timerTask.attends i = true ∨ s.running.aborts i = true := by
  unfold grip at attends
  split at attends
  next => exact .inr attends
  next => exact .inl attends

theorem watchdog_attends {s : Runtime Call} (reached : Reach step Initial Attends s) (i : WorkerId) :
    s.WatchdogLaw i := by
  obtain ⟨typed, _, tended, plain⟩ := kept_watchdog_of_reach reached
  constructor
  case runs =>
    intro isUser work awake pc
    have tended := tended i isUser
    rcases tended.handle (by rw [show (s.watch i).pc = _ from pc]; rfl) with soft | hard | attends
    · exact .inl soft
    · exact .inr (.inl hard)
    · exact .inr (.inr (attended_of_grip attends))
  case ends =>
    intro isUser unwatched
    have tended := tended i isUser
    obtain ⟨soft, hard⟩ := tended.idle unwatched
    refine ⟨soft, hard, fun task => tended.calm unwatched ?_⟩
    show s.grip i = .soft
    unfold grip
    rw [task, show (TimerTask.soft i).grip i = .soft from if_pos rfl]
  case starts =>
    intro work pc isUser
    have member : work ∈ s.held i := by
      rw [held, pc]
      exact List.mem_singleton_self work
    exact (tended i ((typed.held i work member).symm.trans isUser)).softMade
  case stops =>
    intro pc
    rcases workerType_cases i with isUser | isSystem
    · exact ⟨(tended i isUser).softMade, (tended i isUser).hardMade⟩
    · cases plain i isSystem true (.inr pc)

instance (s : Runtime Call) (i : WorkerId) (stage : Recovery) : Decidable (s.Finds i stage) := by
  unfold Finds
  cases stage <;> infer_instance

instance (s : Runtime Call) (action : Action Call) : Decidable (s.Attends action) := by
  unfold Attends
  split
  all_goals first | infer_instance | split <;> infer_instance

def softOverrun : List (Action Nat) :=
  [.request (.scheduleUserWork (userItem 1))] ++ advances 2 ++ [.workTick] ++ advances 7 ++
    startHandler 0 ++ [.elapse 30000, .fire (.soft 0), .timerTask true]

theorem watchdog_attends_overrun :
    ∃ s : Runtime Nat, (s.workers 0).pc = .handle ⟨0, .user, userItem 1⟩ true ∧
      (s.workers 0).softClose = some .stopped ∧ s.WatchdogLaw 0 := by
  have ran : ((run step booted softOverrun).map fun s => ((s.workers 0).pc, (s.workers 0).softClose)) =
      some (.handle ⟨0, .user, userItem 1⟩ true, some .stopped) := by decide +kernel
  obtain ⟨s, taken, seen⟩ := Option.map_eq_some_iff.mp ran
  obtain ⟨pc, soft⟩ := Prod.mk.inj seen
  have guarded : Guarded step Attends booted softOverrun := by decide +kernel
  exact ⟨s, pc, soft, watchdog_attends ((Reach.start booted_initial).of_run guarded taken) 0⟩

def mixedItems : List (Action Nat) :=
  [.request (.scheduleSystemWork (userItem 1))] ++ advances 2 ++
    [.request (.scheduleUserWork (systemItem 2))] ++ advances 2 ++ [.workTick] ++ advances 6 ++
    startHandler 0 ++ [.worker 2, .worker 2, .worker 2] ++ advances 2

/-- Worker 2 cannot take its next step, and worker 0 runs an item of the user queue unwatched. -/
theorem mixed_items_unwatched :
    ∃ s : Runtime Nat, Reach step Initial Unguarded s ∧ ¬ s.WatchdogLaw 2 ∧
      s.poolWorkerEntry 2 = none ∧ ¬ s.WatchdogLaw 0 := by
  have ran : ((run step booted mixedItems).map fun s =>
      ((s.workers 2).pc, (s.workers 2).softClose, (s.workers 0).pc,
        armed (s.workers 0).softClose || armed (s.workers 0).hardClose || s.timerTask.attends 0 ||
          s.running.aborts 0)) =
      some (.prepare ⟨0, .system, userItem 1⟩, none, .handle ⟨1, .user, systemItem 2⟩ true, false) := by
    decide +kernel
  obtain ⟨s, taken, seen⟩ := Option.map_eq_some_iff.mp ran
  simp only [Prod.mk.injEq] at seen
  obtain ⟨pc, soft, handle, unwatched⟩ := seen
  refine ⟨s, (Reach.start booted_initial).of_run (guarded_unguarded _ _ _) taken, ?_, ?_, ?_⟩
  · intro law
    have made := law.starts _ pc rfl
    rw [soft] at made
    cases made
  · unfold poolWorkerEntry
    simp [pc, userItem, watchdogStartUserWork, soft]
  · intro law
    have runs := law.runs rfl _ _ handle
    simp only [Bool.or_eq_false_iff] at unwatched
    simp [unwatched] at runs

end Runtime

end WatchFirmware.RuntimeManager
