import WatchFirmware.RuntimeManager.ItemFlow

set_option autoImplicit false

namespace WatchFirmware.RuntimeManager

open Transition

variable {Call : Type}

-- What a recovery or a watchdog callback is about to do to one worker; after emptied it is recreated.
inductive Grip where
  | none
  | soft
  | hard
  | exchange
  | delete
  | emptied
  deriving DecidableEq, Repr

namespace Grip

def attends : Grip → Bool
  | soft | hard | exchange | delete => true
  | none | emptied => false

end Grip

def Recovery.grip : Recovery → Grip
  | .exchange => .exchange
  | .delete => .delete
  | .subtract | .create => .emptied
  | .stop | .clearAbort | .clearWorking | .park => .none

namespace TimerTask

def grip (task : TimerTask) (i : WorkerId) : Grip :=
  match task with
  | .soft j => if j = i then .soft else .none
  | .hard j => if j = i then .hard else .none
  | .recover j stage => if j = i then stage.grip else .none
  | .idle | .window | .grace | .settlement => .none

def attends (task : TimerTask) (i : WorkerId) : Bool := (task.grip i).attends

theorem grip_callback {task : TimerTask} (callback : task.isCallback = true) (i : WorkerId) :
    task.grip i = .none := by
  cases task with
  | window | grace | settlement => rfl
  | idle | soft | hard | recover => cases callback

theorem grip_others {task : TimerTask} {i j : WorkerId} (other : i ≠ j)
    (about : task = .soft j ∨ task = .hard j ∨ ∃ stage, task = .recover j stage) : task.grip i = .none := by
  rcases about with rfl | rfl | ⟨stage, rfl⟩ <;> exact if_neg (Ne.symm other)

end TimerTask

namespace Section

def grip (body : Section Call) (i : WorkerId) : Grip :=
  match body with
  | .recover j stage _ => if j = i then stage.grip else .none
  | _ => .none

/-- The mandatory abort has stopped this worker's timers, and has not deleted it or left it alone. -/
def aborts (body : Section Call) (i : WorkerId) : Bool := (body.grip i).attends

def concerns (body : Section Call) (i : WorkerId) : Bool :=
  match body with
  | .recover j _ _ => decide (j = i)
  | _ => false

theorem grip_apart {body : Section Call} {i : WorkerId} (apart : body.concerns i = false) :
    body.grip i = .none := by
  cases body with
  | recover j stage rest => exact if_neg (of_decide_eq_false apart)
  | _ => rfl

end Section

namespace WorkerPc

def isWatched : WorkerPc Call → Bool
  | launch _ | handle _ _ | handled _ | stopping _ => true
  | receive | received _ | counted _ | prepare _ | leaving | evaluate => false

def isLaunch : WorkerPc Call → Bool
  | launch _ => true
  | _ => false

def isHandle : WorkerPc Call → Bool
  | handle _ _ => true
  | _ => false

def isHandling : WorkerPc Call → Bool
  | handle _ _ | handled _ => true
  | _ => false

def isStopping : WorkerPc Call → Bool
  | stopping _ => true
  | _ => false

end WorkerPc

structure Watch (Call : Type) where
  working : Bool
  soft : Bool
  hard : Bool
  softMade : Bool
  hardMade : Bool
  pc : WorkerPc Call
  grip : Grip

def armed (timer : Option EspTimer) : Bool := timer.any EspTimer.isActive

namespace Runtime

def grip (s : Runtime Call) (i : WorkerId) : Grip :=
  match s.timerTask.grip i with
  | .none => s.running.grip i
  | held => held

def watch (s : Runtime Call) (i : WorkerId) : Watch Call where
  working := (s.workers i).working
  soft := armed (s.workers i).softClose
  hard := armed (s.workers i).hardClose
  softMade := (s.workers i).softClose.isSome
  hardMade := (s.workers i).hardClose.isSome
  pc := (s.workers i).pc
  grip := s.grip i

def Finds (s : Runtime Call) (i : WorkerId) (stage : Recovery) : Prop :=
  workerType i = .user →
    match stage with
    | .stop => (s.workers i).pc.isLaunch = false
    | .exchange => (s.workers i).pc.isLaunch = true → armed (s.workers i).softClose = true
    | .delete => armed (s.workers i).softClose = false
    | .clearWorking => (s.workers i).pc.isHandle = false
    | .subtract | .create | .clearAbort | .park => True

/-- The items have the type of the function they are scheduled with; a worker does not stop its watchdog
in the middle of its own soft callback; and every recovery finds its worker as it must. -/
def Attends (s : Runtime Call) : Action Call → Prop
  | .request (.scheduleWork queue item) | .call _ (.scheduleWork queue item) => item.type = queue
  | .worker i => (s.workers i).pc.isStopping = true → s.timerTask ≠ .soft i
  | .timerTask _ =>
      match s.timerTask with
      | .recover i stage => s.Finds i stage
      | _ => True
  | .advance _ =>
      match s.running with
      | .recover i stage _ => s.Finds i stage
      | _ => True
  | _ => True

inductive WatchStep (i : WorkerId) (v : Watch Call) : Watch Call → Prop where
  | still : WatchStep i v v
  | moves (pc : WorkerPc Call) (was : v.pc.isWatched = false) (now : pc.isWatched = false) :
      WatchStep i v { v with pc }
  | start (work : Work Call) (pc : v.pc = .prepare work) (isUser : work.item.type = .user)
      (made : v.softMade = true) : WatchStep i v { v with pc := .launch work, soft := true }
  | startSystem (work : Work Call) (pc : v.pc = .prepare work) (isSystem : work.item.type ≠ .user) :
      WatchStep i v { v with pc := .launch work }
  | launch (work : Work Call) (startedAwake : Bool) (pc : v.pc = .launch work) :
      WatchStep i v { v with pc := .handle work startedAwake, working := true }
  | finish (work : Work Call) (startedAwake : Bool) (pc : v.pc = .handle work startedAwake) :
      WatchStep i v { v with pc := .handled (decide (work.item.type = .user)) }
  | idles (isUserTask : Bool) (pc : v.pc = .handled isUserTask) :
      WatchStep i v { v with pc := .stopping isUserTask, working := false }
  | stop (pc : v.pc = .stopping true) (calm : v.grip ≠ .soft) :
      WatchStep i v { v with pc := .leaving, soft := false, hard := false }
  | stopSystem (pc : v.pc = .stopping false) : WatchStep i v { v with pc := .leaving }
  | softFires (free : v.grip = .none) (soft : v.soft = true) :
      WatchStep i v { v with soft := false, grip := .soft }
  | hardFires (free : v.grip = .none) (hard : v.hard = true) :
      WatchStep i v { v with hard := false, grip := .hard }
  | softExpires (expired : v.grip = .soft) :
      WatchStep i v { v with soft := false, hard := v.hardMade, grip := .none }
  | hardExpires (expired : v.grip = .hard) : WatchStep i v { v with hard := false, grip := .exchange }
  | recovers (reached : v.grip = .exchange) (started : v.pc.isLaunch = true → v.soft = true) :
      WatchStep i v { v with working := false, grip := .delete }
  | spares (reached : v.grip = .exchange) (working : v.working = false)
      (started : v.pc.isLaunch = true → v.soft = true) : WatchStep i v { v with grip := .none }
  | deletes (reached : v.grip = .delete) (soft : v.soft = false) :
      WatchStep i v { v with pc := .receive, grip := .emptied }
  | creates (reached : v.grip = .emptied) (pc : v.pc = .receive) :
      WatchStep i v { v with working := false, grip := .none }
  | clears (free : v.grip = .none) (resting : v.pc.isHandle = false) : WatchStep i v { v with working := false }
  | aborts (free : v.grip = .none) (started : v.pc.isLaunch = false) :
      WatchStep i v { v with soft := false, hard := false, grip := .exchange }
  | system (isSystem : workerType i ≠ .user) (next : Watch Call) (pc : next.pc = v.pc ∨ next.pc = .receive) :
      WatchStep i v next

section Inversion

variable {s after : Runtime Call} {i j : WorkerId} {worker : Worker Call}

theorem watch_setWorker (s : Runtime Call) (i : WorkerId) (worker : Worker Call) :
    (s.setWorker i worker).watch i = ⟨worker.working, armed worker.softClose,
      armed worker.hardClose, worker.softClose.isSome, worker.hardClose.isSome, worker.pc, s.grip i⟩ := by
  unfold watch setWorker
  simp only [Function.update_self]
  rfl

/-- What `watch` reads of a worker. -/
def face (worker : Worker Call) : Bool × Option EspTimer × Option EspTimer × WorkerPc Call :=
  (worker.working, worker.softClose, worker.hardClose, worker.pc)

theorem watch_of_face (same : face (after.workers i) = face (s.workers i)) :
    after.watch i = { s.watch i with grip := after.grip i } := by
  obtain ⟨working, soft, hard, pc⟩ : _ ∧ _ ∧ _ ∧ _ := by
    simpa only [face, Prod.mk.injEq] using same
  unfold watch
  rw [working, soft, hard, pc]

theorem setWorker_face (other : j ≠ i) : face ((s.setWorker i worker).workers j) = face (s.workers j) := by
  unfold setWorker
  simp only [Function.update_of_ne other]

theorem WatchStep.same (face : face (after.workers i) = face (s.workers i)) (grip : after.grip i = s.grip i) :
    WatchStep i (s.watch i) (after.watch i) := by
  rw [watch_of_face face, grip]
  exact .still

theorem running_free (free : s.lock = none) : s.running = .done := by
  unfold running
  rw [free]

theorem running_some {body : Section Call} (running : s.running = body) (unfinished : body ≠ .done) :
    ∃ owner, s.lock = some (owner, body) := by
  unfold Runtime.running at running
  cases held : s.lock with
  | none =>
      rw [held] at running
      exact absurd running.symm unfinished
  | some pair =>
      obtain ⟨owner, other⟩ := pair
      rw [held] at running
      exact ⟨owner, by rw [← running]⟩

theorem grip_same (task : after.timerTask = s.timerTask) (running : after.running.grip i = s.running.grip i) :
    after.grip i = s.grip i := by
  unfold grip
  rw [task, running]

theorem grip_callback (callback : s.timerTask.isCallback = true) : s.grip i = s.running.grip i := by
  unfold grip
  rw [TimerTask.grip_callback callback]

theorem grip_task (orderly : s.Orderly) (task : s.timerTask.isCallback = false)
    (running : after.running = s.running) : after.grip i = after.timerTask.grip i := by
  have free : after.running.grip i = .none := by
    rw [running]
    cases recovers : s.running with
    | recover j stage rest =>
        obtain ⟨owner, held⟩ := running_some recovers (by simp)
        exact absurd held (orderly.no_recovery task owner j stage rest)
    | _ => rfl
  unfold grip
  rw [free]
  cases after.timerTask.grip i <;> rfl

theorem grip_next (orderly : s.Orderly) (apart : s.timerTask.isCallback = false) (task : TimerTask)
    (i : WorkerId) : Runtime.grip { s with timerTask := task } i = task.grip i :=
  @grip_task _ s { s with timerTask := task } i orderly apart rfl

theorem grip_soft (held : s.grip i = .soft) : s.timerTask = .soft i := by
  have free : s.running.grip i ≠ .soft := by
    cases s.running with
    | recover j stage rest =>
        unfold Section.grip
        dsimp only
        split
        next => cases stage <;> simp [Recovery.grip]
        next => simp
    | _ => simp [Section.grip]
  unfold grip at held
  cases task : s.timerTask with
  | soft j =>
      by_cases same : j = i
      · rw [same]
      · simp only [task, TimerTask.grip, if_neg same] at held
        exact absurd held free
  | hard j =>
      by_cases same : j = i
      · simp [task, TimerTask.grip, same] at held
      · simp only [task, TimerTask.grip, if_neg same] at held
        exact absurd held free
  | recover j stage =>
      by_cases same : j = i
      · simp only [task, TimerTask.grip, if_pos same] at held
        cases stage <;> simp [Recovery.grip] at held <;> exact absurd held free
      · simp only [task, TimerTask.grip, if_neg same] at held
        exact absurd held free
  | idle | window | grace | settlement =>
      simp only [task, TimerTask.grip] at held
      exact absurd held free

theorem WatchStep.acquire {owner : Owner} {body : Section Call}
    (acquired : s.acquire owner body = some after) (spares : body.concerns i = false) :
    WatchStep i (s.watch i) (after.watch i) := by
  obtain ⟨free, rfl⟩ := acquire_eq_some acquired
  refine .same rfl (grip_same rfl ?_)
  rw [running_free free]
  exact Section.grip_apart spares

theorem armed_stopped (timer : Option EspTimer) : armed (timer.map fun _ => .stopped) = false := by
  cases timer <;> rfl

theorem armed_started (timer : Option EspTimer) (deadline : Nat) :
    armed (timer.map fun _ => .armed deadline) = timer.isSome := by
  cases timer <;> rfl

theorem watchStep_worker (taken : s.poolWorkerEntry i = some after)
    (calm : (s.workers i).pc.isStopping = true → s.timerTask ≠ .soft i) :
    WatchStep i (s.watch i) (after.watch i) := by
  have moves (pc : WorkerPc Call) (was : (s.workers i).pc.isWatched = false)
      (now : pc.isWatched = false) :
      WatchStep i (s.watch i) ((s.setWorker i { s.workers i with pc := pc }).watch i) := by
    rw [watch_setWorker]
    exact .moves pc was now
  unfold poolWorkerEntry at taken
  cases pc : (s.workers i).pc with
  | receive =>
      simp only [pc] at taken
      cases queue : s.queues (workerType i) with
      | nil => simp [queue] at taken
      | cons work rest =>
          simp only [queue, Option.some.injEq] at taken
          subst taken
          exact moves _ (by rw [pc]; rfl) rfl
  | received work =>
      simp only [pc, Option.some.injEq] at taken
      subst taken
      exact moves _ (by rw [pc]; rfl) rfl
  | counted work => exact .acquire (by simpa only [pc] using taken) rfl
  | evaluate => exact .acquire (by simpa only [pc] using taken) rfl
  | prepare work =>
      simp only [pc] at taken
      split at taken
      next isUser =>
        simp only [watchdogStartUserWork, Option.map_map, Option.map_eq_some_iff] at taken
        obtain ⟨soft, given, rfl⟩ := taken
        simp only [Function.comp, watch_setWorker]
        have made : (s.watch i).softMade = true := Option.isSome_iff_exists.mpr ⟨soft, given⟩
        rw [Option.isSome_some, ← made]
        exact .start work pc isUser made
      next isSystem =>
        cases taken
        rw [watch_setWorker]
        exact .startSystem work pc isSystem
  | launch work =>
      simp only [pc, Option.some.injEq] at taken
      subst taken
      rw [watch_setWorker]
      exact .launch work _ pc
  | handle work startedAwake =>
      simp only [pc, Option.some.injEq] at taken
      subst taken
      show WatchStep i _ ((s.setWorker i _).watch i)
      rw [watch_setWorker]
      exact .finish work startedAwake pc
  | handled isUserTask =>
      simp only [pc, Option.some.injEq] at taken
      subst taken
      rw [watch_setWorker]
      exact .idles isUserTask pc
  | stopping isUserTask =>
      simp only [pc, Option.some.injEq] at taken
      subst taken
      rw [watch_setWorker]
      cases isUserTask with
      | false => exact .stopSystem pc
      | true =>
          simp only [if_true, watchdogStopUserWork, armed_stopped, Option.isSome_map]
          exact .stop pc fun held => calm (by rw [pc]; rfl) (grip_soft held)
  | leaving =>
      simp only [pc, Option.some.injEq] at taken
      subst taken
      refine moves _ (by rw [pc]; rfl) ?_
      split <;> rfl

theorem watchStep_others (step : WorkerStep s i after) (other : j ≠ i) :
    WatchStep j (s.watch j) (after.watch j) := by
  rcases step.lock_or_moves with ⟨_, _, acquired⟩ | ⟨_, acquired⟩ | moves
  · exact .acquire acquired rfl
  · exact .acquire acquired rfl
  · refine .same (congrArg face (moves.others other)) (grip_same moves.timerTask ?_)
    rw [running_same moves.lock]

theorem watchStep_timeout {pc : WorkerPc Call} (was : (s.workers i).pc.isWatched = false)
    (now : pc.isWatched = false) (j : WorkerId) :
    WatchStep j (s.watch j) ((s.setWorker i { s.workers i with pc := pc }).watch j) := by
  by_cases same : j = i
  · subst same
    rw [watch_setWorker]
    exact .moves pc was now
  · exact .same (setWorker_face same) rfl

theorem watchStep_release {owner : Owner} (held : s.lock = some (owner, .done)) (i : WorkerId)
    (callback : owner = .timerTask → s.timerTask.isCallback = true) :
    WatchStep i (s.watch i) ((s.release owner).watch i) := by
  have done : s.running = .done := running_held held
  have free : Runtime.grip { s with lock := none } i = s.grip i :=
    grip_same rfl (by rw [done]; rfl)
  have moved (j : WorkerId) (pc : WorkerPc Call) (was : (s.workers j).pc.isWatched = false)
      (now : pc.isWatched = false) : WatchStep i (s.watch i)
        ((Runtime.setWorker { s with lock := none } j { s.workers j with pc := pc }).watch i) := by
    by_cases same : i = j
    · subst same
      rw [watch_setWorker, free]
      exact .moves pc was now
    · exact .same (setWorker_face same) free
  unfold release
  cases owner with
  | worker j =>
      cases pc : (s.workers j).pc with
      | counted work =>
          simp only [pc]
          exact moved j (.prepare work) (by rw [pc]; rfl) rfl
      | evaluate =>
          simp only [pc]
          exact moved j .receive (by rw [pc]; rfl) rfl
      | receive | received | prepare | launch | handle | handled | stopping | leaving =>
          simp only [pc]
          exact .same rfl free
  | client | deleted => exact .same rfl free
  | timerTask =>
      refine .same rfl (Eq.trans ?_ (grip_callback (callback rfl)).symm)
      rw [done]
      rfl

theorem armed_expired {timer : Option EspTimer} {now : Nat}
    (expired : (timer.any fun timer => timer.expired now) = true) : armed timer = true := by
  match timer, expired with
  | some (.armed _), _ => rfl

theorem made_of_armed {timer : Option EspTimer} (isArmed : armed timer = true) : timer.isSome = true := by
  match timer, isArmed with
  | some (.armed _), _ => rfl

theorem watch_timer (s : Runtime Call) (i : WorkerId) (worker : Worker Call) (task : TimerTask) :
    watch { s.setWorker i worker with timerTask := task } i =
      { (s.setWorker i worker).watch i with grip := grip { s with timerTask := task } i } := rfl

theorem watchStep_apart (orderly : s.Orderly) (task : s.timerTask.isCallback = false)
    (face : face (after.workers i) = face (s.workers i)) (running : after.running = s.running)
    (was : s.timerTask.grip i = .none) (now : after.timerTask.grip i = .none) :
    WatchStep i (s.watch i) (after.watch i) := by
  refine .same face ?_
  rw [grip_task orderly task running, now, grip_task orderly task rfl, was]

theorem watchStep_fire {timer : TimerId} (orderly : s.Orderly) (taken : s.fire timer = some after)
    (i : WorkerId) : WatchStep i (s.watch i) (after.watch i) := by
  unfold Runtime.fire at taken
  split at taken
  next idle =>
    have task : s.timerTask.isCallback = false := by rw [idle]; rfl
    have was (j : WorkerId) : s.timerTask.grip j = .none := by rw [idle]; rfl
    have free : (s.watch i).grip = .none := (grip_task orderly task rfl).trans (was i)
    cases timer with
    | window | grace | settlement =>
        simp only [Option.ite_none_right_eq_some, Option.some.injEq] at taken
        obtain ⟨_, rfl⟩ := taken
        exact watchStep_apart orderly task rfl rfl (was i) rfl
    | soft j =>
        simp only [Option.ite_none_right_eq_some, Option.some.injEq] at taken
        obtain ⟨expired, rfl⟩ := taken
        by_cases same : i = j
        · subst same
          have soft := armed_expired expired
          have made : (s.watch i).softMade = true := made_of_armed soft
          have grip : Runtime.grip { s with timerTask := .soft i } i = .soft := by
            rw [grip_next orderly task]
            exact if_pos rfl
          rw [watch_timer, watch_setWorker, grip]
          simp only [Option.isSome_some, ← made]
          exact .softFires free soft
        · exact watchStep_apart orderly task (setWorker_face same) rfl (was i)
            (TimerTask.grip_others same (.inl rfl))
    | hard j =>
        simp only [Option.ite_none_right_eq_some, Option.some.injEq] at taken
        obtain ⟨expired, rfl⟩ := taken
        by_cases same : i = j
        · subst same
          have hard := armed_expired expired
          have made : (s.watch i).hardMade = true := made_of_armed hard
          have grip : Runtime.grip { s with timerTask := .hard i } i = .hard := by
            rw [grip_next orderly task]
            exact if_pos rfl
          rw [watch_timer, watch_setWorker, grip]
          simp only [Option.isSome_some, ← made]
          exact .hardFires free hard
        · exact watchStep_apart orderly task (setWorker_face same) rfl (was i)
            (TimerTask.grip_others same (.inr (.inl rfl)))
  next => cases taken

theorem watch_deleted (dead : (s.workers i).live = false → (s.workers i).pc = .receive) :
    (s.deleteWorker i).watch i = { s.watch i with pc := .receive, grip := (s.deleteWorker i).grip i } := by
  unfold watch deleteWorker
  dsimp only
  split
  next => simp only [setWorker, Function.update_self]
  next gone =>
    have notLive : (s.workers i).live = false := by simpa using gone
    simp only [dead notLive]

theorem watchStep_recover {created : Bool} {stage : Recovery} (orderly : s.Orderly)
    (task : s.timerTask = .recover i stage) (finds : s.Finds i stage)
    (taken : s.runTimerTask created = some after) : WatchStep i (s.watch i) (after.watch i) := by
  have apart : s.timerTask.isCallback = false := by rw [task]; rfl
  have grip : (s.watch i).grip = stage.grip := by
    refine (grip_task orderly apart rfl).trans ?_
    rw [task]
    exact if_pos rfl
  have goes (next : Recovery) : Runtime.grip { s with timerTask := .recover i next } i = next.grip := by
    rw [grip_next orderly apart]
    exact if_pos rfl
  have ends : Runtime.grip { s with timerTask := .idle } i = .none := by
    rw [grip_next orderly apart]
    rfl
  have system (pc : (after.workers i).pc = (s.workers i).pc ∨ (after.workers i).pc = .receive)
      (isSystem : workerType i ≠ .user) : WatchStep i (s.watch i) (after.watch i) := .system isSystem _ pc
  unfold runTimerTask at taken
  cases stage with
  | exchange =>
      simp only [task] at taken
      split at taken
      next working =>
        cases taken
        by_cases isUser : workerType i = .user
        · rw [watch_timer, watch_setWorker, goes]
          exact .recovers grip (finds isUser)
        · exact system (.inl (by simp [setWorker])) isUser
      next working =>
        cases taken
        by_cases isUser : workerType i = .user
        · have resting : (s.watch i).working = false := by simpa [watch] using working
          have idle : watch { s with timerTask := .idle } i = { s.watch i with grip := .none } := by
            rw [← ends]
            rfl
          rw [idle]
          exact .spares grip resting (finds isUser)
        · exact system (.inl rfl) isUser
  | delete =>
      simp only [task, Option.some.injEq] at taken
      subst taken
      have pc := (s.deleteWorker_dead i fun pc => by
        by_contra dead
        exact pc (orderly.dead i (by simpa using dead))).2
      by_cases isUser : workerType i = .user
      · have emptied : Runtime.grip { s.deleteWorker i with timerTask := .recover i (afterDelete (s.workers i)) } i =
            .emptied := by
          rw [grip_task orderly apart (running_deleted s i _)]
          rcases afterDelete_cases (s.workers i) with next | next <;>
            · rw [next]
              exact if_pos rfl
        have gone : watch { s.deleteWorker i with timerTask := .recover i (afterDelete (s.workers i)) } i =
            { (s.deleteWorker i).watch i with grip := .emptied } := by
          rw [← emptied]
          rfl
        rw [gone, watch_deleted (orderly.dead i)]
        exact .deletes grip (finds isUser)
      · exact system (.inr pc) isUser
  | subtract =>
      simp only [task, Option.some.injEq] at taken
      subst taken
      refine .same rfl ?_
      exact Eq.trans (goes .create) grip.symm
  | create =>
      simp only [task, Option.some.injEq] at taken
      subst taken
      unfold createWorker
      rw [watch_timer, watch_setWorker, goes]
      have pc : (s.watch i).pc = .receive := orderly.dead i (orderly.recreated i .create rfl task)
      rw [← pc]
      exact .creates grip pc
  | clearAbort =>
      simp only [task, Option.some.injEq] at taken
      subst taken
      refine .same ?_ (Eq.trans (goes .clearWorking) grip.symm)
      simp [clearAbort, setWorker, face]
  | clearWorking =>
      simp only [task, Option.some.injEq] at taken
      subst taken
      by_cases isUser : workerType i = .user
      · unfold clearWorking
        rw [watch_timer, watch_setWorker, ends]
        have free : (s.watch i).grip = .none := grip
        rw [← free]
        exact .clears free (finds isUser)
      · exact system (.inl (by simp [clearWorking, setWorker])) isUser
  | stop | park => simp [task] at taken

theorem watchStep_timer {created : Bool} (orderly : s.Orderly)
    (taken : s.runTimerTask created = some after) (allowed : s.Attends (.timerTask created)) (i : WorkerId) :
    WatchStep i (s.watch i) (after.watch i) := by
  cases task : s.timerTask with
  | idle => simp [runTimerTask, task] at taken
  | window | grace | settlement =>
      simp only [runTimerTask, task] at taken
      exact .acquire taken rfl
  | soft j =>
      simp only [runTimerTask, task, Option.some.injEq] at taken
      subst taken
      have apart : s.timerTask.isCallback = false := by rw [task]; rfl
      unfold workerSoftAbortCb
      by_cases same : i = j
      · subst same
        have grip : (s.watch i).grip = .soft := by
          refine (grip_task orderly apart rfl).trans ?_
          rw [task]
          exact if_pos rfl
        have ends : Runtime.grip { s with timerTask := .idle } i = .none := by
          rw [grip_next orderly apart]
          rfl
        rw [watch_timer, watch_setWorker, ends]
        simp only [armed_stopped, armed_started, Option.isSome_map]
        exact .softExpires grip
      · refine watchStep_apart orderly apart (setWorker_face same) rfl ?_ rfl
        rw [task]
        exact TimerTask.grip_others same (.inl rfl)
  | hard j =>
      simp only [runTimerTask, task, Option.some.injEq] at taken
      subst taken
      have apart : s.timerTask.isCallback = false := by rw [task]; rfl
      by_cases same : i = j
      · subst same
        have grip : (s.watch i).grip = .hard := by
          refine (grip_task orderly apart rfl).trans ?_
          rw [task]
          exact if_pos rfl
        have goes : Runtime.grip { s with timerTask := .recover i .exchange } i = .exchange := by
          rw [grip_next orderly apart]
          exact if_pos rfl
        rw [watch_timer, watch_setWorker, goes]
        simp only [armed_stopped, Option.isSome_map]
        exact .hardExpires grip
      · refine watchStep_apart orderly apart (setWorker_face same) rfl ?_
          (TimerTask.grip_others same (.inr (.inr ⟨_, rfl⟩)))
        rw [task]
        exact TimerTask.grip_others same (.inr (.inl rfl))
  | recover j stage =>
      have finds : s.Finds j stage := by simpa only [Attends, task] using allowed
      by_cases same : i = j
      · subst same
        exact watchStep_recover orderly task finds taken
      · have apart : s.timerTask.isCallback = false := by rw [task]; rfl
        have was : s.timerTask.grip i = .none := by
          rw [task]
          exact TimerTask.grip_others same (.inr (.inr ⟨_, rfl⟩))
        have goes (next : Recovery) : (TimerTask.recover j next).grip i = .none :=
          TimerTask.grip_others same (.inr (.inr ⟨_, rfl⟩))
        unfold runTimerTask at taken
        cases stage with
        | exchange =>
            simp only [task] at taken
            split at taken
            next =>
              cases taken
              exact watchStep_apart orderly apart (setWorker_face same) rfl was (goes _)
            next =>
              cases taken
              exact watchStep_apart orderly apart rfl rfl was rfl
        | delete =>
            simp only [task, Option.some.injEq] at taken
            subst taken
            exact watchStep_apart orderly apart (congrArg face (s.deleteWorker_others j same))
              (running_deleted s j _) was (goes _)
        | subtract =>
            simp only [task, Option.some.injEq] at taken
            subst taken
            exact watchStep_apart orderly apart rfl rfl was (goes _)
        | create | clearAbort =>
            simp only [task, Option.some.injEq] at taken
            subst taken
            exact watchStep_apart orderly apart (setWorker_face same) rfl was (goes _)
        | clearWorking =>
            simp only [task, Option.some.injEq] at taken
            subst taken
            exact watchStep_apart orderly apart (setWorker_face same) rfl was rfl
        | stop | park => simp [task] at taken

theorem setRuntimeState_face (s : Runtime Call) (target : RuntimeState) (i : WorkerId) :
    face ((s.setRuntimeState target).1.workers i) = face (s.workers i) := by
  unfold setRuntimeState
  split
  · rfl
  · cases target with
    | uiActive | backgroundActive => dsimp only; split <;> rfl
    | sleep | gracePeriod => rfl

theorem runSection_face {body : Section Call} (created : Bool) (apart : body.concerns i = false) :
    face ((s.runSection body created).1.workers i) = face (s.workers i) := by
  by_cases kind : body.isRequest = true ∨ body.isReset = true ∨ body.isEvaluation = true
  · rw [s.runSection_workers body created kind]
  · cases body with
    | startWork => exact setRuntimeState_face s _ i
    | sleep => exact setRuntimeState_face s _ i
    | workWindowExpiry | gracePeriodExpiry | curfewSettlementExpiry =>
        simp only [runSection]
        split <;> rfl
    | hasWork reading asking =>
        cases reading with
        | active => simp only [runSection]; split <;> rfl
        | system | user => rfl
    | idle asking =>
        cases asking with
        | evaluate => simp [Section.isEvaluation] at kind
        | settlement => simp only [runSection]; split <;> rfl
        | curfew => rfl
    | busy asking => cases asking <;> rfl
    | submitHooks rest =>
        cases rest with
        | nil => rfl
        | cons hook rest =>
            simp only [runSection]
            rw [(s.submitHook_onlyQueues hook).workers]
    | drainPending queue =>
        simp only [runSection]
        cases drained : s.drainPendingQueue queue with
        | none => rfl
        | some after =>
            simp only
            rw [(drainPendingQueue_onlyQueues drained).workers]
    | forceAbort rest =>
        cases rest with
        | nil => rfl
        | cons j rest => rfl
    | recover j stage rest =>
        have other : i ≠ j := Ne.symm (of_decide_eq_false apart)
        cases stage with
        | stop | exchange =>
            simp only [runSection]
            split
            · exact setWorker_face other
            · rfl
        | delete => exact congrArg face (s.deleteWorker_others j other)
        | subtract => rfl
        | create | clearAbort | clearWorking | park => exact setWorker_face other
    | suspendAll => rfl
    | _ => simp [Section.isRequest, Section.isReset, Section.isEvaluation] at kind

theorem begin_grip (s : Runtime Call) (i : WorkerId) :
    s.runtimeManagerBeginCurfewUnsafe.2.grip i = .none := by
  unfold runtimeManagerBeginCurfewUnsafe
  dsimp only
  split <;> rfl

theorem runSection_grip {body : Section Call} (created : Bool) (apart : body.concerns i = false) :
    (s.runSection body created).2.grip i = .none := by
  cases body with
  | startWork | sleep =>
      simp only [runSection]
      rcases setRuntimeState_rest s _ with rest | rest | rest <;> rw [rest] <;> rfl
  | workWindowExpiry =>
      simp only [runSection]
      split
      · exact begin_grip s i
      · rfl
  | registerHook | evaluateEarlyCurfew | gracePeriodExpiry | curfewSettlementExpiry =>
      simp only [runSection]
      split <;> rfl
  | hasWork reading asking => cases reading <;> simp only [runSection] <;> split <;> rfl
  | idle asking =>
      cases asking with
      | evaluate | curfew => rfl
      | settlement =>
          simp only [runSection]
          split
          · exact begin_grip s i
          · rfl
  | busy asking => cases asking <;> rfl
  | submitHooks rest => cases rest <;> rfl
  | drainPending queue =>
      simp only [runSection]
      cases s.drainPendingQueue queue with
      | none => dsimp only; split <;> rfl
      | some after => rfl
  | forceAbort rest =>
      cases rest with
      | nil => rfl
      | cons j rest =>
          simp only [runSection]
          split
          next =>
            unfold Section.grip
            dsimp only
            split <;> rfl
          next => rfl
  | recover j stage rest =>
      have free (next : Recovery) : (Section.recover j next rest : Section Call).grip i = .none :=
        if_neg (of_decide_eq_false apart)
      cases stage with
      | exchange =>
          simp only [runSection]
          split
          · exact free _
          · rfl
      | park => rfl
      | stop | delete | subtract | create | clearAbort | clearWorking => exact free _
  | scheduleWork | getState | unregisterHook | resetSettlementTimer | suspendAll | done => rfl

theorem watch_locked (after : Runtime Call) (owner : Owner) (body : Section Call) (i : WorkerId) :
    watch { after with lock := some (owner, body) } i =
      { after.watch i with grip := grip { after with lock := some (owner, body) } i } := rfl

theorem recover_pc {stage : Recovery} {rest : List WorkerId} (created : Bool)
    (dead : (s.workers i).live = false → (s.workers i).pc = .receive) :
    ((s.runSection (.recover i stage rest) created).1.workers i).pc = (s.workers i).pc ∨
      ((s.runSection (.recover i stage rest) created).1.workers i).pc = .receive := by
  cases stage with
  | stop =>
      left
      simp only [runSection]
      split <;> simp [setWorker, watchdogStopUserWork]
  | exchange =>
      left
      simp only [runSection]
      split <;> simp [setWorker]
  | delete => exact .inr (congrArg Watch.pc (watch_deleted dead))
  | subtract => exact .inl rfl
  | create => right; simp [runSection, createWorker, setWorker]
  | clearAbort | clearWorking | park => left; simp [runSection, clearAbort, clearWorking, setWorker]

theorem watchStep_aborts {owner : Owner} {stage : Recovery} {rest : List WorkerId} (created : Bool)
    (orderly : s.Orderly) (held : s.lock = some (owner, .recover i stage rest)) (finds : s.Finds i stage) :
    WatchStep i (s.watch i)
      (watch { (s.runSection (.recover i stage rest) created).1 with
        lock := some (owner, (s.runSection (.recover i stage rest) created).2) } i) := by
  have callback : s.timerTask.isCallback = true := by
    have owns := orderly.owns owner _ held
    rw [orderly.timer_of_callback held rfl (by simp)] at owns
    exact owns.2
  have grip : (s.watch i).grip = stage.grip := by
    refine (grip_callback callback).trans ?_
    rw [running_held held]
    exact if_pos rfl
  have task := s.runSection_timerTask (.recover i stage rest) created
  have goes (next : Recovery) (is : (s.runSection (.recover i stage rest) created).2 = .recover i next rest) :
      Runtime.grip { (s.runSection (.recover i stage rest) created).1 with
        lock := some (owner, (s.runSection (.recover i stage rest) created).2) } i = next.grip := by
    refine (grip_callback (task ▸ callback)).trans ?_
    show (s.runSection (.recover i stage rest) created).2.grip i = next.grip
    rw [is]
    exact if_pos rfl
  have ends (is : (s.runSection (.recover i stage rest) created).2 = .forceAbort rest) :
      Runtime.grip { (s.runSection (.recover i stage rest) created).1 with
        lock := some (owner, (s.runSection (.recover i stage rest) created).2) } i = .none := by
    refine (grip_callback (task ▸ callback)).trans ?_
    show (s.runSection (.recover i stage rest) created).2.grip i = .none
    rw [is]
    rfl
  by_cases isUser : workerType i = .user
  case neg =>
    refine .system isUser _ ?_
    exact recover_pc created (orderly.dead i)
  have found := finds isUser
  rw [watch_locked]
  cases stage with
  | stop =>
      rw [goes .exchange rfl]
      simp only [runSection, isUser, if_true]
      rw [watch_setWorker]
      simp only [watchdogStopUserWork, armed_stopped, Option.isSome_map]
      exact .aborts grip found
  | exchange =>
      by_cases working : (s.workers i).working = true
      · rw [goes .delete (by simp [runSection, working])]
        simp only [runSection, working, if_true]
        rw [watch_setWorker]
        exact .recovers grip found
      · have resting : (s.watch i).working = false := by simpa [watch] using working
        rw [ends (by simp [runSection, working])]
        simp only [runSection, working, Bool.false_eq_true, if_false]
        exact .spares grip resting found
  | delete =>
      have emptied : (afterDelete (s.workers i)).grip = .emptied := by
        rcases afterDelete_cases (s.workers i) with next | next <;> rw [next] <;> rfl
      rw [goes (afterDelete (s.workers i)) rfl, emptied]
      simp only [runSection]
      rw [watch_deleted (orderly.dead i)]
      exact .deletes grip found
  | subtract =>
      rw [goes .create rfl, ← show (s.watch i).grip = Recovery.create.grip from grip]
      exact .still
  | create =>
      have pc : (s.watch i).pc = .receive := orderly.dead i (orderly.respawned owner i .create rest rfl held)
      rw [goes .clearAbort rfl]
      simp only [runSection, createWorker]
      rw [watch_setWorker, ← pc]
      exact .creates grip pc
  | clearAbort =>
      rw [goes .clearWorking rfl, ← show (s.watch i).grip = Recovery.clearWorking.grip from grip]
      simp only [runSection, clearAbort]
      rw [watch_setWorker]
      exact .still
  | clearWorking =>
      have free : (s.watch i).grip = .none := grip
      rw [goes .park rfl, show Recovery.park.grip = (s.watch i).grip from free.symm]
      simp only [runSection, clearWorking]
      rw [watch_setWorker]
      exact .clears free found
  | park =>
      rw [ends rfl, ← show (s.watch i).grip = .none from grip]
      simp only [runSection]
      rw [watch_setWorker]
      exact .still

theorem watchStep_section {owner : Owner} {body : Section Call} (created : Bool) (orderly : s.Orderly)
    (held : s.lock = some (owner, body)) (allowed : s.Attends (.advance created)) (i : WorkerId) :
    WatchStep i (s.watch i)
      (watch { (s.runSection body created).1 with lock := some (owner, (s.runSection body created).2) } i) := by
  have running := running_held held
  by_cases apart : body.concerns i = false
  · refine .same (runSection_face created apart) (grip_same (s.runSection_timerTask body created) ?_)
    rw [running, Section.grip_apart apart]
    exact runSection_grip created apart
  · cases body with
    | recover j stage rest =>
        obtain rfl : j = i := by simpa [Section.concerns] using apart
        have finds : s.Finds j stage := by simpa only [Attends, running] using allowed
        exact watchStep_aborts created orderly held finds
    | _ => exact absurd rfl apart

theorem watchStep_of_step {action : Action Call} (orderly : s.Orderly) (allowed : s.Attends action)
    (taken : s.step action = some after) (i : WorkerId) : WatchStep i (s.watch i) (after.watch i) := by
  have timedOut (request : Request Call) : WatchStep i (s.watch i) ((s.timedOut request).watch i) := by
    cases request <;> exact .still
  have bodies (request : Request Call) : request.body.concerns i = false := by
    cases request <;> rfl
  cases action with
  | request request =>
      simp only [Runtime.step, Option.ite_none_right_eq_some] at taken
      exact .acquire taken.2 (bodies request)
  | requestTimeout request =>
      simp only [Runtime.step, Option.ite_none_right_eq_some, Option.some.injEq] at taken
      obtain ⟨_, rfl⟩ := taken
      exact timedOut request
  | workTick => exact .acquire taken rfl
  | setActiveState | elapse =>
      cases taken
      exact .still
  | worker j =>
      simp only [Runtime.step, Option.ite_none_right_eq_some] at taken
      by_cases same : i = j
      · subst same
        exact watchStep_worker taken.2 allowed
      · exact watchStep_others (workerStep_of_entry taken.2) same
  | workerTimeout j =>
      simp only [Runtime.step, Option.ite_none_right_eq_some] at taken
      obtain ⟨_, moved⟩ := taken
      cases pc : (s.workers j).pc with
      | counted | evaluate =>
          simp only [pc, Option.some.injEq] at moved
          subst moved
          exact watchStep_timeout (by rw [pc]; rfl) rfl i
      | _ => simp [pc] at moved
  | call j request =>
      simp only [Runtime.step] at taken
      cases pc : (s.workers j).pc with
      | handle =>
          simp only [pc, Option.ite_none_right_eq_some] at taken
          exact .acquire taken.2 (bodies request)
      | _ => simp [pc] at taken
  | callTimeout j request =>
      simp only [Runtime.step] at taken
      cases pc : (s.workers j).pc with
      | handle =>
          simp only [pc, Option.ite_none_right_eq_some, Option.some.injEq] at taken
          obtain ⟨_, rfl⟩ := taken
          exact timedOut request
      | _ => simp [pc] at taken
  | fire timer => exact watchStep_fire orderly taken i
  | timerTask created =>
      simp only [Runtime.step] at taken
      split at taken
      next => cases taken
      next => exact watchStep_timer orderly taken allowed i
  | timerTimeout =>
      simp only [Runtime.step, Option.ite_none_right_eq_some] at taken
      obtain ⟨_, idled⟩ := taken
      cases task : s.timerTask with
      | window | grace | settlement =>
          simp only [task, Option.some.injEq] at idled
          subst idled
          refine .same rfl ?_
          unfold grip
          rw [task]
          rfl
      | _ => simp [task] at idled
  | advance created =>
      obtain ⟨owner, body, held, _, ⟨rfl, rfl⟩ | ⟨_, rfl⟩⟩ := advance_cases taken
      · refine watchStep_release held i fun isTimer => ?_
        subst isTimer
        exact (orderly.owns _ _ held).2
      · exact watchStep_section created orderly held allowed i

end Inversion

end Runtime

end WatchFirmware.RuntimeManager
