import WatchFirmware.Shared.Tally
import WatchFirmware.Shared.Transition

set_option autoImplicit false

namespace WatchFirmware.WakelockManager

open Transition

abbrev intMax : Int := 2147483647
abbrev intMin : Int := -2147483648

/-- What an `int` keeps of a result. -/
def toInt (value : Int) : Int := Int.bmod value (2 ^ 32)

theorem toInt_eq {value : Int} (least : intMin ≤ value) (most : value ≤ intMax) : toInt value = value := by
  simp only [intMin, intMax] at least most
  simp only [toInt, Int.bmod_def]
  omega

/-- `wakelock_counter` and the callers. A task holds as many wakelocks as acquires of its are not
released yet; `correcting` are the tasks between the two atomic operations of a release. -/
structure Wakelocks (Task : Type) where
  counter : Int
  held : Task → Nat
  correcting : Task → Bool

inductive Action (Task : Type) where
  | acquire (task : Task)
  /-- The decrement of a release. -/
  | release (task : Task)
  /-- The store of zero where the decrement found no wakelock. -/
  | correct (task : Task)
  deriving DecidableEq, Repr

namespace Wakelocks

variable {Task : Type} [Fintype Task] [DecidableEq Task]

/-- After `wakelock_manager_init`. -/
def initial : Wakelocks Task where
  counter := 0
  held _ := 0
  correcting _ := false

def isWakeLocked (s : Wakelocks Task) : Bool := decide (0 < s.counter)

def acquireWakelock (s : Wakelocks Task) (task : Task) : Wakelocks Task :=
  { s with counter := toInt (s.counter + 1), held := Function.update s.held task (s.held task + 1) }

-- A release by a task that holds nothing is spurious; the code cannot tell it from another.
def releaseWakelock (s : Wakelocks Task) (task : Task) : Wakelocks Task :=
  { counter := toInt (s.counter - 1)
    held := Function.update s.held task (s.held task - 1)
    correcting := Function.update s.correcting task (decide (s.counter ≤ 0)) }

def correctCounter (s : Wakelocks Task) (task : Task) : Wakelocks Task :=
  { s with counter := 0, correcting := Function.update s.correcting task false }

def step : Step (Wakelocks Task) (Action Task) := fun s action =>
  match action with
  | .acquire task => if s.correcting task then none else some (s.acquireWakelock task)
  | .release task => if s.correcting task then none else some (s.releaseWakelock task)
  | .correct task => if s.correcting task then some (s.correctCounter task) else none

def holders (s : Wakelocks Task) : Nat := ∑ task, s.held task

def Free (s : Wakelocks Task) : Prop := ∀ task, s.held task = 0

def Completed (s : Wakelocks Task) : Prop := ∀ task, s.correcting task = false

instance (s : Wakelocks Task) : Decidable s.Free := inferInstanceAs (Decidable (∀ _, _))

instance (s : Wakelocks Task) : Decidable s.Completed := inferInstanceAs (Decidable (∀ _, _))

structure Counts (s : Wakelocks Task) : Prop where
  held : ∀ task, 0 < s.held task → s.isWakeLocked = true
  completed : s.Completed → s.counter = s.holders

/-- A spurious release finds no wakelock held, an acquire no spurious decrement that is not corrected,
and a correction no wakelock acquired since; and no operation overflows the counter. -/
def Clean (s : Wakelocks Task) : Action Task → Prop
  | .acquire _ => 0 ≤ s.counter ∧ s.counter < intMax
  | .release task => s.held task = 0 → s.Free ∧ intMin < s.counter
  | .correct _ => s.Free

instance (s : Wakelocks Task) (action : Action Task) : Decidable (s.Clean action) :=
  match action with
  | .acquire _ => inferInstanceAs (Decidable (_ ∧ _))
  | .release _ => inferInstanceAs (Decidable (_ → _))
  | .correct _ => inferInstanceAs (Decidable (Free s))

variable {s : Wakelocks Task}

omit [DecidableEq Task] in
theorem holders_eq_zero : s.holders = 0 ↔ s.Free := by
  simp [holders, Free]

omit [DecidableEq Task] in
theorem held_le_holders (s : Wakelocks Task) (task : Task) : s.held task ≤ s.holders :=
  Finset.single_le_sum (fun _ _ => Nat.zero_le _) (Finset.mem_univ task)

theorem holders_acquire (s : Wakelocks Task) (task : Task) :
    (s.acquireWakelock task).holders = s.holders + 1 := by
  have changed := Tally.sum_update id s.held task (s.held task + 1)
  simp only [id] at changed
  simp only [holders, acquireWakelock]
  omega

theorem holders_release (s : Wakelocks Task) (task : Task) :
    (s.releaseWakelock task).holders + s.held task = s.holders + (s.held task - 1) :=
  Tally.sum_update id s.held task (s.held task - 1)

/-- What a clean run keeps: with nothing held the counter may be short of the corrections under way. -/
structure Tracked (s : Wakelocks Task) : Prop where
  held : 0 < s.holders → s.counter = s.holders
  free : s.holders = 0 → s.counter ≤ 0
  completed : s.holders = 0 → s.Completed → s.counter = 0
  bound : s.counter ≤ intMax

omit [DecidableEq Task] in
theorem initial_tracked : (initial : Wakelocks Task).Tracked := by
  have none_held : (initial : Wakelocks Task).holders = 0 := holders_eq_zero.mpr fun _ => rfl
  constructor
  case held =>
    intro some_held
    omega
  case free => exact fun _ => le_refl 0
  case completed => exact fun _ _ => rfl
  case bound => exact Int.natCast_nonneg _

theorem Tracked.acquire (tracked : s.Tracked) {task : Task} (clean : s.Clean (.acquire task)) :
    (s.acquireWakelock task).Tracked := by
  obtain ⟨corrected, room⟩ := clean
  have more := holders_acquire s task
  have held := tracked.held
  have free := tracked.free
  have counted : (s.acquireWakelock task).counter = s.counter + 1 := by
    apply toInt_eq
    next => simp only [intMin]; omega
    next => omega
  -- a counter that is not negative is the number of wakelocks held
  have number : s.counter = s.holders := by
    by_cases none_held : s.holders = 0
    next =>
      have low := free none_held
      omega
    next => exact held (Nat.pos_of_ne_zero none_held)
  constructor
  case held =>
    intro _
    rw [counted, more, number]
    rfl
  case free => omega
  case completed => omega
  case bound => omega

theorem Tracked.releaseHeld (tracked : s.Tracked) {task : Task} (holding : 0 < s.held task) :
    (s.releaseWakelock task).Tracked := by
  have fewer := holders_release s task
  have some_held : 0 < s.holders := Nat.lt_of_lt_of_le holding (held_le_holders s task)
  have number := tracked.held some_held
  have bound := tracked.bound
  have counted : (s.releaseWakelock task).counter = s.counter - 1 := by
    apply toInt_eq
    next => simp only [intMin]; omega
    next => omega
  constructor
  case held => omega
  case free => omega
  case completed => omega
  case bound => omega

theorem Tracked.releaseSpurious (tracked : s.Tracked) {task : Task} (spurious : s.held task = 0)
    (clean : s.Clean (.release task)) : (s.releaseWakelock task).Tracked := by
  obtain ⟨free, room⟩ := clean spurious
  have fewer := holders_release s task
  have none_held := holders_eq_zero.mpr free
  have low := tracked.free none_held
  have counted : (s.releaseWakelock task).counter = s.counter - 1 := by
    apply toInt_eq
    next => omega
    next => simp only [intMax]; omega
  constructor
  case held => omega
  case free => omega
  case completed =>
    intro _ completed
    have correcting := completed task
    simp only [releaseWakelock, Function.update_self] at correcting
    exact (of_decide_eq_false correcting low).elim
  case bound => simp only [intMax]; omega

theorem Tracked.correct {task : Task} (clean : s.Clean (.correct task)) : (s.correctCounter task).Tracked := by
  have none_held : (s.correctCounter task).holders = 0 := holders_eq_zero.mpr clean
  constructor
  case held => omega
  case free => exact fun _ => le_refl 0
  case completed => exact fun _ _ => rfl
  case bound => exact Int.natCast_nonneg _

theorem Tracked.step {after : Wakelocks Task} {action : Action Task} (tracked : s.Tracked)
    (clean : s.Clean action) (taken : step s action = some after) : after.Tracked := by
  cases action with
  | acquire task =>
      simp only [Wakelocks.step] at taken
      split at taken
      next => contradiction
      next =>
        cases taken
        exact tracked.acquire clean
  | release task =>
      simp only [Wakelocks.step] at taken
      split at taken
      next => contradiction
      next =>
        cases taken
        by_cases spurious : s.held task = 0
        next => exact tracked.releaseSpurious spurious clean
        next => exact tracked.releaseHeld (Nat.pos_of_ne_zero spurious)
  | correct task =>
      simp only [Wakelocks.step] at taken
      split at taken
      next =>
        cases taken
        exact Tracked.correct clean
      next => contradiction

omit [DecidableEq Task] in
theorem Tracked.counts (tracked : s.Tracked) : s.Counts := by
  constructor
  case held =>
    intro task holding
    have some_held : 0 < s.holders := Nat.lt_of_lt_of_le holding (held_le_holders s task)
    have number := tracked.held some_held
    apply decide_eq_true
    omega
  case completed =>
    intro completed
    by_cases none_held : s.holders = 0
    next =>
      rw [tracked.completed none_held completed, none_held]
      rfl
    next => exact tracked.held (Nat.pos_of_ne_zero none_held)

/-- A step that is not clean leaves the counter short of the wakelocks held, unless it is a decrement
that overflows. -/
theorem Tracked.unclean {after : Wakelocks Task} {action : Action Task} (tracked : s.Tracked)
    (room : intMin < s.counter) (unclean : ¬s.Clean action) (taken : Wakelocks.step s action = some after) :
    after.counter < after.holders := by
  have bound := tracked.bound
  cases action with
  | acquire task =>
      have more := holders_acquire s task
      simp only [Wakelocks.step] at taken
      split at taken
      next => contradiction
      next =>
        cases taken
        by_cases negative : s.counter < 0
        next =>
          have counted : (s.acquireWakelock task).counter = s.counter + 1 := by
            apply toInt_eq
            next => omega
            next => simp only [intMax]; omega
          omega
        next =>
          have full : s.counter = intMax := by
            by_contra less
            exact unclean ⟨by omega, by omega⟩
          have wrapped : (s.acquireWakelock task).counter = intMin := by
            have overflow : toInt (intMax + 1) = intMin := by decide
            rw [← overflow, ← full]
            rfl
          simp only [intMin] at wrapped
          omega
  | release task =>
      have fewer := holders_release s task
      simp only [Wakelocks.step] at taken
      split at taken
      next => contradiction
      next =>
        cases taken
        have spurious : s.held task = 0 := by
          by_contra holding
          exact unclean fun none_held => absurd none_held holding
        have some_held : 0 < s.holders := by
          apply Nat.pos_of_ne_zero
          exact fun none_held => unclean fun _ => ⟨holders_eq_zero.mp none_held, room⟩
        have number := tracked.held some_held
        have counted : (s.releaseWakelock task).counter = s.counter - 1 := by
          apply toInt_eq
          next => omega
          next => omega
        omega
  | correct task =>
      simp only [Wakelocks.step] at taken
      split at taken
      next =>
        cases taken
        have some_held : s.holders ≠ 0 := mt holders_eq_zero.mp unclean
        have same : (s.correctCounter task).holders = s.holders := rfl
        have stored : (s.correctCounter task).counter = 0 := rfl
        omega
      next => contradiction

/-- In every interleaving whose steps are clean a held wakelock counts. -/
theorem held_wakelock_counts (reached : Reach step (· = initial) Clean s) : s.Counts := by
  have tracked : s.Tracked := by
    apply reached.invariant
    next =>
      rintro _ rfl
      exact initial_tracked
    next => exact fun _ _ _ holds clean taken => holds.step clean taken
  exact tracked.counts

theorem held_wakelock_counts_corrected :
    ∃ s, run step (initial : Wakelocks (Fin 2))
        [.release 0, .correct 0, .acquire 0, .acquire 1, .release 0] = some s ∧ s.held 1 = 1 ∧ s.Counts := by
  have clean : Guarded step Clean (initial : Wakelocks (Fin 2))
      [.release 0, .correct 0, .acquire 0, .acquire 1, .release 0] := by decide
  exact ⟨_, rfl, by decide, held_wakelock_counts (.of_run (.start rfl) clean rfl)⟩

/-- An acquire between the two operations of a spurious release is wiped out. -/
theorem held_wakelock_wiped_out :
    ∃ s, Reach step (· = initial) Unguarded s ∧
      run step (initial : Wakelocks (Fin 2)) [.release 0, .acquire 1, .correct 0] = some s ∧
      s.held 1 = 1 ∧ s.Completed ∧ s.isWakeLocked = false ∧ ¬s.Counts := by
  have lost (s : Wakelocks (Fin 2)) (holding : s.held 1 = 1) (unlocked : s.isWakeLocked = false) : ¬s.Counts := by
    intro counts
    have locked := counts.held 1 (by omega)
    rw [unlocked] at locked
    contradiction
  refine ⟨_, ?_, rfl, by decide, by decide, by decide, lost _ (by decide) (by decide)⟩
  exact .of_run (.start rfl) (guarded_unguarded _ _ [.release 0, .acquire 1, .correct 0]) rfl

end Wakelocks

end WatchFirmware.WakelockManager
