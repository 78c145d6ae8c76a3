import Mathlib

set_option autoImplicit false
set_option mvcgen.warning false

open Std.Do

namespace ScopedLock

inductive LockEvent where
  | acquire
  | release
  deriving DecidableEq, Repr

/-- As many acquisitions as releases, and no release before its acquisition. -/
structure Balanced (locks : List LockEvent) : Prop where
  equal : locks.count .acquire = locks.count .release
  preceded : ∀ front, front <+: locks → front.count .release ≤ front.count .acquire

def hold : Nat → LockEvent → Option Nat
  | held, .acquire => some (held + 1)
  | held + 1, .release => some held
  | 0, .release => none

/-- How often the lock is held at the end; `none` where it was released while it was not. -/
def depth (locks : List LockEvent) : Option Nat := locks.foldlM hold 0

theorem depth_concat (locks : List LockEvent) (event : LockEvent) :
    depth (locks ++ [event]) = (depth locks).bind fun held => hold held event := by
  rw [depth, List.foldlM_append]
  change (depth locks).bind (fun held => (hold held event).bind some) = _
  simp

theorem hold_count {held after : Nat} {event : LockEvent} (taken : hold held event = some after) :
    held + [event].count .acquire = after + [event].count .release := by
  cases event with
  | acquire =>
      cases taken
      rfl
  | release =>
      cases held with
      | zero => cases taken
      | succ held =>
          cases taken
          rfl

theorem depth_counts {locks : List LockEvent} {held : Nat} (deep : depth locks = some held) :
    locks.count .acquire = locks.count .release + held ∧
      ∀ front, front <+: locks → front.count .release ≤ front.count .acquire := by
  induction locks using List.reverseRecOn generalizing held with
  | nil =>
      cases deep
      refine ⟨rfl, fun front start => ?_⟩
      rw [List.prefix_nil.mp start]
      exact Nat.le_refl _
  | append_singleton locks event ih =>
      rw [depth_concat] at deep
      obtain ⟨before, earlier, taken⟩ := Option.bind_eq_some_iff.mp deep
      obtain ⟨counts, preceded⟩ := ih earlier
      have counted := hold_count taken
      have whole : (locks ++ [event]).count .acquire = (locks ++ [event]).count .release + held := by
        rw [List.count_append, List.count_append]
        omega
      refine ⟨whole, fun front start => ?_⟩
      obtain rfl | inside := List.prefix_concat_iff.mp start
      next => omega
      next => exact preceded front inside

theorem balanced_of_depth {locks : List LockEvent} (deep : depth locks = some 0) : Balanced locks where
  equal := (depth_counts deep).1
  preceded := (depth_counts deep).2

/-- A device, and what has been done to the lock since the call began. -/
structure Guarded (Device : Type) where
  device : Device
  locks : List LockEvent

abbrev Op (Device : Type) := StateM (Guarded Device)

section Rules

variable {Device Result : Type}

def acquire : Op Device Unit := modify fun state => { state with locks := state.locks ++ [.acquire] }

def release : Op Device Unit := modify fun state => { state with locks := state.locks ++ [.release] }

def access (transfer : Device → Result × Device) : Op Device Result := fun state =>
  ((transfer state.device).1, { state with device := (transfer state.device).2 })

section Running

variable {More : Type} (state : Guarded Device)

@[simp] theorem bind_run (op : Op Device Result) (rest : Result → Op Device More) :
    (op >>= rest) state = rest (op state).1 (op state).2 := rfl

@[simp] theorem pure_run (result : Result) : (pure result : Op Device Result) state = (result, state) := rfl

@[simp] theorem access_run (transfer : Device → Result × Device) :
    access transfer state = ((transfer state.device).1, { state with device := (transfer state.device).2 }) := rfl

@[simp] theorem acquire_run :
    (acquire : Op Device Unit) state = ((), { state with locks := state.locks ++ [.acquire] }) := rfl

@[simp] theorem ite_run (test : Prop) [Decidable test] (yes no : Op Device Result) :
    (if test then yes else no) state = if test then yes state else no state := by
  split <;> rfl

end Running

def taken (held : Option Nat) : Option Nat := held.bind fun held => hold held .acquire

def dropped (held : Option Nat) : Option Nat := held.bind fun held => hold held .release

@[simp] theorem dropped_taken (held : Option Nat) : dropped (taken held) = held := by
  cases held with
  | none => rfl
  | some held => rfl

theorem acquire_depth (held : Option Nat) :
    ⦃fun state => ⌜depth state.locks = held⌝⦄ (acquire : Op Device Unit)
      ⦃⇓ _ state => ⌜depth state.locks = taken held⌝⦄ := by
  intro state deep
  have more : depth (state.locks ++ [.acquire]) = taken held := by
    rw [depth_concat, show depth state.locks = held from deep]
    rfl
  exact more

theorem release_depth (held : Option Nat) :
    ⦃fun state => ⌜depth state.locks = held⌝⦄ (release : Op Device Unit)
      ⦃⇓ _ state => ⌜depth state.locks = dropped held⌝⦄ := by
  intro state deep
  have less : depth (state.locks ++ [.release]) = dropped held := by
    rw [depth_concat, show depth state.locks = held from deep]
    rfl
  exact less

theorem access_depth (held : Option Nat) (transfer : Device → Result × Device) :
    ⦃fun state => ⌜depth state.locks = held⌝⦄ access transfer ⦃⇓ _ state => ⌜depth state.locks = held⌝⦄ := by
  intro state deep
  exact deep

/-- What leaves the depth as it finds it has taken and dropped the lock in pairs. -/
theorem balanced_of_depth_kept {op : Op Device Result}
    (kept : ∀ held, ⦃fun state => ⌜depth state.locks = held⌝⦄ op ⦃⇓ _ state => ⌜depth state.locks = held⌝⦄)
    (device : Device) : Balanced (op ⟨device, []⟩).2.locks := by
  have deep := kept (some 0) ⟨device, []⟩ rfl
  exact balanced_of_depth deep

end Rules

end ScopedLock
