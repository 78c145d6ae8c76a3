import Mathlib

set_option autoImplicit false

namespace Replay

variable {Op Key Value : Type}

/-- How an operation acts on a store: which keys it touches, and what it leaves there. -/
structure Effect (Op Key Value : Type) where
  touches : Op → Key → Bool
  leaves : Op → Key → Value

variable (effect : Effect Op Key Value)

def apply (store : Key → Value) (op : Op) : Key → Value := fun key =>
  if effect.touches op key then effect.leaves op key else store key

def run (ops : List Op) (store : Key → Value) : Key → Value := ops.foldl (apply effect) store

def touching (key : Key) (ops : List Op) : List Op := ops.filter fun op => effect.touches op key

theorem run_congr {key : Key} (ops : List Op) {one other : Key → Value} (same : one key = other key) :
    run effect ops one key = run effect ops other key := by
  induction ops generalizing one other with
  | nil => exact same
  | cons op rest ih =>
      refine ih ?_
      simp only [apply, same]

/-- The value of a key depends on the operations that touch it only. -/
theorem run_touching (key : Key) (ops : List Op) (store : Key → Value) :
    run effect ops store key = run effect (touching effect key ops) store key := by
  induction ops generalizing store with
  | nil => rfl
  | cons op rest ih =>
      by_cases touched : effect.touches op key = true
      · simpa [run, touching, touched] using ih (apply effect store op)
      · have dropped : touching effect key (op :: rest) = touching effect key rest := by
          simp [touching, touched]
        rw [dropped, ← ih store]
        exact run_congr effect rest (by simp [apply, touched])

theorem run_eq_of_touching {key : Key} {first second : List Op} {store : Key → Value}
    (same : touching effect key first = touching effect key second) :
    run effect first store key = run effect second store key := by
  rw [run_touching, same, ← run_touching]

end Replay
