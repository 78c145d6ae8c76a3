import WatchFirmware.MotionStage1.Signal

set_option autoImplicit false

namespace WatchFirmware.MotionStage1

/-- A float that never rounds: an exact rational, or what lies beyond them. -/
inductive ExactFloat where
  | finite (value : ℚ)
  | infinite (negative : Bool)
  | nan
  deriving DecidableEq

namespace ExactFloat

def negative : ExactFloat → Bool
  | finite x => decide (x < 0)
  | infinite sign => sign
  | nan => false

def add : ExactFloat → ExactFloat → ExactFloat
  | finite x, finite y => finite (x + y)
  | finite _, infinite sign => infinite sign
  | infinite sign, finite _ => infinite sign
  | infinite sign, infinite other => if sign = other then infinite sign else nan
  | nan, _ => nan
  | _, nan => nan

def neg : ExactFloat → ExactFloat
  | finite x => finite (-x)
  | infinite sign => infinite !sign
  | nan => nan

def mul : ExactFloat → ExactFloat → ExactFloat
  | finite x, finite y => finite (x * y)
  | nan, _ => nan
  | _, nan => nan
  | x, y => if x = finite 0 ∨ y = finite 0 then nan else infinite (x.negative != y.negative)

def div : ExactFloat → ExactFloat → ExactFloat
  | finite x, finite y => if y ≠ 0 then finite (x / y) else if x = 0 then nan else infinite (decide (x < 0))
  | finite _, infinite _ => finite 0
  | infinite sign, finite y => infinite (sign != decide (y < 0))
  | infinite _, infinite _ => nan
  | nan, _ => nan
  | _, nan => nan

-- A root that is not rational comes out as the root of a square nearby.
def sqrt : ExactFloat → ExactFloat
  | finite x => if x < 0 then nan else finite (Rat.sqrt x)
  | infinite sign => if sign then nan else infinite false
  | nan => nan

def lt : ExactFloat → ExactFloat → Bool
  | finite x, finite y => decide (x < y)
  | finite _, infinite sign => !sign
  | infinite sign, finite _ => sign
  | infinite sign, infinite other => sign && !other
  | nan, _ => false
  | _, nan => false

def eq (x y : ExactFloat) : Bool := decide (x ≠ nan ∧ x = y)

def le (x y : ExactFloat) : Bool := lt x y || eq x y

instance : FloatOps ExactFloat where
  ofRat := finite
  infinity := infinite false
  add := add
  sub x y := add x y.neg
  mul := mul
  div := div
  sqrt := sqrt
  lt := lt
  le := le
  eq := eq

section Finite

variable (x y : ℚ)

@[simp] theorem ofRat_finite : FloatOps.ofRat x = finite x := rfl

@[simp] theorem mul_finite : FloatOps.mul (finite x) (finite y) = finite (x * y) := rfl

@[simp] theorem sub_finite : FloatOps.sub (finite x) (finite y) = finite (x - y) := by
  change finite (x + -y) = finite (x - y)
  rw [sub_eq_add_neg]

@[simp] theorem lt_finite : FloatOps.lt (finite x) (finite y) = decide (x < y) := rfl

@[simp] theorem le_finite : FloatOps.le (finite x) (finite y) = decide (x ≤ y) := by
  have comparable : x < y ∨ x = y ↔ x ≤ y := le_iff_lt_or_eq.symm
  change (decide (x < y) || eq (finite x) (finite y)) = _
  simp [eq, ← comparable]

end Finite

theorem lt_asymmetric (x y : ExactFloat) (less : FloatOps.lt x y = true) : FloatOps.lt y x = false := by
  change lt x y = true at less
  change lt y x = false
  cases x with
  | finite value =>
      cases y with
      | finite other =>
          simp only [lt, decide_eq_true_eq, decide_eq_false_iff_not] at less ⊢
          exact not_lt_of_gt less
      | infinite negative => simpa [lt] using less
      | nan => cases less
  | infinite negative =>
      cases y with
      | finite other => simpa [lt] using less
      | infinite other => cases negative <;> cases other <;> simp_all [lt]
      | nan => cases less
  | nan => cases less

end ExactFloat

end WatchFirmware.MotionStage1
