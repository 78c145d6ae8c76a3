import Mathlib

set_option autoImplicit false

namespace CheckedInt

/-- The results that a signed integer of `width` bits holds. -/
def Fits (width : Nat) (value : Int) : Prop := -2 ^ (width - 1) ≤ value ∧ value < 2 ^ (width - 1)

instance (width : Nat) (value : Int) : Decidable (Fits width value) := inferInstanceAs (Decidable (_ ∧ _))

/-- The result of a signed operation; `none` where it overflows. -/
def checked (width : Nat) (value : Int) : Option Int := if Fits width value then some value else none

theorem checked_fits {width : Nat} {value : Int} (fits : Fits width value) : checked width value = some value :=
  if_pos fits

section Operations

variable {width : Nat} {value : Int} {Result : Type}

theorem checked_bind (rest : Int → Option Result) (fits : Fits width value) :
    (checked width value >>= rest) = rest value := by
  rw [checked_fits fits]
  rfl

theorem checked_bind_overflow (rest : Int → Option Result) (overflow : ¬ Fits width value) :
    (checked width value >>= rest) = none := by
  rw [checked, if_neg overflow]
  rfl

theorem mul_within {a b : Int} {m n : Nat} (left : -m ≤ a ∧ a ≤ m) (right : -n ≤ b ∧ b ≤ n) :
    -(m * n : Int) ≤ a * b ∧ a * b ≤ m * n := by
  have first : |a| ≤ m := abs_le.mpr left
  have second : |b| ≤ n := abs_le.mpr right
  have both : |a * b| ≤ m * n := by
    rw [abs_mul]
    exact mul_le_mul first second (abs_nonneg b) (Int.natCast_nonneg m)
  exact abs_le.mp both

theorem root_within {root : Int} {limit : Nat} (square : root * root < (limit + 1 : Int) * (limit + 1)) :
    -limit ≤ root ∧ root ≤ limit := by
  have smaller := abs_lt_iff_mul_self_lt.mpr square
  rw [abs_of_nonneg (by omega : (0 : Int) ≤ limit + 1)] at smaller
  have bounds := abs_lt.mp smaller
  omega

end Operations

def checkedSum (width : Nat) (values : List Int) (start : Int) : Option Int :=
  values.foldlM (fun sum value => checked width (sum + value)) start

theorem checkedSum_fits {width : Nat} {values : List Int} {low high start : Int}
    (each : ∀ value ∈ values, low ≤ value ∧ value ≤ high) (down : low ≤ 0) (up : 0 ≤ high)
    (least : -2 ^ (width - 1) ≤ start + values.length * low)
    (greatest : start + values.length * high < 2 ^ (width - 1)) :
    checkedSum width values start = some (start + values.sum) := by
  induction values generalizing start with
  | nil => simp [checkedSum]
  | cons value rest ih =>
      obtain ⟨above, below⟩ := each value List.mem_cons_self
      rw [List.length_cons, Int.natCast_add, Int.add_mul] at least greatest
      have lower : (rest.length : Int) * low ≤ 0 := Int.mul_nonpos_of_nonneg_of_nonpos (by omega) down
      have upper : 0 ≤ (rest.length : Int) * high := Int.mul_nonneg (by omega) up
      have fits : Fits width (start + value) := by
        constructor
        all_goals omega
      have later := @ih (start + value) (fun other member => each other (List.mem_cons_of_mem _ member))
        (by omega) (by omega)
      unfold checkedSum at later ⊢
      rw [List.foldlM_cons, checked_fits fits, List.sum_cons, ← Int.add_assoc]
      exact later

end CheckedInt
