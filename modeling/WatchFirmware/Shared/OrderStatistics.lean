import Mathlib

set_option autoImplicit false

namespace OrderStatistics

variable {α : Type} [LinearOrder α] {sorted outliers others : List α}

theorem countP_low (ordered : sorted.Pairwise (· ≤ ·)) {bound : α} {i : Nat} (inside : i < sorted.length)
    (small : sorted[i] < bound) : i + 1 ≤ sorted.countP (· < bound) := by
  have front : (sorted.take (i + 1)).countP (· < bound) = (sorted.take (i + 1)).length := by
    rw [List.countP_eq_length]
    intro value member
    obtain ⟨j, before, rfl⟩ := List.mem_iff_getElem.mp member
    rw [List.length_take] at before
    rw [List.getElem_take, decide_eq_true_eq]
    exact lt_of_le_of_lt (ordered.rel_get_of_le (a := ⟨j, by omega⟩) (b := ⟨i, inside⟩) (by simp; omega)) small
  rw [← List.take_append_drop (i + 1) sorted, List.countP_append, front, List.length_take]
  omega

theorem countP_high (ordered : sorted.Pairwise (· ≤ ·)) {bound : α} {i : Nat} (inside : i < sorted.length)
    (large : bound < sorted[i]) : sorted.length - i ≤ sorted.countP (bound < ·) := by
  have back : (sorted.drop i).countP (bound < ·) = (sorted.drop i).length := by
    rw [List.countP_eq_length]
    intro value member
    obtain ⟨j, before, rfl⟩ := List.mem_iff_getElem.mp member
    rw [List.length_drop] at before
    rw [List.getElem_drop, decide_eq_true_eq]
    exact lt_of_lt_of_le large (ordered.rel_get_of_le (a := ⟨i, inside⟩) (b := ⟨i + j, by omega⟩) (by simp))
  rw [← List.take_append_drop i sorted, List.countP_append, List.take_append_drop, back, List.length_drop]
  omega

/-- Away from both ends, further than there are outliers, a sorted list stays among the others. -/
theorem middle_within (ordered : sorted.Pairwise (· ≤ ·)) (split : (outliers ++ others).Perm sorted)
    {low high : α} (within : ∀ value ∈ others, low ≤ value ∧ value ≤ high) {i : Nat}
    (front : outliers.length ≤ i) (back : i + outliers.length < sorted.length) :
    low ≤ sorted[i] ∧ sorted[i] ≤ high := by
  have counted : ∀ test : α → Bool, (∀ value ∈ others, test value = false) →
      sorted.countP test ≤ outliers.length := by
    intro test none
    have passed : others.countP test = 0 := List.countP_eq_zero.mpr fun value member => by
      simp [none value member]
    rw [← split.countP_eq test, List.countP_append, passed]
    exact List.countP_le_length
  constructor
  · by_contra small
    have many := countP_low ordered (by omega : i < sorted.length) (not_le.mp small)
    have few := counted (· < low) fun value member => decide_eq_false (not_lt.mpr (within value member).1)
    omega
  · by_contra large
    have many := countP_high ordered (by omega : i < sorted.length) (not_le.mp large)
    have few := counted (high < ·) fun value member => decide_eq_false (not_lt.mpr (within value member).2)
    omega

end OrderStatistics
