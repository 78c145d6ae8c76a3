import Mathlib

set_option autoImplicit false

namespace PiecewiseLinear

-- An argument and the value there.
abbrev Knot := Int × Int

def segment (left right : Knot) (x : Int) : Int :=
  left.2 + ((x - left.1) * (right.2 - left.2)).tdiv (right.1 - left.1)

/-- Integer interpolation; the first segment that holds the argument decides. -/
def eval : List Knot → Int → Option Int
  | left :: right :: rest, x =>
      if left.1 ≤ x ∧ x ≤ right.1 then some (segment left right x) else eval (right :: rest) x
  | [_], _ | [], _ => none

abbrev Ascends (left right : Knot) : Prop := left.1 < right.1 ∧ left.2 ≤ right.2

def Ascending (knots : List Knot) : Prop := knots.Pairwise Ascends

section Segment

variable {left right : Knot} (ascends : Ascends left right)

include ascends

theorem segment_mono {x y : Int} (le : x ≤ y) : segment left right x ≤ segment left right y := by
  have rise : (x - left.1) * (right.2 - left.2) ≤ (y - left.1) * (right.2 - left.2) :=
    Int.mul_le_mul_of_nonneg_right (by omega) (by omega)
  have divided := Int.tdiv_le_tdiv (c := right.1 - left.1) (by omega) rise
  unfold segment
  omega

theorem segment_bounds {x : Int} (after : left.1 ≤ x) (before : x ≤ right.1) :
    left.2 ≤ segment left right x ∧ segment left right x ≤ right.2 := by
  have atLeft : segment left right left.1 = left.2 := by simp [segment]
  have atRight : segment left right right.1 = right.2 := by
    rw [segment, Int.mul_comm, Int.mul_tdiv_cancel _ (by omega)]
    omega
  have low := segment_mono ascends after
  have high := segment_mono ascends before
  omega

end Segment

theorem eval_lower {left : Knot} {rest : List Knot} (ascending : Ascending (left :: rest)) {x value : Int}
    (found : eval (left :: rest) x = some value) : left.1 ≤ x ∧ left.2 ≤ value := by
  induction rest generalizing left with
  | nil => cases found
  | cons right rest ih =>
      obtain ⟨above, later⟩ := List.pairwise_cons.mp ascending
      have ascends := above right List.mem_cons_self
      rw [eval] at found
      split at found
      next inside =>
        cases found
        exact ⟨inside.1, (segment_bounds ascends inside.1 inside.2).1⟩
      next =>
        have lower := ih later found
        omega

theorem eval_upper {knots : List Knot} (ascending : Ascending knots) {bound : Int}
    (bounded : ∀ knot ∈ knots, knot.2 ≤ bound) {x value : Int} (found : eval knots x = some value) :
    value ≤ bound := by
  induction knots with
  | nil => cases found
  | cons left rest ih =>
      cases rest with
      | nil => cases found
      | cons right rest =>
          obtain ⟨above, later⟩ := List.pairwise_cons.mp ascending
          rw [eval] at found
          split at found
          next inside =>
            cases found
            have high := (segment_bounds (above right List.mem_cons_self) inside.1 inside.2).2
            have last := bounded right (by simp)
            omega
          next => exact ih later (fun knot member => bounded knot (List.mem_cons_of_mem _ member)) found

theorem eval_mono {knots : List Knot} (ascending : Ascending knots) {x y first second : Int} (le : x ≤ y)
    (atX : eval knots x = some first) (atY : eval knots y = some second) : first ≤ second := by
  induction knots with
  | nil => cases atX
  | cons left rest ih =>
      cases rest with
      | nil => cases atX
      | cons right rest =>
          obtain ⟨above, later⟩ := List.pairwise_cons.mp ascending
          have ascends := above right List.mem_cons_self
          rw [eval] at atX atY
          split at atX
          next inside =>
            cases atX
            split at atY
            next =>
              cases atY
              exact segment_mono ascends le
            next =>
              have high := (segment_bounds ascends inside.1 inside.2).2
              have low := (eval_lower later atY).2
              omega
          next outside =>
            have beyond := (eval_lower later atX).1
            rw [if_neg (by omega)] at atY
            exact ih later atX atY

theorem eval_total {left right : Knot} {rest : List Knot} {x : Int} (after : left.1 ≤ x)
    (before : x ≤ ((right :: rest).getLast (List.cons_ne_nil _ _)).1) :
    ∃ value, eval (left :: right :: rest) x = some value := by
  induction rest generalizing left right with
  | nil => exact ⟨_, if_pos ⟨after, before⟩⟩
  | cons next rest ih =>
      rw [eval]
      split
      next => exact ⟨_, rfl⟩
      next outside => exact ih (by omega) (by rwa [List.getLast_cons (List.cons_ne_nil _ _)] at before)

end PiecewiseLinear
