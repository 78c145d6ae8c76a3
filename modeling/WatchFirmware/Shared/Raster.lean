import Mathlib

set_option autoImplicit false

namespace Raster

abbrev Cell := Nat × Nat

structure Window where
  left : Nat
  right : Nat
  top : Nat
  bottom : Nat
  deriving DecidableEq, Repr

namespace Window

def width (window : Window) : Nat := window.right + 1 - window.left

def height (window : Window) : Nat := window.bottom + 1 - window.top

def size (window : Window) : Nat := window.width * window.height

structure Wf (window : Window) : Prop where
  columns : window.left ≤ window.right
  rows : window.top ≤ window.bottom

def Inside (window : Window) (cell : Cell) : Prop :=
  (window.left ≤ cell.1 ∧ cell.1 ≤ window.right) ∧ window.top ≤ cell.2 ∧ cell.2 ≤ window.bottom

instance (window : Window) (cell : Cell) : Decidable (window.Inside cell) := inferInstanceAs (Decidable (_ ∧ _))

def cell (window : Window) (steps : Nat) : Cell :=
  (window.left + steps % window.width, window.top + steps / window.width)

def index (window : Window) (cell : Cell) : Nat :=
  (cell.2 - window.top) * window.width + (cell.1 - window.left)

def next (window : Window) (cell : Cell) : Cell :=
  if cell.1 < window.right then (cell.1 + 1, cell.2)
  else (window.left, if cell.2 < window.bottom then cell.2 + 1 else window.top)

variable {window : Window} {steps : Nat}

theorem Wf.width_pos (wf : window.Wf) : 0 < window.width := by
  have columns := wf.columns
  unfold width
  omega

theorem cell_zero : window.cell 0 = (window.left, window.top) := by
  simp [cell]

theorem cell_inside (wf : window.Wf) (inside : steps < window.size) : window.Inside (window.cell steps) := by
  have column : steps % window.width < window.width := Nat.mod_lt _ wf.width_pos
  have row : steps / window.width < window.height := Nat.div_lt_of_lt_mul inside
  have columns := wf.columns
  have rows := wf.rows
  unfold Inside cell
  generalize steps % window.width = across at column
  generalize steps / window.width = down at row
  unfold width at column
  unfold height at row
  dsimp only
  omega

theorem index_cell : window.index (window.cell steps) = steps := by
  rw [index, cell, Nat.add_sub_cancel_left, Nat.add_sub_cancel_left]
  exact Nat.div_add_mod' steps window.width

theorem Inside.offset_lt {cell : Cell} (inside : window.Inside cell) :
    cell.1 - window.left < window.width ∧ cell.2 - window.top < window.height := by
  obtain ⟨⟨_, _⟩, _, _⟩ := inside
  unfold width height
  omega

theorem cell_index {cell : Cell} (inside : window.Inside cell) : window.cell (window.index cell) = cell := by
  obtain ⟨column, _⟩ := inside.offset_lt
  have rest : window.index cell % window.width = cell.1 - window.left := by
    rw [index, Nat.mul_add_mod', Nat.mod_eq_of_lt column]
  have whole : window.index cell / window.width = cell.2 - window.top := by
    rw [index, Nat.mul_comm, Nat.mul_add_div (by omega), Nat.div_eq_of_lt column, Nat.add_zero]
  obtain ⟨⟨left, _⟩, top, _⟩ := inside
  unfold Window.cell
  rw [rest, whole]
  ext
  · exact Nat.add_sub_cancel' left
  · exact Nat.add_sub_cancel' top

theorem index_lt {cell : Cell} (inside : window.Inside cell) : window.index cell < window.size := by
  obtain ⟨column, row⟩ := inside.offset_lt
  have rows : (cell.2 - window.top + 1) * window.width ≤ window.height * window.width := Nat.mul_le_mul_right _ row
  rw [size, Nat.mul_comm, index]
  rw [Nat.add_mul, Nat.one_mul] at rows
  omega

theorem next_cell (wf : window.Wf) (more : steps + 1 < window.size) :
    window.next (window.cell steps) = window.cell (steps + 1) := by
  have positive := wf.width_pos
  have split := Nat.div_add_mod steps window.width
  have column : steps % window.width < window.width := Nat.mod_lt _ positive
  have row : (steps + 1) / window.width < window.height := Nat.div_lt_of_lt_mul more
  have columns := wf.columns
  have right : window.right + 1 = window.left + window.width := by
    unfold width
    omega
  have bottom : window.bottom + 1 = window.top + window.height := by
    have rows := wf.rows
    unfold height
    omega
  by_cases last : steps % window.width + 1 = window.width
  next =>
    have wrapped : (steps + 1) % window.width = 0 ∧ (steps + 1) / window.width = steps / window.width + 1 := by
      have whole : steps + 1 = window.width * (steps / window.width + 1) := by
        rw [Nat.mul_add, Nat.mul_one]
        omega
      rw [whole]
      exact ⟨Nat.mul_mod_right _ _, Nat.mul_div_cancel_left _ positive⟩
    obtain ⟨rest, whole⟩ := wrapped
    rw [whole] at row
    have end_ : ¬window.left + steps % window.width < window.right := by omega
    have below : window.top + steps / window.width < window.bottom := by omega
    simp only [next, cell, if_neg end_, if_pos below, rest, whole, Nat.add_zero, Nat.add_assoc]
  next =>
    have same : (steps + 1) % window.width = steps % window.width + 1 ∧
        (steps + 1) / window.width = steps / window.width := by
      have inRow : steps % window.width + 1 < window.width := by omega
      have whole : steps + 1 = window.width * (steps / window.width) + (steps % window.width + 1) := by omega
      constructor
      · rw [whole, Nat.mul_add_mod, Nat.mod_eq_of_lt inRow]
      · rw [whole, Nat.mul_add_div positive, Nat.div_eq_of_lt inRow, Nat.add_zero]
    obtain ⟨rest, whole⟩ := same
    have middle : window.left + steps % window.width < window.right := by omega
    simp only [next, cell, if_pos middle, rest, whole, Nat.add_assoc]

end Window

section Paint

variable {Pixel : Type} {window : Window} {pixels other : Nat → Pixel} {picture : Cell → Pixel}

def paintFirst (window : Window) (pixels : Nat → Pixel) (count : Nat) (picture : Cell → Pixel) : Cell → Pixel :=
  fun cell => if window.Inside cell ∧ window.index cell < count then pixels (window.index cell) else picture cell

def paint (window : Window) (pixels : Nat → Pixel) (picture : Cell → Pixel) : Cell → Pixel :=
  fun cell => if window.Inside cell then pixels (window.index cell) else picture cell

theorem paintFirst_zero : paintFirst window pixels 0 picture = picture := by
  funext cell
  simp [paintFirst]

theorem paintFirst_size : paintFirst window pixels window.size picture = paint window pixels picture := by
  funext cell
  unfold paintFirst paint
  by_cases inside : window.Inside cell
  next => simp [inside, Window.index_lt inside]
  next => simp [inside]

theorem paintFirst_succ (wf : window.Wf) {count : Nat} (more : count < window.size) :
    Function.update (paintFirst window pixels count picture) (window.cell count) (pixels count) =
      paintFirst window pixels (count + 1) picture := by
  funext cell
  by_cases here : cell = window.cell count
  next =>
    have inside := Window.cell_inside wf more
    have index := @Window.index_cell window count
    simp [here, paintFirst, inside, index]
  next =>
    have other (inside : window.Inside cell) : window.index cell ≠ count := by
      intro same
      exact here (by rw [← same, Window.cell_index inside])
    rw [Function.update_of_ne here]
    unfold paintFirst
    by_cases inside : window.Inside cell
    next =>
      have apart := other inside
      have bound : window.index cell < count ↔ window.index cell < count + 1 := by omega
      simp only [inside, bound]
    next => simp [inside]

/-- Of a picture that is being painted, every cell is the old one or the new one. -/
theorem paintFirst_old_or_new (count : Nat) (cell : Cell) :
    paintFirst window pixels count picture cell = picture cell ∨
      paintFirst window pixels count picture cell = paint window pixels picture cell := by
  unfold paintFirst paint
  by_cases done : window.Inside cell ∧ window.index cell < count
  next =>
    rw [if_pos done, if_pos done.1]
    exact .inr rfl
  next =>
    rw [if_neg done]
    exact .inl rfl

end Paint

end Raster
