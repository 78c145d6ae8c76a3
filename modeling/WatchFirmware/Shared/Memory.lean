import Mathlib

set_option autoImplicit false

namespace Memory

variable {α : Type}

/-- The `length` cells at `offset`; `none` when they reach past the end of the buffer. -/
def read (buffer : List α) (offset length : Nat) : Option (List α) :=
  if offset + length ≤ buffer.length then some ((buffer.drop offset).take length) else none

/-- Overwrite the cells at `offset`; `none` when they reach past the end of the buffer. -/
def write (buffer : List α) (offset : Nat) (source : List α) : Option (List α) :=
  if offset + source.length ≤ buffer.length then
    some (buffer.take offset ++ source ++ buffer.drop (offset + source.length))
  else none

theorem read_some {buffer cells : List α} {offset length : Nat}
    (found : read buffer offset length = some cells) :
    offset + length ≤ buffer.length ∧ cells = (buffer.drop offset).take length := by
  unfold read at found
  split at found
  next inside => exact ⟨inside, (Option.some.inj found).symm⟩
  next => cases found

theorem read_inside {buffer : List α} {offset length : Nat}
    (inside : offset + length ≤ buffer.length) :
    read buffer offset length = some ((buffer.drop offset).take length) := if_pos inside

theorem write_inside {buffer source : List α} {offset : Nat}
    (inside : offset + source.length ≤ buffer.length) :
    write buffer offset source =
      some (buffer.take offset ++ source ++ buffer.drop (offset + source.length)) := if_pos inside

theorem write_length {buffer source after : List α} {offset : Nat}
    (written : write buffer offset source = some after) : after.length = buffer.length := by
  unfold write at written
  split at written
  next inside =>
    cases written
    simp
    omega
  next => cases written

theorem write_take {buffer source after : List α} {offset : Nat}
    (written : write buffer offset source = some after) :
    after.take (offset + source.length) = buffer.take offset ++ source := by
  unfold write at written
  split at written
  next inside =>
    cases written
    apply List.take_left'
    simp
    omega
  next => cases written

theorem write_bound {buffer source after : List α} {offset : Nat}
    (written : write buffer offset source = some after) : offset + source.length ≤ buffer.length := by
  unfold write at written
  split at written
  next inside => exact inside
  next => cases written

theorem write_getElem? {buffer source after : List α} {offset : Nat}
    (written : write buffer offset source = some after) (k : Nat) :
    after[k]? = if offset ≤ k ∧ k < offset + source.length then source[k - offset]? else buffer[k]? := by
  unfold write at written
  split at written
  next inside =>
    cases written
    have front : (buffer.take offset).length = offset := by
      rw [List.length_take]
      omega
    rw [List.append_assoc, List.getElem?_append, front]
    by_cases before : k < offset
    · rw [if_pos before, if_neg (by omega), List.getElem?_take_of_lt before]
    · rw [if_neg before, List.getElem?_append]
      by_cases within : k < offset + source.length
      · rw [if_pos (by omega), if_pos (by omega)]
      · rw [if_neg (by omega), if_neg (by omega), List.getElem?_drop]
        congr 1
        omega
  next => cases written

theorem write_apart {buffer source after : List α} {offset other length : Nat}
    (written : write buffer offset source = some after)
    (apart : other + length ≤ offset ∨ offset + source.length ≤ other) :
    (after.drop other).take length = (buffer.drop other).take length := by
  apply List.ext_getElem?
  intro k
  simp only [List.getElem?_take, List.getElem?_drop, write_getElem? written]
  by_cases inside : k < length
  · rw [if_pos inside, if_pos inside, if_neg (by omega)]
  · rw [if_neg inside, if_neg inside]

theorem write_same {buffer source after : List α} {offset : Nat}
    (written : write buffer offset source = some after) :
    (after.drop offset).take source.length = source := by
  have upTo := congrArg (List.drop offset) (write_take written)
  have bound := write_bound written
  rw [List.drop_take, Nat.add_sub_cancel_left] at upTo
  rw [upTo, List.drop_left' (by rw [List.length_take]; omega)]

/-- The buffer as elements of `size` cells each. -/
def slot (buffer : List α) (size k : Nat) : List α := (buffer.drop (k * size)).take size

def slots (buffer : List α) (size count : Nat) : List (List α) := (List.range count).map (slot buffer size)

@[simp] theorem slots_length (buffer : List α) (size count : Nat) : (slots buffer size count).length = count := by
  simp [slots]

theorem slots_getElem? (buffer : List α) (size : Nat) {count k : Nat} (inside : k < count) :
    (slots buffer size count)[k]? = some (slot buffer size k) := by
  simp [slots, inside]

theorem write_slots {buffer source after : List α} {size k : Nat} (sized : source.length = size)
    (written : write buffer (k * size) source = some after) (count : Nat) :
    slots after size count = (slots buffer size count).set k source := by
  apply List.ext_getElem
  next => simp
  next =>
    intro i left right
    simp only [slots, List.getElem_set, List.getElem_map, List.getElem_range, slot]
    split
    next same =>
      subst same
      have whole := write_same written
      rwa [sized] at whole
    next other =>
      apply write_apart written
      rw [sized, ← Nat.succ_mul, ← Nat.succ_mul]
      obtain before | behind := Nat.lt_or_gt_of_ne other
      next => exact .inr (Nat.mul_le_mul_right _ before)
      next => exact .inl (Nat.mul_le_mul_right _ behind)

theorem slot_inside {buffer : List α} {size count k : Nat} (room : count * size ≤ buffer.length)
    (inside : k < count) : k * size + size ≤ buffer.length := by
  have upTo : (k + 1) * size ≤ count * size := Nat.mul_le_mul_right _ inside
  rw [Nat.succ_mul] at upTo
  exact Nat.le_trans upTo room

theorem slot_flatMap {β : Type} {pieces : List β} {cells : β → List α} {size : Nat}
    (sized : ∀ piece ∈ pieces, (cells piece).length = size) (tail : List α) {k : Nat} (inside : k < pieces.length) :
    slot (pieces.flatMap cells ++ tail) size k = cells pieces[k] := by
  induction pieces generalizing k with
  | nil => contradiction
  | cons piece rest ih =>
      have first := sized piece List.mem_cons_self
      rw [slot, List.flatMap_cons, List.append_assoc]
      cases k with
      | zero => rw [Nat.zero_mul, List.drop_zero, List.take_left' first, List.getElem_cons_zero]
      | succ k =>
          have later := ih (fun other member => sized other (List.mem_cons_of_mem _ member))
            (Nat.lt_of_succ_lt_succ inside)
          rw [Nat.succ_mul, Nat.add_comm, ← List.drop_drop, List.drop_left' first, List.getElem_cons_succ]
          exact later

/-- Copy `length` cells from `source` to `target`, as if through a buffer of their own. -/
def move (buffer : List α) (target source length : Nat) : Option (List α) :=
  (read buffer source length).bind fun cells => write buffer target cells

theorem move_length {buffer after : List α} {target source length : Nat}
    (moved : move buffer target source length = some after) : after.length = buffer.length := by
  obtain ⟨_, _, written⟩ := Option.bind_eq_some_iff.mp moved
  exact write_length written

theorem move_inside {buffer : List α} {target source length : Nat}
    (fromInside : source + length ≤ buffer.length) (toInside : target + length ≤ buffer.length) :
    move buffer target source length = some (buffer.take target ++
      (buffer.drop source).take length ++ buffer.drop (target + length)) := by
  have cells : ((buffer.drop source).take length).length = length := by
    rw [List.length_take, List.length_drop]
    omega
  rw [move, read_inside fromInside, Option.bind_some, write_inside (by omega), cells]

end Memory
