import WatchFirmware.Shared.BoundedQueue

set_option autoImplicit false

namespace WatchFirmware.Common

inductive OverflowPolicy where
  | dropOldest
  | dropNewest
  deriving DecidableEq, Repr

structure RingBuffer (α : Type) where
  buffer : List α
  readIdx : Nat
  writeIdx : Nat
  count : Nat
  overflowPolicy : OverflowPolicy
  read_lt : readIdx < buffer.length
  count_le : count ≤ buffer.length
  write_eq : writeIdx = (readIdx + count) % buffer.length

namespace RingBuffer

variable {α : Type}

def capacity (rb : RingBuffer α) : Nat := rb.buffer.length

theorem capacity_pos (rb : RingBuffer α) : 0 < rb.capacity :=
  Nat.lt_of_le_of_lt (Nat.zero_le _) rb.read_lt

def ringbufInit (storage : List α) (policy : OverflowPolicy) : Option (RingBuffer α) :=
  if room : 1 ≤ storage.length then
    some
      { buffer := storage
        readIdx := 0
        writeIdx := 0
        count := 0
        overflowPolicy := policy
        read_lt := room
        count_le := Nat.zero_le _
        write_eq := by simp }
  else none

def ringbufNext (rb : RingBuffer α) (index : Nat) : Nat := (index + 1) % rb.capacity

def ringbufIsEmpty (rb : RingBuffer α) : Bool := rb.count == 0

def ringbufIsFull (rb : RingBuffer α) : Bool := rb.count == rb.capacity

def ringbufClear (rb : RingBuffer α) : RingBuffer α :=
  { rb with
    readIdx := 0
    writeIdx := 0
    count := 0
    read_lt := rb.capacity_pos
    count_le := Nat.zero_le _
    write_eq := by simp }

/-- Give up the oldest element, as `ringbuf_pop` does and as a full push does first. -/
def advance (rb : RingBuffer α) (occupied : 0 < rb.count) : RingBuffer α :=
  { rb with
    readIdx := rb.ringbufNext rb.readIdx
    count := rb.count - 1
    read_lt := Nat.mod_lt _ rb.capacity_pos
    count_le := Nat.le_trans (Nat.sub_le _ _) rb.count_le
    write_eq := by
      rw [rb.write_eq, ringbufNext, capacity, Nat.mod_add_mod]
      congr 1
      omega }

theorem advance_room (rb : RingBuffer α) (occupied : 0 < rb.count) :
    (rb.advance occupied).count < (rb.advance occupied).capacity := by
  have bound := rb.count_le
  simp only [advance, capacity]
  omega

def ringbufPop (rb : RingBuffer α) : Option (α × RingBuffer α) :=
  if occupied : 0 < rb.count then
    some (rb.buffer.get ⟨rb.readIdx, rb.read_lt⟩, rb.advance occupied)
  else none

def store (rb : RingBuffer α) (item : α) (room : rb.count < rb.capacity) : RingBuffer α :=
  { rb with
    buffer := rb.buffer.set rb.writeIdx item
    writeIdx := rb.ringbufNext rb.writeIdx
    count := rb.count + 1
    read_lt := by simpa using rb.read_lt
    count_le := by
      rw [List.length_set]
      exact room
    write_eq := by
      rw [rb.write_eq, ringbufNext, capacity, Nat.mod_add_mod, List.length_set]
      congr 1 }

def ringbufPush (rb : RingBuffer α) (item : α) : Bool × RingBuffer α :=
  if full : rb.count = rb.capacity then
    match rb.overflowPolicy with
    | .dropNewest => (false, rb)
    | .dropOldest =>
        have occupied : 0 < rb.count := full ▸ rb.capacity_pos
        (true, (rb.advance occupied).store item (rb.advance_room occupied))
  else (true, rb.store item (Nat.lt_of_le_of_ne rb.count_le full))

/-- The waiting elements, oldest first. -/
def contents (rb : RingBuffer α) : List α := (rb.buffer.rotate rb.readIdx).take rb.count

@[simp] theorem contents_length (rb : RingBuffer α) : rb.contents.length = rb.count := by
  have bound := rb.count_le
  simp [contents, bound]

theorem contents_getElem (rb : RingBuffer α) (k : Nat) (inside : k < rb.contents.length) :
    rb.contents[k] = rb.buffer.get
      ⟨(k + rb.readIdx) % rb.buffer.length, Nat.mod_lt _ rb.capacity_pos⟩ := by
  simp [contents, List.getElem_rotate]

theorem advance_contents (rb : RingBuffer α) (occupied : 0 < rb.count) :
    rb.contents = rb.buffer.get ⟨rb.readIdx, rb.read_lt⟩ :: (rb.advance occupied).contents := by
  apply List.ext_getElem
  · simp [advance]
    omega
  · intro k left right
    rw [contents_getElem]
    cases k with
    | zero => simp [Nat.mod_eq_of_lt rb.read_lt]
    | succ k =>
        rw [List.getElem_cons_succ, contents_getElem]
        simp only [advance, ringbufNext, capacity, Nat.add_mod_mod]
        congr 3
        omega

theorem store_contents (rb : RingBuffer α) (item : α) (room : rb.count < rb.capacity) :
    (rb.store item room).contents = rb.contents ++ [item] := by
  apply List.ext_getElem
  · simp [store]
  · intro k left right
    have bound : k ≤ rb.count := by
      simp [store] at left
      omega
    have size : rb.count < rb.buffer.length := room
    rw [contents_getElem]
    simp only [store, List.get_eq_getElem, List.length_set, List.getElem_set]
    by_cases last : k = rb.count
    · subst last
      simp [rb.write_eq, Nat.add_comm]
    · have inside : k < rb.contents.length := by simp; omega
      rw [List.getElem_append_left inside, contents_getElem, List.get_eq_getElem, if_neg]
      -- Two offsets below the capacity never meet in the same slot.
      rw [rb.write_eq, Nat.add_comm rb.readIdx]
      intro same
      have cong : Nat.ModEq rb.buffer.length rb.count k := Nat.ModEq.add_right_cancel' _ same
      have equal := Nat.ModEq.eq_of_lt_of_lt cong size (by omega)
      omega

theorem pop_none_iff (rb : RingBuffer α) : rb.ringbufPop = none ↔ rb.contents = [] := by
  rw [← List.length_eq_zero_iff, contents_length, ringbufPop]
  split <;> simp <;> omega

theorem pop_some {rb rest : RingBuffer α} {item : α} (popped : rb.ringbufPop = some (item, rest)) :
    rb.contents = item :: rest.contents ∧ rest.capacity = rb.capacity ∧
      rest.overflowPolicy = rb.overflowPolicy := by
  unfold ringbufPop at popped
  split at popped
  next occupied =>
    cases popped
    exact ⟨rb.advance_contents occupied, rfl, rfl⟩
  next => cases popped

theorem push_dropOldest (rb : RingBuffer α) (item : α)
    (policy : rb.overflowPolicy = .dropOldest) :
    (rb.ringbufPush item).1 = true ∧
      (rb.ringbufPush item).2.contents = BoundedQueue.offer rb.capacity rb.contents item ∧
      (rb.ringbufPush item).2.capacity = rb.capacity ∧
      (rb.ringbufPush item).2.overflowPolicy = .dropOldest := by
  unfold ringbufPush BoundedQueue.offer
  have bound : rb.count ≤ rb.capacity := rb.count_le
  split
  next full =>
    have occupied : 0 < rb.count := full ▸ rb.capacity_pos
    have tail : rb.contents.tail = (rb.advance occupied).contents := by
      rw [rb.advance_contents occupied, List.tail_cons]
    rw [policy, if_neg (by simp [full]), tail]
    refine ⟨rfl, store_contents _ item (rb.advance_room occupied), ?_, policy⟩
    simp [store, capacity, advance]
  next notFull =>
    have room : rb.count < rb.capacity := Nat.lt_of_le_of_ne bound notFull
    rw [if_pos (by simpa using room)]
    refine ⟨rfl, rb.store_contents item room, ?_, policy⟩
    simp [store, capacity]

end RingBuffer

end WatchFirmware.Common
