import WatchFirmware.Common.RingBuffer
import WatchFirmware.Shared.Memory

set_option autoImplicit false

namespace WatchFirmware.Common

/-- `ring_buffer_t` with its storage byte by byte and its indices in 16 bits. -/
structure RingStorage where
  buffer : List UInt8
  elementSize : Nat
  capacity : UInt16
  readIdx : UInt16
  writeIdx : UInt16
  count : UInt16
  overflowPolicy : OverflowPolicy

inductive QueueCall (α : Type) where
  | push (item : α)
  | pop
  | clear

inductive Answer (α : Type) where
  | pushed (accepted : Bool)
  | popped (item : Option α)
  | cleared

namespace RingStorage

def ringbufInit (storage : List UInt8) (capacity : UInt16) (elementSize : Nat) (policy : OverflowPolicy) :
    Option RingStorage :=
  if capacity < 1 ∨ elementSize = 0 then none
  else
    some
      { buffer := storage
        elementSize
        capacity
        readIdx := 0
        writeIdx := 0
        count := 0
        overflowPolicy := policy }

-- `index + 1U` is an int, so only the remainder is cut to 16 bits.
def ringbufNext (rb : RingStorage) (index : UInt16) : UInt16 :=
  UInt16.ofNat ((index.toNat + 1) % rb.capacity.toNat)

def ringbufIsEmpty (rb : RingStorage) : Bool := rb.count == 0

def ringbufIsFull (rb : RingStorage) : Bool := rb.count == rb.capacity

def ringbufPtr (rb : RingStorage) (index : UInt16) : Nat := index.toNat * rb.elementSize

def ringbufClear (rb : RingStorage) : RingStorage := { rb with readIdx := 0, writeIdx := 0, count := 0 }

-- The outer `none` is a failed assertion or an access outside the storage.
def ringbufPop (rb : RingStorage) : Option (Option (List UInt8) × RingStorage) :=
  if rb.ringbufIsEmpty then some (none, rb)
  else
    (Memory.read rb.buffer (rb.ringbufPtr rb.readIdx) rb.elementSize).bind fun item =>
      let after := { rb with readIdx := rb.ringbufNext rb.readIdx, count := rb.count - 1 }
      if after.count ≤ after.capacity then some (some item, after) else none

/-- The part of `ringbuf_push` behind the full check. -/
def store (rb : RingStorage) (item : List UInt8) : Option (Bool × RingStorage) :=
  (Memory.write rb.buffer (rb.ringbufPtr rb.writeIdx) item).bind fun buffer =>
    let after := { rb with buffer, writeIdx := rb.ringbufNext rb.writeIdx, count := rb.count + 1 }
    if after.count ≤ after.capacity then some (true, after) else none

def ringbufPush (rb : RingStorage) (item : List UInt8) : Option (Bool × RingStorage) :=
  if rb.ringbufIsFull then
    match rb.overflowPolicy with
    | .dropNewest => some (false, rb)
    | .dropOldest =>
        store { rb with count := rb.count - 1, readIdx := rb.ringbufNext rb.readIdx } item
  else rb.store item

def call (rb : RingStorage) : QueueCall (List UInt8) → Option (Answer (List UInt8) × RingStorage)
  | .push item => (rb.ringbufPush item).map fun out => (.pushed out.1, out.2)
  | .pop => rb.ringbufPop.map fun out => (.popped out.1, out.2)
  | .clear => some (.cleared, rb.ringbufClear)

def calls (rb : RingStorage) : List (QueueCall (List UInt8)) →
    Option (List (Answer (List UInt8)) × RingStorage)
  | [] => some ([], rb)
  | next :: rest =>
      (rb.call next).bind fun out =>
        (out.2.calls rest).map fun done => (out.1 :: done.1, done.2)

def slot (rb : RingStorage) (k : Nat) : List UInt8 :=
  (rb.buffer.drop (k * rb.elementSize)).take rb.elementSize

def contents (rb : RingStorage) : List (List UInt8) :=
  (List.range rb.count.toNat).map fun k => rb.slot ((rb.readIdx.toNat + k) % rb.capacity.toNat)

structure Represents (rb : RingStorage) (ring : RingBuffer (List UInt8)) : Prop where
  slots : ring.buffer = (List.range rb.capacity.toNat).map rb.slot
  readIdx : ring.readIdx = rb.readIdx.toNat
  writeIdx : ring.writeIdx = rb.writeIdx.toNat
  count : ring.count = rb.count.toNat
  overflowPolicy : ring.overflowPolicy = rb.overflowPolicy
  room : rb.capacity.toNat * rb.elementSize ≤ rb.buffer.length

structure SameLayout (rb after : RingStorage) : Prop where
  capacity : after.capacity = rb.capacity
  elementSize : after.elementSize = rb.elementSize
  overflowPolicy : after.overflowPolicy = rb.overflowPolicy

theorem SameLayout.refl (rb : RingStorage) : rb.SameLayout rb := ⟨rfl, rfl, rfl⟩

section Represents

variable {rb : RingStorage} {ring : RingBuffer (List UInt8)}

theorem Represents.capacity (represents : rb.Represents ring) : ring.capacity = rb.capacity.toNat := by
  rw [RingBuffer.capacity, represents.slots, List.length_map, List.length_range]

theorem Represents.length (represents : rb.Represents ring) : ring.buffer.length = rb.capacity.toNat :=
  represents.capacity

theorem Represents.positive (represents : rb.Represents ring) : 0 < rb.capacity.toNat :=
  represents.capacity ▸ ring.capacity_pos

theorem Represents.bound (represents : rb.Represents ring) : rb.count.toNat ≤ rb.capacity.toNat := by
  rw [← represents.count, ← represents.capacity]
  exact ring.count_le

theorem Represents.full (represents : rb.Represents ring) :
    rb.ringbufIsFull = true ↔ ring.count = ring.capacity := by
  rw [represents.count, represents.capacity, ringbufIsFull, beq_iff_eq, UInt16.toNat_inj]

theorem Represents.next (represents : rb.Represents ring) (index : UInt16) :
    (rb.ringbufNext index).toNat = ring.ringbufNext index.toNat := by
  have below : (index.toNat + 1) % rb.capacity.toNat < 65536 :=
    Nat.lt_trans (Nat.mod_lt _ represents.positive) rb.capacity.toNat_lt
  rw [ringbufNext, RingBuffer.ringbufNext, represents.capacity, UInt16.toNat_ofNat', Nat.mod_eq_of_lt below]

theorem Represents.inside (represents : rb.Represents ring) {index : UInt16}
    (below : index.toNat < rb.capacity.toNat) :
    rb.ringbufPtr index + rb.elementSize ≤ rb.buffer.length :=
  Memory.slot_inside represents.room below

theorem Represents.read (represents : rb.Represents ring) :
    Memory.read rb.buffer (rb.ringbufPtr rb.readIdx) rb.elementSize =
      some (ring.buffer.get ⟨ring.readIdx, ring.read_lt⟩) := by
  have below : rb.readIdx.toNat < rb.capacity.toNat := by
    rw [← represents.readIdx, ← represents.length]
    exact ring.read_lt
  rw [Memory.read_inside (represents.inside below)]
  simp only [List.get_eq_getElem, represents.slots, List.getElem_map, List.getElem_range,
    represents.readIdx]
  rfl

theorem Represents.contents (represents : rb.Represents ring) : ring.contents = rb.contents := by
  apply List.ext_getElem
  · simp [RingStorage.contents, represents.count]
  · intro k left right
    rw [RingBuffer.contents_getElem]
    simp [RingStorage.contents, represents.slots, represents.readIdx, Nat.add_comm]

theorem Represents.advance (represents : rb.Represents ring) (occupied : 0 < ring.count) :
    Represents { rb with count := rb.count - 1, readIdx := rb.ringbufNext rb.readIdx }
      (ring.advance occupied) := by
  have one : (1 : UInt16) ≤ rb.count := by
    rw [UInt16.le_iff_toNat_le, ← represents.count]
    exact occupied
  exact
    { slots := represents.slots
      readIdx := by rw [represents.next, ← represents.readIdx]; rfl
      writeIdx := represents.writeIdx
      count := by
        rw [UInt16.toNat_sub_of_le _ _ one, ← represents.count]
        rfl
      overflowPolicy := represents.overflowPolicy
      room := represents.room }

theorem Represents.store (represents : rb.Represents ring) {item : List UInt8}
    (sized : item.length = rb.elementSize) (space : ring.count < ring.capacity) :
    ∃ after, rb.store item = some (true, after) ∧ after.Represents (ring.store item space) ∧
      rb.SameLayout after := by
  have below : rb.writeIdx.toNat < rb.capacity.toNat := by
    rw [← represents.writeIdx, ← represents.length, ring.write_eq]
    exact Nat.mod_lt _ ring.capacity_pos
  have written : Memory.write rb.buffer (rb.ringbufPtr rb.writeIdx) item = some _ :=
    Memory.write_inside (sized ▸ represents.inside below)
  generalize rb.buffer.take _ ++ item ++ _ = buffer at written
  have more : rb.count.toNat + 1 ≤ rb.capacity.toNat := by
    rw [← represents.count, ← represents.capacity]
    exact space
  have small := rb.capacity.toNat_lt
  have counted : (rb.count + 1).toNat = rb.count.toNat + 1 := by
    rw [UInt16.toNat_add, UInt16.toNat_one]
    exact Nat.mod_eq_of_lt (by omega)
  refine ⟨{ rb with buffer, writeIdx := rb.ringbufNext rb.writeIdx, count := rb.count + 1 },
    ?_, ?_, ⟨rfl, rfl, rfl⟩⟩
  · rw [RingStorage.store, written, Option.bind_some, if_pos]
    rw [UInt16.le_iff_toNat_le]
    exact counted ▸ more
  · constructor
    case slots =>
      have slots : ring.buffer = Memory.slots rb.buffer rb.elementSize rb.capacity.toNat := represents.slots
      have changed := Memory.write_slots sized written rb.capacity.toNat
      rw [← slots, ← represents.writeIdx] at changed
      exact changed.symm
    case readIdx => exact represents.readIdx
    case writeIdx =>
      rw [represents.next, ← represents.writeIdx]
      rfl
    case count =>
      rw [counted, ← represents.count]
      rfl
    case overflowPolicy => exact represents.overflowPolicy
    case room =>
      rw [Memory.write_length written]
      exact represents.room

theorem Represents.clear (represents : rb.Represents ring) :
    rb.ringbufClear.Represents ring.ringbufClear where
  slots := represents.slots
  readIdx := rfl
  writeIdx := rfl
  count := rfl
  overflowPolicy := represents.overflowPolicy
  room := represents.room

end Represents

def fifoCall {α : Type} (capacity : Nat) (policy : OverflowPolicy) (queue : List α) :
    QueueCall α → Answer α × List α
  | .push item =>
      match policy with
      | .dropOldest => (.pushed true, BoundedQueue.offer capacity queue item)
      | .dropNewest =>
          match BoundedQueue.send capacity queue item with
          | some longer => (.pushed true, longer)
          | none => (.pushed false, queue)
  | .pop =>
      match queue with
      | [] => (.popped none, [])
      | first :: rest => (.popped (some first), rest)
  | .clear => (.cleared, [])

def fifoCalls {α : Type} (capacity : Nat) (policy : OverflowPolicy) (queue : List α) :
    List (QueueCall α) → List (Answer α) × List α
  | [] => ([], queue)
  | next :: rest =>
      let out := fifoCall capacity policy queue next
      let done := fifoCalls capacity policy out.2 rest
      (out.1 :: done.1, done.2)

structure History (α : Type) where
  pushed : List α
  popped : List α

namespace History

variable {α : Type}

def note (history : History α) : QueueCall α × Answer α → History α
  | (.push item, .pushed true) => { history with pushed := history.pushed ++ [item] }
  | (.pop, .popped (some item)) => { history with popped := history.popped ++ [item] }
  | (.clear, _) => ⟨[], []⟩
  | _ => history

/-- The queue is the rest of what was pushed, behind everything that was popped; without overwriting,
nothing else was taken out. -/
def Explains (policy : OverflowPolicy) (history : History α) (queue : List α) : Prop :=
  ∃ front, history.pushed = front ++ queue ∧ history.popped.Sublist front ∧
    (policy = .dropNewest → history.popped = front)

theorem Explains.call {capacity : Nat} {policy : OverflowPolicy} {history : History α} {queue : List α}
    (explains : history.Explains policy queue) (next : QueueCall α) :
    (history.note (next, (fifoCall capacity policy queue next).1)).Explains policy
      (fifoCall capacity policy queue next).2 := by
  obtain ⟨front, pushed, popped, exact_⟩ := explains
  cases next with
  | push item =>
      cases policy with
      | dropOldest =>
          simp only [fifoCall, note, BoundedQueue.offer]
          split
          · exact ⟨front, by simp [pushed], popped, by simp⟩
          · cases queue with
            | nil => exact ⟨front, by simp [pushed], popped, by simp⟩
            | cons first rest =>
                refine ⟨front ++ [first], by simp [pushed], ?_, by simp⟩
                exact popped.trans (List.sublist_append_left _ _)
      | dropNewest =>
          simp only [fifoCall, BoundedQueue.send]
          by_cases room : queue.length < capacity
          · simp only [room, if_true, note]
            exact ⟨front, by simp [pushed], popped, exact_⟩
          · simp only [room, if_false, note]
            exact ⟨front, pushed, popped, exact_⟩
  | pop =>
      cases queue with
      | nil => exact ⟨front, pushed, popped, exact_⟩
      | cons first rest =>
          refine ⟨front ++ [first], by simp [fifoCall, note, pushed], ?_, ?_⟩
          · exact popped.append (List.Sublist.refl [first])
          · intro newest
            simp [fifoCall, note, exact_ newest]
  | clear => exact ⟨[], rfl, List.Sublist.refl [], fun _ => rfl⟩

theorem Explains.calls {capacity : Nat} {policy : OverflowPolicy} {history : History α} {queue : List α}
    (explains : history.Explains policy queue) (given : List (QueueCall α)) :
    ((given.zip (fifoCalls capacity policy queue given).1).foldl note history).Explains policy
      (fifoCalls capacity policy queue given).2 := by
  induction given generalizing history queue with
  | nil => exact explains
  | cons next rest ih => exact ih (explains.call next)

end History

section Run

variable {rb : RingStorage} {ring : RingBuffer (List UInt8)}

theorem Represents.push (represents : rb.Represents ring) {item : List UInt8}
    (sized : item.length = rb.elementSize) :
    ∃ accepted after ring', rb.ringbufPush item = some (accepted, after) ∧ after.Represents ring' ∧
      fifoCall ring.capacity ring.overflowPolicy ring.contents (.push item) =
        (.pushed accepted, ring'.contents) ∧ rb.SameLayout after := by
  have bound : ring.count ≤ ring.capacity := ring.count_le
  by_cases full : ring.count = ring.capacity
  · have isFull : rb.ringbufIsFull = true := represents.full.mpr full
    have noRoom : ¬ ring.contents.length < ring.capacity := by
      rw [RingBuffer.contents_length]
      omega
    unfold ringbufPush
    rw [if_pos isFull, represents.overflowPolicy]
    split
    next newest =>
      refine ⟨false, rb, ring, rfl, represents, ?_, .refl rb⟩
      simp only [newest, fifoCall, BoundedQueue.send, noRoom, if_false]
    next oldest =>
      have occupied : 0 < ring.count := full ▸ ring.capacity_pos
      obtain ⟨after, stored, stands, capacity, elementSize, policy⟩ :=
        (represents.advance occupied).store sized (ring.advance_room occupied)
      refine ⟨true, after, _, stored, stands, ?_, ⟨capacity, elementSize, policy⟩⟩
      have tail : ring.contents.tail = (ring.advance occupied).contents := by
        rw [ring.advance_contents occupied, List.tail_cons]
      simp only [oldest, fifoCall, BoundedQueue.offer, noRoom, if_false, tail, RingBuffer.store_contents]
  · have room : ring.count < ring.capacity := Nat.lt_of_le_of_ne bound full
    have hasRoom : ring.contents.length < ring.capacity := by rwa [RingBuffer.contents_length]
    obtain ⟨after, stored, stands, same⟩ := represents.store sized room
    refine ⟨true, after, _, ?_, stands, ?_, same⟩
    · unfold ringbufPush
      rw [if_neg fun isFull => full (represents.full.mp isFull)]
      exact stored
    · cases policy : ring.overflowPolicy with
      | dropNewest => simp only [fifoCall, BoundedQueue.send, hasRoom, if_true, RingBuffer.store_contents]
      | dropOldest => simp only [fifoCall, BoundedQueue.offer, hasRoom, if_true, RingBuffer.store_contents]

theorem Represents.pop (represents : rb.Represents ring) :
    ∃ item after ring', rb.ringbufPop = some (item, after) ∧ after.Represents ring' ∧
      fifoCall ring.capacity ring.overflowPolicy ring.contents .pop = (.popped item, ring'.contents) ∧
      rb.SameLayout after := by
  have count := represents.count
  unfold ringbufPop ringbufIsEmpty
  by_cases empty : rb.count = 0
  · have nothing : ring.contents = [] := by
      rw [← List.length_eq_zero_iff, RingBuffer.contents_length, count, empty]
      rfl
    rw [if_pos (by simpa using empty)]
    exact ⟨none, rb, ring, rfl, represents, by rw [nothing]; rfl, .refl rb⟩
  · have occupied : 0 < ring.count := by
      rw [count]
      refine Nat.pos_of_ne_zero fun zero => empty ?_
      exact UInt16.toNat_inj.mp zero
    have stands := represents.advance occupied
    rw [if_neg (by simpa using empty), represents.read, Option.bind_some]
    refine ⟨_, _, ring.advance occupied, if_pos ?_, stands, ?_, ⟨rfl, rfl, rfl⟩⟩
    · rw [UInt16.le_iff_toNat_le]
      exact stands.bound
    · rw [ring.advance_contents occupied]
      rfl

theorem Represents.call (represents : rb.Represents ring) {next : QueueCall (List UInt8)}
    (sized : ∀ item, next = .push item → item.length = rb.elementSize) :
    ∃ answer after ring', rb.call next = some (answer, after) ∧ after.Represents ring' ∧
      fifoCall rb.capacity.toNat rb.overflowPolicy ring.contents next = (answer, ring'.contents) ∧
      rb.SameLayout after := by
  rw [← represents.capacity, ← represents.overflowPolicy]
  cases next with
  | push item =>
      obtain ⟨accepted, after, ring', pushed, stands, queue, same⟩ := represents.push (sized item rfl)
      refine ⟨.pushed accepted, after, ring', ?_, stands, queue, same⟩
      simp only [RingStorage.call, pushed, Option.map_some]
  | pop =>
      obtain ⟨item, after, ring', popped, stands, queue, same⟩ := represents.pop
      refine ⟨.popped item, after, ring', ?_, stands, queue, same⟩
      simp only [RingStorage.call, popped, Option.map_some]
  | clear =>
      have empty : ring.ringbufClear.contents = [] := by
        rw [← List.length_eq_zero_iff, RingBuffer.contents_length]
        rfl
      refine ⟨.cleared, rb.ringbufClear, ring.ringbufClear, rfl, represents.clear, ?_, ⟨rfl, rfl, rfl⟩⟩
      rw [empty]
      rfl

theorem Represents.calls (represents : rb.Represents ring) {given : List (QueueCall (List UInt8))}
    (sized : ∀ item, .push item ∈ given → item.length = rb.elementSize) :
    ∃ answers after ring', rb.calls given = some (answers, after) ∧ after.Represents ring' ∧
      fifoCalls rb.capacity.toNat rb.overflowPolicy ring.contents given = (answers, ring'.contents) ∧
      rb.SameLayout after := by
  induction given generalizing rb ring with
  | nil => exact ⟨[], rb, ring, rfl, represents, rfl, .refl rb⟩
  | cons next rest ih =>
      obtain ⟨answer, middle, ring₁, called, stands, queue, same⟩ :=
        represents.call fun item isPush => sized item (isPush ▸ List.mem_cons_self)
      obtain ⟨answers, after, ring₂, remaining, ends, queues, sameAfter⟩ := ih stands fun item member =>
        (sized item (List.mem_cons_of_mem _ member)).trans same.elementSize.symm
      rw [same.capacity, same.overflowPolicy] at queues
      refine ⟨answer :: answers, after, ring₂, ?_, ends, ?_, ?_⟩
      · simp only [RingStorage.calls, called, remaining, Option.bind_some, Option.map_some]
      · simp only [fifoCalls, queue, queues]
      · exact ⟨sameAfter.capacity.trans same.capacity, sameAfter.elementSize.trans same.elementSize,
          sameAfter.overflowPolicy.trans same.overflowPolicy⟩

theorem ringbufInit_represents {storage : List UInt8} {capacity : UInt16} {elementSize : Nat}
    {policy : OverflowPolicy} (made : ringbufInit storage capacity elementSize policy = some rb)
    (room : capacity.toNat * elementSize ≤ storage.length) :
    ∃ ring, rb.Represents ring ∧ ring.contents = [] ∧ rb.capacity = capacity ∧
      rb.elementSize = elementSize ∧ rb.overflowPolicy = policy := by
  unfold ringbufInit at made
  split at made
  next => cases made
  next valid =>
    cases made
    have positive : 0 < capacity.toNat := by
      have atLeast := (not_or.mp valid).1
      rw [UInt16.lt_iff_toNat_lt, UInt16.toNat_one] at atLeast
      omega
    let slots := (List.range capacity.toNat).map fun k => (storage.drop (k * elementSize)).take elementSize
    have length : slots.length = capacity.toNat := by simp [slots]
    refine ⟨⟨slots, 0, 0, 0, policy, length ▸ positive, Nat.zero_le _, by simp⟩,
      ⟨rfl, rfl, rfl, rfl, rfl, room⟩, by simp [RingBuffer.contents], rfl, rfl, rfl⟩

end Run

/-- For every capacity, element size and policy, and every list of calls: the ring answers as the bounded
queue does, no assertion fails, and the counters stand where the queue says. -/
theorem ringbuf_fifo {storage : List UInt8} {capacity : UInt16} {elementSize : Nat}
    {policy : OverflowPolicy} {rb : RingStorage}
    (made : ringbufInit storage capacity elementSize policy = some rb)
    (room : capacity.toNat * elementSize ≤ storage.length) (given : List (QueueCall (List UInt8)))
    (sized : ∀ item, .push item ∈ given → item.length = elementSize) :
    ∃ answers after, rb.calls given = some (answers, after) ∧
      fifoCalls capacity.toNat policy [] given = (answers, after.contents) ∧
      ((given.zip answers).foldl History.note ⟨[], []⟩).Explains policy after.contents ∧
      after.contents.length = after.count.toNat ∧ after.count ≤ capacity ∧
      after.writeIdx.toNat = (after.readIdx.toNat + after.count.toNat) % capacity.toNat ∧
      (policy = .dropNewest → after.count = capacity →
        ∀ item, after.ringbufPush item = some (false, after)) := by
  obtain ⟨ring, represents, empty, rfl, rfl, rfl⟩ := ringbufInit_represents made room
  obtain ⟨answers, after, ring', called, stands, queue, same⟩ := represents.calls sized
  have start : (History.mk [] [] : History (List UInt8)).Explains rb.overflowPolicy [] :=
    ⟨[], rfl, List.Sublist.refl [], fun _ => rfl⟩
  have history : ((given.zip (fifoCalls rb.capacity.toNat rb.overflowPolicy [] given).1).foldl
      History.note ⟨[], []⟩).Explains rb.overflowPolicy
        (fifoCalls rb.capacity.toNat rb.overflowPolicy [] given).2 := start.calls given
  rw [empty] at queue
  rw [queue, stands.contents] at history
  rw [stands.contents] at queue
  refine ⟨answers, after, called, queue, history, ?_, ?_, ?_, ?_⟩
  · simp [RingStorage.contents]
  · rw [← same.capacity, UInt16.le_iff_toNat_le]
    exact stands.bound
  · rw [← stands.writeIdx, ring'.write_eq, stands.readIdx, stands.count, stands.length, same.capacity]
  · intro newest isFull item
    unfold ringbufPush ringbufIsFull
    rw [if_pos (by rw [isFull, same.capacity]; exact beq_self_eq_true _), same.overflowPolicy, newest]

theorem ringbuf_fifo_overwrites :
    ∃ rb after : RingStorage, ringbufInit (List.replicate 6 0) 3 2 .dropOldest = some rb ∧
      (rb.calls [.push [1, 1], .push [2, 2], .push [3, 3], .push [4, 4], .pop]).map Prod.snd = some after ∧
      after.contents = [[3, 3], [4, 4]] := by
  have made : ringbufInit (List.replicate 6 0) 3 2 .dropOldest =
      some ⟨List.replicate 6 0, 2, 3, 0, 0, 0, .dropOldest⟩ := rfl
  obtain ⟨answers, after, called, queue, _⟩ := ringbuf_fifo made (by decide)
    [.push [1, 1], .push [2, 2], .push [3, 3], .push [4, 4], .pop] (by
      intro item member
      simp only [List.mem_cons, QueueCall.push.injEq, List.not_mem_nil, reduceCtorEq, or_false] at member
      rcases member with rfl | rfl | rfl | rfl <;> rfl)
  exact ⟨_, after, made, by rw [called]; rfl, (Prod.mk.inj queue).2.symm⟩

end RingStorage

end WatchFirmware.Common
