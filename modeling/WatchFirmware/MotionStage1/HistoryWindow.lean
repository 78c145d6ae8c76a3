import WatchFirmware.MotionStage1.Signal
import WatchFirmware.Shared.Memory

set_option autoImplicit false

namespace WatchFirmware.MotionStage1

namespace RingBuffer

variable {F : Type} {buf : RingBuffer F} {inserted : List F}

/-- The buffer holds the last of the elements inserted, each at its number modulo the size. -/
structure Slides (buf : RingBuffer F) (inserted : List F) : Prop where
  positive : 0 < buf.maxSize
  byteSized : buf.maxSize < 256
  elements : buf.elements = min inserted.length buf.maxSize
  readIdx : buf.readIdx = if inserted.length < buf.maxSize then 0 else inserted.length % buf.maxSize
  writeIdx : buf.writeIdx = inserted.length % buf.maxSize
  cells : ∃ data, buf.data = some data ∧ data.length = buf.maxSize ∧
    ∀ j, j < inserted.length → inserted.length ≤ j + buf.maxSize →
      data[j % buf.maxSize]? = inserted[j]?

theorem nextIdx_mod (positive : 0 < buf.maxSize) (n : Nat) :
    buf.nextIdx (n % buf.maxSize) = (n + 1) % buf.maxSize := by
  have below := Nat.mod_lt n positive
  rw [nextIdx, Nat.add_mod_eq_ite]
  by_cases single : buf.maxSize = 1
  next => simp [single, Nat.mod_one]
  next =>
    have one : 1 % buf.maxSize = 1 := Nat.mod_eq_of_lt (by omega)
    rw [one]
    split <;> omega

theorem mod_ne_of_lt {size older newer : Nat} (order : older < newer) (near : newer < older + size) :
    older % size ≠ newer % size := by
  intro same
  have divides : size ∣ newer - older := (Nat.modEq_iff_dvd' (Nat.le_of_lt order)).mp same
  have long := Nat.le_of_dvd (by omega) divides
  omega

theorem Slides.store (slides : buf.Slides inserted) (elem : F) {data : List F} (allocated : buf.data = some data)
    {elements readIdx : Nat} (more : elements = min (inserted.length + 1) buf.maxSize)
    (oldest : readIdx = if inserted.length + 1 < buf.maxSize then 0 else (inserted.length + 1) % buf.maxSize) :
    ∃ after, RingBuffer.store { buf with elements, readIdx } data elem = some after ∧
      after.Slides (inserted ++ [elem]) ∧ after.maxSize = buf.maxSize ∧ after.elemSize = buf.elemSize := by
  obtain ⟨block, same, length, kept⟩ := slides.cells
  obtain rfl : data = block := Option.some.inj (allocated.symm.trans same)
  have positive := slides.positive
  have place : buf.writeIdx < data.length := by
    rw [slides.writeIdx, length]
    exact Nat.mod_lt _ positive
  have longer : (inserted ++ [elem]).length = inserted.length + 1 := by
    rw [List.length_append, List.length_singleton]
  unfold RingBuffer.store
  rw [if_pos place]
  refine ⟨_, rfl, ?_, rfl, rfl⟩
  constructor
  case positive => exact positive
  case byteSized => exact slides.byteSized
  case elements => rw [longer, more]
  case readIdx => rw [longer, oldest]
  case writeIdx =>
    simp only [slides.writeIdx, longer]
    exact nextIdx_mod positive _
  case cells =>
    refine ⟨_, rfl, by rw [List.length_set, length], ?_⟩
    intro j inside recent
    rw [longer] at inside recent
    simp only at recent ⊢
    rw [slides.writeIdx] at place ⊢
    by_cases newest : j = inserted.length
    next =>
      subst newest
      rw [List.getElem?_set_self place, List.getElem?_concat_length]
    next =>
      have order : j < inserted.length := by omega
      rw [List.getElem?_set_ne (Ne.symm (mod_ne_of_lt order (by omega))), kept j order (by omega),
        List.getElem?_append_left order]

theorem Slides.insert (slides : buf.Slides inserted) (elem : F) :
    ∃ after, buf.ringBufferInsert elem = some after ∧ after.Slides (inserted ++ [elem]) ∧
      after.maxSize = buf.maxSize ∧ after.elemSize = buf.elemSize := by
  obtain ⟨data, allocated, _⟩ := slides.cells
  have positive := slides.positive
  have elements := slides.elements
  have start := slides.readIdx
  unfold ringBufferInsert
  rw [allocated, Option.bind_some]
  by_cases room : buf.elements < buf.maxSize
  next =>
    have filling : inserted.length < buf.maxSize := by omega
    rw [if_pos filling] at start
    rw [if_pos room]
    apply slides.store elem allocated (by omega)
    rw [start]
    split
    next => rfl
    next full =>
      have last : inserted.length + 1 = buf.maxSize := by omega
      rw [last, Nat.mod_self]
  next =>
    have whole : ¬inserted.length < buf.maxSize := by omega
    have still : ¬inserted.length + 1 < buf.maxSize := by omega
    have met : buf.readIdx = buf.writeIdx := by rw [start, slides.writeIdx, if_neg whole]
    rw [if_neg room, if_pos met]
    apply slides.store elem allocated (by omega)
    rw [met, slides.writeIdx, if_neg still]
    exact nextIdx_mod positive _

theorem Slides.get (slides : buf.Slides inserted) {i : Nat} (inside : i < buf.elements) :
    buf.ringBufferGetElementAtIndex i = inserted[inserted.length - buf.elements + i]? := by
  obtain ⟨data, allocated, _, kept⟩ := slides.cells
  have positive := slides.positive
  have elements := slides.elements
  have byteSized := slides.byteSized
  have byte : i % 256 = i := Nat.mod_eq_of_lt (by omega)
  have place : (if buf.maxSize ≤ buf.readIdx + i then buf.readIdx + i - buf.maxSize else buf.readIdx + i) =
      (inserted.length - buf.elements + i) % buf.maxSize := by
    by_cases filling : inserted.length < buf.maxSize
    next =>
      have oldest : inserted.length - buf.elements + i = i := by omega
      have below : i < buf.maxSize := by omega
      rw [slides.readIdx, if_pos filling, oldest, Nat.mod_eq_of_lt below]
      split <;> omega
    next =>
      have full : buf.elements = buf.maxSize := by omega
      have turned : inserted.length - buf.elements + i + buf.maxSize = inserted.length + i := by omega
      have below : i % buf.maxSize = i := Nat.mod_eq_of_lt (by omega)
      rw [slides.readIdx, if_neg filling, ← Nat.add_mod_right (inserted.length - buf.elements + i), turned,
        Nat.add_mod_eq_ite, below]
  unfold ringBufferGetElementAtIndex
  simp only [byte, inside, if_true, allocated, Option.bind_some, place]
  exact kept _ (by omega) (by omega)

theorem Slides.readIdx_lt (slides : buf.Slides inserted) : buf.readIdx < buf.maxSize := by
  have positive := slides.positive
  rw [slides.readIdx]
  split
  next => exact positive
  next => exact Nat.mod_lt _ positive

theorem Slides.writeIdx_lt (slides : buf.Slides inserted) : buf.writeIdx < buf.maxSize := by
  rw [slides.writeIdx]
  exact Nat.mod_lt _ slides.positive

theorem ringBufferInit_slides {size : Nat} (elemSize : Nat) {data : List F} (length : data.length = size)
    (positive : 0 < size) (byteSized : size < 256) :
    (ringBufferInit size elemSize (some data)).Slides [] := by
  constructor
  case positive => exact positive
  case byteSized => exact byteSized
  case elements => exact (Nat.zero_min size).symm
  case readIdx => exact (if_pos positive).symm
  case writeIdx => exact (Nat.zero_mod size).symm
  case cells => exact ⟨data, rfl, length, fun j inside => by contradiction⟩

end RingBuffer

/-- `ring_buffer_t` with its storage byte by byte and its indices in 8 bits. -/
structure ByteRingBuffer where
  data : Option (List UInt8)
  elemSize : UInt8
  maxSize : UInt8
  elements : UInt8
  readIdx : UInt8
  writeIdx : UInt8

namespace ByteRingBuffer

/-- What malloc returned is `storage`; the answer false is `none`. -/
def ringBufferInit (size elemSize : UInt8) (storage : Option (List UInt8)) : Option ByteRingBuffer :=
  storage.map fun data =>
    { data := some data
      elemSize
      maxSize := size
      elements := 0
      readIdx := 0
      writeIdx := 0 }

def ringBufferPointerAtIndex (buf : ByteRingBuffer) (i : UInt8) : Nat := i.toNat * buf.elemSize.toNat

-- The comparison is one of ints, so only the sum that stays below the size is cut to 8 bits.
def nextIdx (buf : ByteRingBuffer) (idx : UInt8) : UInt8 :=
  if buf.maxSize.toNat ≤ idx.toNat + 1 then 0 else idx + 1

/-- The copy of `ring_buffer_insert` and what follows it. -/
def store (buf : ByteRingBuffer) (data elem : List UInt8) : Option ByteRingBuffer :=
  (Memory.read elem 0 buf.elemSize.toNat).bind fun copied =>
    (Memory.write data (buf.ringBufferPointerAtIndex buf.writeIdx) copied).map fun data =>
      { buf with data := some data, writeIdx := buf.nextIdx buf.writeIdx }

-- From here on none is a failed assertion or an access outside the storage or the element.
def ringBufferInsert (buf : ByteRingBuffer) (elem : List UInt8) : Option ByteRingBuffer :=
  buf.data.bind fun data =>
    if buf.elements < buf.maxSize then store { buf with elements := buf.elements + 1 } data elem
    else if buf.readIdx = buf.writeIdx then
      store { buf with readIdx := buf.nextIdx buf.readIdx } data elem
    else none

def ringBufferGetElementAtIndex (buf : ByteRingBuffer) (idx : UInt8) : Option (List UInt8) :=
  if idx < buf.elements then
    let sum := buf.readIdx.toNat + idx.toNat
    let pos := if buf.maxSize.toNat ≤ sum then sum - buf.maxSize.toNat else sum
    buf.data.bind fun data =>
      Memory.read data (buf.ringBufferPointerAtIndex (UInt8.ofNat pos)) buf.elemSize.toNat
  else none

structure Represents (bytes : ByteRingBuffer) (buf : RingBuffer (List UInt8)) : Prop where
  data : ∃ block, bytes.data = some block ∧ bytes.maxSize.toNat * bytes.elemSize.toNat ≤ block.length ∧
    buf.data = some (Memory.slots block bytes.elemSize.toNat bytes.maxSize.toNat)
  maxSize : buf.maxSize = bytes.maxSize.toNat
  elements : buf.elements = bytes.elements.toNat
  readIdx : buf.readIdx = bytes.readIdx.toNat
  writeIdx : buf.writeIdx = bytes.writeIdx.toNat

variable {bytes : ByteRingBuffer} {buf : RingBuffer (List UInt8)}

theorem Represents.next (represents : bytes.Represents buf) (idx : UInt8) :
    (bytes.nextIdx idx).toNat = buf.nextIdx idx.toNat := by
  have small := bytes.maxSize.toNat_lt
  have size := represents.maxSize
  rw [nextIdx, RingBuffer.nextIdx, size]
  split
  next => rfl
  next more =>
    rw [UInt8.toNat_add, UInt8.toNat_one]
    exact Nat.mod_eq_of_lt (by omega)

theorem Represents.store (represents : bytes.Represents buf) {elem : List UInt8}
    (sized : elem.length = bytes.elemSize.toNat) {block : List UInt8} (allocated : bytes.data = some block)
    (below : buf.writeIdx < buf.maxSize) {after : RingBuffer (List UInt8)}
    (stored : buf.store (Memory.slots block bytes.elemSize.toNat bytes.maxSize.toNat) elem = some after) :
    ∃ next, bytes.store block elem = some next ∧ next.Represents after ∧ next.elemSize = bytes.elemSize ∧
      next.maxSize = bytes.maxSize := by
  obtain ⟨other, same, room, cells⟩ := represents.data
  rw [allocated] at same
  cases same
  have size := represents.maxSize
  have written := represents.writeIdx
  have inside : bytes.ringBufferPointerAtIndex bytes.writeIdx + elem.length ≤ block.length := by
    rw [sized]
    exact Memory.slot_inside room (by omega)
  have copied : Memory.read elem 0 bytes.elemSize.toNat = some elem := by
    rw [← sized, Memory.read_inside (by omega), List.drop_zero, List.take_length]
  have placed := Memory.write_inside inside
  generalize block.take _ ++ elem ++ _ = changed at placed
  unfold RingBuffer.store at stored
  rw [if_pos (by rw [Memory.slots_length]; omega)] at stored
  cases stored
  refine ⟨{ bytes with data := some changed, writeIdx := bytes.nextIdx bytes.writeIdx }, ?_, ?_, rfl, rfl⟩
  next => rw [ByteRingBuffer.store, copied, Option.bind_some, placed, Option.map_some]
  next =>
    constructor
    case data =>
      refine ⟨changed, rfl, ?_, ?_⟩
      next =>
        rw [Memory.write_length placed]
        exact room
      next =>
        simp only [written]
        rw [Memory.write_slots sized placed]
    case maxSize => exact size
    case elements => exact represents.elements
    case readIdx => exact represents.readIdx
    case writeIdx =>
      simp only [written]
      exact (represents.next _).symm

theorem Represents.insert (represents : bytes.Represents buf) {inserted : List (List UInt8)}
    (slides : buf.Slides inserted) {elem : List UInt8} (sized : elem.length = bytes.elemSize.toNat) :
    ∃ next after, bytes.ringBufferInsert elem = some next ∧ next.Represents after ∧
      after.Slides (inserted ++ [elem]) ∧ next.elemSize = bytes.elemSize ∧ next.maxSize = bytes.maxSize := by
  obtain ⟨after, ran, slid, _⟩ := slides.insert elem
  obtain ⟨block, allocated, room, cells⟩ := represents.data
  have size := represents.maxSize
  have elements := represents.elements
  have readAt := represents.readIdx
  have writeAt := represents.writeIdx
  have byteSized := slides.byteSized
  have fewer : bytes.elements < bytes.maxSize ↔ buf.elements < buf.maxSize := by
    rw [UInt8.lt_iff_toNat_lt, elements, size]
  have met : bytes.readIdx = bytes.writeIdx ↔ buf.readIdx = buf.writeIdx := by
    rw [← UInt8.toNat_inj, readAt, writeAt]
  unfold RingBuffer.ringBufferInsert at ran
  rw [cells, Option.bind_some] at ran
  unfold ByteRingBuffer.ringBufferInsert
  rw [allocated, Option.bind_some]
  by_cases more : buf.elements < buf.maxSize
  next =>
    rw [if_pos more] at ran
    rw [if_pos (fewer.mpr more)]
    have counted : (bytes.elements + 1).toNat = bytes.elements.toNat + 1 := by
      rw [UInt8.toNat_add, UInt8.toNat_one]
      exact Nat.mod_eq_of_lt (by omega)
    have longer : Represents { bytes with elements := bytes.elements + 1 }
        { buf with elements := buf.elements + 1 } :=
      { data := represents.data
        maxSize := size
        elements := by rw [counted, elements]
        readIdx := readAt
        writeIdx := writeAt }
    obtain ⟨next, stored, kept, same⟩ := longer.store sized allocated slides.writeIdx_lt ran
    exact ⟨next, after, stored, kept, slid, same⟩
  next =>
    rw [if_neg more] at ran
    rw [if_neg (mt fewer.mp more)]
    split at ran
    next together =>
      rw [if_pos (met.mpr together)]
      have moved : Represents { bytes with readIdx := bytes.nextIdx bytes.readIdx }
          { buf with readIdx := buf.nextIdx buf.readIdx } :=
        { data := represents.data
          maxSize := size
          elements := elements
          readIdx := by
            rw [readAt]
            exact (represents.next _).symm
          writeIdx := writeAt }
      obtain ⟨next, stored, kept, same⟩ := moved.store sized allocated slides.writeIdx_lt ran
      exact ⟨next, after, stored, kept, slid, same⟩
    next => contradiction

theorem Represents.get (represents : bytes.Represents buf) {inserted : List (List UInt8)}
    (slides : buf.Slides inserted) {idx : UInt8} (inside : idx < bytes.elements) :
    bytes.ringBufferGetElementAtIndex idx =
      inserted[inserted.length - bytes.elements.toNat + idx.toNat]? := by
  obtain ⟨block, allocated, room, cells⟩ := represents.data
  have size := represents.maxSize
  have elements := represents.elements
  have few := slides.elements
  have readBelow := slides.readIdx_lt
  have small := idx.toNat_lt
  have sizeSmall := slides.byteSized
  have below : idx.toNat < buf.elements := by
    rw [elements]
    exact UInt8.lt_iff_toNat_lt.mp inside
  have found := slides.get below
  have byte : idx.toNat % 256 = idx.toNat := Nat.mod_eq_of_lt small
  unfold RingBuffer.ringBufferGetElementAtIndex at found
  simp only [byte, below, if_true, cells, Option.bind_some] at found
  have place : (if buf.maxSize ≤ buf.readIdx + idx.toNat then buf.readIdx + idx.toNat - buf.maxSize
      else buf.readIdx + idx.toNat) < bytes.maxSize.toNat := by
    split <;> omega
  unfold ringBufferGetElementAtIndex
  simp only [inside, if_true, allocated, Option.bind_some, ← size, ← represents.readIdx]
  rw [Memory.slots_getElem? _ _ place] at found
  generalize (if buf.maxSize ≤ buf.readIdx + idx.toNat then buf.readIdx + idx.toNat - buf.maxSize
      else buf.readIdx + idx.toNat) = pos at place found
  have exactly : (UInt8.ofNat pos).toNat = pos := by
    rw [UInt8.toNat_ofNat']
    exact Nat.mod_eq_of_lt (by omega)
  rw [ringBufferPointerAtIndex, exactly, Memory.read_inside (Memory.slot_inside room place), ← elements, ← found]
  rfl

theorem Represents.insertAll (items : List (List UInt8)) {inserted : List (List UInt8)}
    (represents : bytes.Represents buf) (slides : buf.Slides inserted)
    (sized : ∀ item ∈ items, item.length = bytes.elemSize.toNat) :
    ∃ last after, items.foldlM ringBufferInsert bytes = some last ∧ last.Represents after ∧
      after.Slides (inserted ++ items) ∧ last.maxSize = bytes.maxSize := by
  induction items generalizing bytes buf inserted with
  | nil => exact ⟨bytes, buf, rfl, represents, by simpa using slides, rfl⟩
  | cons item rest ih =>
      obtain ⟨next, middle, first, kept, slid, sameElem, sameSize⟩ :=
        represents.insert slides (sized item List.mem_cons_self)
      have later (other : List UInt8) (present : other ∈ rest) : other.length = next.elemSize.toNat := by
        rw [sameElem]
        exact sized other (List.mem_cons_of_mem item present)
      obtain ⟨last, after, ran, final, whole, size⟩ := ih kept slid later
      refine ⟨last, after, ?_, final, ?_, size.trans sameSize⟩
      next =>
        rw [List.foldlM_cons, first]
        exact ran
      next => simpa using whole

theorem ringBufferInit_represents {size elemSize : UInt8} {storage : List UInt8}
    (length : storage.length = size.toNat * elemSize.toNat) :
    Represents ⟨some storage, elemSize, size, 0, 0, 0⟩
      (.ringBufferInit size.toNat elemSize.toNat
        (some (Memory.slots storage elemSize.toNat size.toNat))) := by
  constructor
  case data => exact ⟨storage, rfl, Nat.le_of_eq length.symm, rfl⟩
  case maxSize => rfl
  case elements => rfl
  case readIdx => rfl
  case writeIdx => rfl

/-- Any number of insertions fails no assertion and leaves the last of them, oldest first. -/
theorem history_slides {size elemSize : UInt8} (positive : 0 < size) {storage : List UInt8}
    (allocated : storage.length = size.toNat * elemSize.toNat) (items : List (List UInt8))
    (sized : ∀ item ∈ items, item.length = elemSize.toNat) :
    ∃ start buf, ringBufferInit size elemSize (some storage) = some start ∧
      items.foldlM ringBufferInsert start = some buf ∧
      buf.elements.toNat = min items.length size.toNat ∧
      buf.readIdx < size ∧ buf.writeIdx < size ∧
      (buf.elements = size → buf.readIdx = buf.writeIdx) ∧
      ∀ idx, idx < buf.elements → buf.ringBufferGetElementAtIndex idx =
        items[items.length - buf.elements.toNat + idx.toNat]? := by
  have room : 0 < size.toNat := UInt8.lt_iff_toNat_lt.mp positive
  have slides := RingBuffer.ringBufferInit_slides elemSize.toNat
    (Memory.slots_length storage elemSize.toNat size.toNat) room size.toNat_lt
  obtain ⟨buf, cells, ran, represents, slid, sameSize⟩ :=
    (ringBufferInit_represents allocated).insertAll items slides sized
  have same := represents.maxSize
  have elements := represents.elements
  have few := slid.elements
  have readBelow := slid.readIdx_lt
  have writeBelow := slid.writeIdx_lt
  have readAt := represents.readIdx
  have writeAt := represents.writeIdx
  simp only [sameSize] at same
  rw [List.nil_append] at slid few
  refine ⟨_, buf, rfl, ran, by omega, ?_, ?_, ?_, fun idx inside => represents.get slid inside⟩
  next =>
    rw [UInt8.lt_iff_toNat_lt]
    omega
  next =>
    rw [UInt8.lt_iff_toNat_lt]
    omega
  next =>
    intro full
    have whole : ¬items.length < cells.maxSize := by
      rw [full] at elements
      omega
    have first := slid.readIdx
    have next := slid.writeIdx
    rw [if_neg whole] at first
    rw [← UInt8.toNat_inj]
    omega

theorem history_slides_wrapped :
    ∃ start buf, ringBufferInit 2 1 (some [0, 0]) = some start ∧
      [[5], [6], [7]].foldlM ringBufferInsert start = some buf ∧
      buf.ringBufferGetElementAtIndex 0 = some [6] ∧ buf.ringBufferGetElementAtIndex 1 = some [7] := by
  obtain ⟨start, buf, opened, ran, elements, _, _, _, reads⟩ :=
    @history_slides 2 1 (by decide) [0, 0] rfl [[5], [6], [7]] (by simp)
  have two : buf.elements = 2 := UInt8.toNat_inj.mp elements
  have first := reads 0 (by rw [two]; decide)
  have second := reads 1 (by rw [two]; decide)
  rw [two] at first second
  exact ⟨start, buf, opened, ran, first, second⟩

end ByteRingBuffer

end WatchFirmware.MotionStage1
