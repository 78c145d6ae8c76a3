import WatchFirmware.MotionStage1.StepGating
import WatchFirmware.Ble.Types

set_option autoImplicit false

namespace WatchFirmware.MotionStage1

open Ble (Byte)

inductive MotionState where
  | accelOnly
  | accelGyro
  deriving DecidableEq, Repr

/-- The operations on `float`. The results hold for any of them: nothing is assumed of how they
round or compare. -/
class FloatOps (F : Type) where
  ofRat : ℚ → F
  infinity : F
  add : F → F → F
  sub : F → F → F
  mul : F → F → F
  div : F → F → F
  sqrt : F → F
  lt : F → F → Bool
  le : F → F → Bool
  eq : F → F → Bool

instance : FloatOps Float32 where
  ofRat q := Float32.ofInt q.num / Float32.ofNat q.den
  infinity := 1 / 0
  add := (· + ·)
  sub := (· - ·)
  mul := (· * ·)
  div := (· / ·)
  sqrt := Float32.sqrt
  lt x y := decide (x < y)
  le x y := decide (x ≤ y)
  eq x y := x == y

open FloatOps

variable {F : Type} [FloatOps F]

/-- The fractional parameters of `stage1_tuning_params_t`. -/
structure TuningParams (F : Type) extends TuningCounts where
  gravityAlpha : F
  verticalAccelAlpha : F
  accelStableThreshold : F
  maxAccelUnstableThresholdDensity : F
  maxJerkThresholdPerSample : F
  maxStepPeriodicityDeviation : F
  stepMinProminenceForPeak : F
  stepMinVarianceActivityForStep : F

def params : TuningParams F :=
  { counts with
    gravityAlpha := ofRat (1 / 10)
    verticalAccelAlpha := ofRat (2 / 10)
    accelStableThreshold := ofRat (2 / 1000)
    maxAccelUnstableThresholdDensity := ofRat (5 / 1000)
    maxJerkThresholdPerSample := ofRat (5 / 100000)
    maxStepPeriodicityDeviation := ofRat (3 / 10)
    stepMinProminenceForPeak := ofRat (1 / 10)
    stepMinVarianceActivityForStep := ofRat (5 / 1000) }

structure Vec3 (F : Type) where
  x : F
  y : F
  z : F

namespace Vec3

def zero : Vec3 F := ⟨ofRat 0, ofRat 0, ofRat 0⟩

def squaref (x : F) : F := mul x x

def modSquare (v : Vec3 F) : F := add (add (squaref v.x) (squaref v.y)) (squaref v.z)

def subtract (a b : Vec3 F) : Vec3 F := ⟨sub a.x b.x, sub a.y b.y, sub a.z b.z⟩

def plus (a b : Vec3 F) : Vec3 F := ⟨add a.x b.x, add a.y b.y, add a.z b.z⟩

def scale (v : Vec3 F) (scalar : F) : Vec3 F := ⟨mul v.x scalar, mul v.y scalar, mul v.z scalar⟩

def componentOnG (a g : Vec3 F) : F :=
  let res := add (add (mul a.x g.x) (mul a.y g.y)) (mul a.z g.z)
  let denominatorSq := g.modSquare
  if le denominatorSq (ofRat (2 / 10)) then res else div res denominatorSq

def sampleToG (x y z : Int) : Vec3 F :=
  let factor := ofRat (2441 / 10000000)
  ⟨mul (ofRat x) factor, mul (ofRat y) factor, mul (ofRat z) factor⟩

end Vec3

def int16 (low high : Byte) : Int :=
  let raw := low.toNat + high.toNat * 256
  if raw < 32768 then raw else (raw : Int) - 65536

-- The negated axis is cut to 16 bits again.
def negate16 (x : Int) : Int := if x = -32768 then x else -x

abbrev sizeofFloat : Nat := 4

/-- `ring_buffer_t` with elements of type float; `data` is none for NULL. -/
structure RingBuffer (F : Type) where
  data : Option (List F)
  elemSize : Nat
  maxSize : Nat
  elements : Nat
  readIdx : Nat
  writeIdx : Nat

namespace RingBuffer

def empty : RingBuffer F := ⟨none, 0, 0, 0, 0, 0⟩

/-- What malloc returned is `storage`. -/
def ringBufferInit (size elemSize : Nat) (storage : Option (List F)) : RingBuffer F :=
  match storage with
  | none => empty
  | some data =>
      { data := some data
        elemSize
        maxSize := size
        elements := 0
        readIdx := 0
        writeIdx := 0 }

def nextIdx (buf : RingBuffer F) (idx : Nat) : Nat := if buf.maxSize ≤ idx + 1 then 0 else idx + 1

/-- The write of `ring_buffer_insert`; none is an access outside the storage. -/
def store (buf : RingBuffer F) (data : List F) (elem : F) : Option (RingBuffer F) :=
  if buf.writeIdx < data.length then
    some { buf with data := some (data.set buf.writeIdx elem), writeIdx := buf.nextIdx buf.writeIdx }
  else none

-- From here on none is a failed assertion or an access outside the storage.
def ringBufferInsert (buf : RingBuffer F) (elem : F) : Option (RingBuffer F) :=
  buf.data.bind fun data =>
    if buf.elements < buf.maxSize then store { buf with elements := buf.elements + 1 } data elem
    else if buf.readIdx = buf.writeIdx then
      store { buf with readIdx := buf.nextIdx buf.readIdx } data elem
    else none

-- The index is a byte.
def ringBufferGetElementAtIndex (buf : RingBuffer F) (i : Nat) : Option F :=
  let idx := i % 256
  if idx < buf.elements then
    let sum := buf.readIdx + idx
    let pos := if buf.maxSize ≤ sum then sum - buf.maxSize else sum
    buf.data.bind fun data => data[pos]?
  else none

structure WellFormed (buf : RingBuffer F) : Prop where
  allocated : ∃ data, buf.data = some data ∧ data.length = buf.maxSize
  elemSize : buf.elemSize = sizeofFloat
  maxSize : buf.maxSize = stepLearningHistorySize
  elements : buf.elements ≤ buf.maxSize
  filling : buf.elements < buf.maxSize → buf.readIdx = 0 ∧ buf.writeIdx = buf.elements
  full : buf.elements = buf.maxSize → buf.readIdx = buf.writeIdx
  writeIdx : buf.writeIdx < buf.maxSize

variable {buf : RingBuffer F}

omit [FloatOps F] in
theorem ringBufferInit_wellFormed {data : List F} (size : data.length = stepLearningHistorySize) :
    (ringBufferInit stepLearningHistorySize sizeofFloat (some data)).WellFormed := by
  constructor
  case allocated => exact ⟨data, rfl, size⟩
  case elemSize => rfl
  case maxSize => rfl
  case elements => exact Nat.zero_le _
  case filling => exact fun _ => ⟨rfl, rfl⟩
  case full => exact fun _ => rfl
  case writeIdx => exact Nat.succ_pos _

omit [FloatOps F] in
theorem WellFormed.readIdx_lt (formed : buf.WellFormed) : buf.readIdx < buf.maxSize := by
  have bound := formed.writeIdx
  by_cases room : buf.elements < buf.maxSize
  next =>
    have start := (formed.filling room).1
    omega
  next =>
    have same := formed.full (Nat.le_antisymm formed.elements (Nat.le_of_not_lt room))
    omega

omit [FloatOps F] in
theorem WellFormed.get (formed : buf.WellFormed) {i : Nat} (inside : i < buf.elements) :
    ∃ x, buf.ringBufferGetElementAtIndex i = some x := by
  obtain ⟨data, present, length⟩ := formed.allocated
  have bound := formed.readIdx_lt
  have most := formed.elements
  have size := formed.maxSize
  have byte : i % 256 = i := by
    apply Nat.mod_eq_of_lt
    simp only [stepLearningHistorySize, samplingFreqAccelOnly] at size
    omega
  have place : (if buf.maxSize ≤ buf.readIdx + i then buf.readIdx + i - buf.maxSize
      else buf.readIdx + i) < data.length := by
    rw [length]
    split <;> omega
  unfold ringBufferGetElementAtIndex
  simp only [byte, inside, if_true, present, Option.bind_some]
  exact ⟨_, List.getElem?_eq_getElem place⟩

omit [FloatOps F] in
theorem WellFormed.store (formed : buf.WellFormed) (elem : F) {data : List F} (present : buf.data = some data)
    {elements readIdx : Nat} (most : elements ≤ buf.maxSize)
    (filling : elements < buf.maxSize → readIdx = 0 ∧ buf.nextIdx buf.writeIdx = elements)
    (full : elements = buf.maxSize → readIdx = buf.nextIdx buf.writeIdx) :
    ∃ after, RingBuffer.store { buf with elements, readIdx } data elem = some after ∧ after.WellFormed ∧
      after.elements = elements := by
  obtain ⟨block, same, length⟩ := formed.allocated
  obtain rfl : data = block := Option.some.inj (present.symm.trans same)
  have bound := formed.writeIdx
  unfold RingBuffer.store
  rw [if_pos (length ▸ bound)]
  refine ⟨_, rfl, ?_, rfl⟩
  constructor
  case allocated => exact ⟨_, rfl, by rw [List.length_set, length]⟩
  case elemSize => exact formed.elemSize
  case maxSize => exact formed.maxSize
  case elements => exact most
  case filling => exact filling
  case full => exact full
  case writeIdx =>
    simp only [nextIdx]
    split <;> omega

omit [FloatOps F] in
theorem WellFormed.insert (formed : buf.WellFormed) (elem : F) :
    ∃ after, buf.ringBufferInsert elem = some after ∧ after.WellFormed ∧
      after.elements = min stepLearningHistorySize (buf.elements + 1) := by
  obtain ⟨data, present, _⟩ := formed.allocated
  have size := formed.maxSize
  unfold ringBufferInsert
  rw [present, Option.bind_some]
  by_cases room : buf.elements < buf.maxSize
  next =>
    obtain ⟨start, fill⟩ := formed.filling room
    have most : min stepLearningHistorySize (buf.elements + 1) = buf.elements + 1 := by omega
    rw [if_pos room, most]
    apply formed.store elem present room
    next =>
      intro more
      refine ⟨start, ?_⟩
      simp only [nextIdx]
      split <;> omega
    next =>
      intro whole
      simp only [nextIdx]
      split <;> omega
  next =>
    have whole : buf.elements = buf.maxSize := Nat.le_antisymm formed.elements (Nat.le_of_not_lt room)
    have met := formed.full whole
    have most : min stepLearningHistorySize (buf.elements + 1) = buf.elements := by omega
    rw [if_neg room, if_pos met, most]
    apply formed.store elem present formed.elements
    next => exact fun more => (room more).elim
    next => exact fun _ => congrArg buf.nextIdx met

end RingBuffer

end WatchFirmware.MotionStage1
