import WatchFirmware.SensorManager.ImuDriver
import WatchFirmware.MotionStage1.Signal

set_option autoImplicit false

namespace WatchFirmware.SensorManager

open Ble (Byte)
open ImuDriver
open MotionStage1 (MotionState)

abbrev imuFifoSize : Nat := 800

/-- The bytes `stage1_process_motion_data` reads from the second byte of the buffer on. -/
def stage1Reads (state : MotionState) (ram : Ram) (samples : Nat) : List Byte :=
  match state with
  | .accelOnly => (List.range (samples / 6 * 6)).map fun k => ram (1 + k)
  | .accelGyro => []

structure Tick where
  read : FifoRead
  -- the byte count stage1_process_motion_data was called with and what it reads, if it was called
  processed : Option (Nat × List Byte)
  ram : Ram

def clearFifo (ram : Ram) : Ram := fun k => if k < imuFifoSize then 0 else ram k

/-- `process_imu_data` behind the read of the FIFO, whose error is logged and no more. -/
def processRead (state : MotionState) (aborted : Bool) (read : FifoRead) : Tick :=
  if aborted then ⟨read, none, clearFifo read.ram⟩
  else if read.len = 0 then ⟨read, none, read.ram⟩
  else ⟨read, some (read.len, stage1Reads state read.ram read.len), clearFifo read.ram⟩

def processImuData (state : MotionState) (bus : Bus) (ram : Ram) (aborted : Bool) : Tick :=
  processRead state aborted (imuReadFifoBuffer (imuReadTemperature bus).2 ram imuFifoSize)

structure Tick.Sound (tick : Tick) : Prop where
  stored : ∀ span, tick.read.span = some span → span ≤ imuFifoSize
  clipped : ∀ samples bytes, tick.processed = some (samples, bytes) → samples ≤ imuFifoSize - 1
  fresh : ∀ samples bytes, tick.processed = some (samples, bytes) → bytes <+: tick.read.drained
  gated : ∀ samples bytes, tick.processed = some (samples, bytes) → tick.read.err = .ok

/-- The answers of the bus with which a drain keeps to the buffer and to what it has read: the
length leaves the first byte free, and an error comes only where nothing is processed. -/
def DrainsCleanly (bus : Bus) (aborted : Bool) : Prop :=
  match bus.regRead qmi8658aRegFifoSmplCnt 2 with
  | (.error _, _) => aborted = true
  | (.ok countBytes, counted) =>
      fifoLength countBytes = 0 ∨
        match counted.regRead qmi8658aRegFifoCtrl 1 with
        | (.error _, _) => aborted = true
        | (.ok _, read) =>
            match ctrl9Handshake read qmi8658aCtrl9CmdReqFifo with
            | (.ok, ready) =>
                fifoLength countBytes ≤ imuFifoSize - 1 ∧
                  (aborted = true ∨
                    ((ready.replies ready.sent.length).isSome ∧
                      (ready.replies (ready.sent.length + 1)).isSome))
            | _ => aborted = true

theorem regRead_error {bus after : Bus} {regAddr : Byte} {len : Nat} {err : ImuErr}
    (read : bus.regRead regAddr len = (.error err, after)) : err ≠ .ok := by
  unfold Bus.regRead Bus.spiDeviceTransmit at read
  intro same
  cases bus.replies bus.sent.length <;> grind

theorem regRead_ok {bus after : Bus} {regAddr : Byte} {len : Nat} {data : List Byte}
    (read : bus.regRead regAddr len = (.ok data, after)) : after.attached = true := by
  unfold Bus.regRead Bus.spiDeviceTransmit at read
  cases bus.replies bus.sent.length <;> grind

theorem regWrite_ok_iff {bus : Bus} (regAddr : Byte) (data : List Byte)
    (attached : bus.attached = true) (short : data.length ≤ maxSingleRegDataLen) :
    (bus.regWrite regAddr data).1 = .ok ↔ (bus.replies bus.sent.length).isSome := by
  unfold Bus.regWrite Bus.spiDeviceTransmit
  rw [if_pos attached, if_neg (Nat.not_lt_of_le short)]
  cases bus.replies bus.sent.length with
  | none => simp
  | some rx => simp

theorem awaitCtrl9_ok {rounds : Nat} {ackSent : Bool} {bus after : Bus}
    (waited : awaitCtrl9 rounds ackSent bus = (.ok, after)) : after.attached = true := by
  induction rounds generalizing ackSent bus with
  | zero => cases waited
  | succ rounds ih =>
      unfold awaitCtrl9 at waited
      split at waited
      next err read failed =>
        cases waited
        exact (regRead_error failed rfl).elim
      next status read answered =>
        simp only at waited
        split at waited
        next =>
          split at waited
          next => exact ih waited
          next =>
            cases waited
            exact regRead_ok answered
        next =>
          split at waited
          next =>
            split at waited
            next => exact ih waited
            next =>
              cases waited
              contradiction
          next => exact ih waited

theorem ctrl9Handshake_ok {bus after : Bus} {cmd : Byte}
    (shaken : ctrl9Handshake bus cmd = (.ok, after)) : after.attached = true := by
  unfold ctrl9Handshake at shaken
  split at shaken
  next => exact awaitCtrl9_ok shaken
  next =>
    cases shaken
    contradiction

theorem esp32ImuFifoRead_cases {bus : Bus} {len : Nat} (regAddr : Byte) (ram : Ram)
    (attached : bus.attached = true) (positive : len ≠ 0) :
    (esp32ImuFifoRead bus regAddr ram len).span = some (1 + len) ∧
      ((esp32ImuFifoRead bus regAddr ram len).err = .ok ↔
        (bus.replies bus.sent.length).isSome = true) ∧
      (esp32ImuFifoRead bus regAddr ram len).bus.attached = true ∧
      (esp32ImuFifoRead bus regAddr ram len).bus.replies = bus.replies ∧
      (esp32ImuFifoRead bus regAddr ram len).bus.sent.length = bus.sent.length + 1 := by
  unfold esp32ImuFifoRead Bus.spiDeviceTransmit
  rw [if_pos attached, if_neg positive]
  cases bus.replies bus.sent.length with
  | none => simp [attached]
  | some rx => simp [attached]

theorem processRead_sound_iff (state : MotionState) (aborted : Bool) (read : FifoRead) :
    (processRead state aborted read).Sound ↔
      (∀ span, read.span = some span → span ≤ imuFifoSize) ∧
        (aborted = true ∨ read.len = 0 ∨
          (read.err = .ok ∧ read.len ≤ imuFifoSize - 1 ∧
            stage1Reads state read.ram read.len <+: read.drained)) := by
  unfold processRead
  cases aborted with
  | true =>
      simp only [if_true, true_or, and_true]
      constructor
      next => exact fun sound => sound.stored
      next =>
        intro stored
        refine ⟨stored, ?_, ?_, ?_⟩
        all_goals
          intro samples bytes none_processed
          contradiction
  | false =>
      by_cases empty : read.len = 0
      next =>
        simp only [empty, if_true, true_or, or_true, and_true]
        constructor
        next => exact fun sound => sound.stored
        next =>
          intro stored
          refine ⟨stored, ?_, ?_, ?_⟩
          all_goals
            intro samples bytes none_processed
            contradiction
      next =>
        simp only [empty, Bool.false_eq_true, if_false, false_or]
        constructor
        next =>
          intro sound
          exact ⟨sound.stored, sound.gated _ _ rfl, sound.clipped _ _ rfl, sound.fresh _ _ rfl⟩
        next =>
          intro demands
          obtain ⟨stored, gated, clipped, fresh⟩ := demands
          refine ⟨stored, ?_, ?_, ?_⟩
          all_goals
            intro samples bytes processed
            cases processed
            assumption

theorem stage1Reads_drained (state : MotionState) (ram : Ram) (len : Nat) :
    stage1Reads state ram len <+: (List.range len).map fun k => ram (1 + k) := by
  cases state with
  | accelOnly =>
      have within : len / 6 * 6 ≤ len := Nat.div_mul_le_self len 6
      have front : List.range (len / 6 * 6) <+: List.range len := by
        have parts := List.range_add (n := len / 6 * 6) (m := len - len / 6 * 6)
        rw [Nat.add_sub_cancel' within] at parts
        rw [parts]
        exact List.prefix_append _ _
      exact front.map _
  | accelGyro => exact List.nil_prefix

theorem no_span {span : Nat} (same : (none : Option Nat) = some span) : span ≤ imuFifoSize := by
  contradiction

theorem failed_sound_iff {state : MotionState} {aborted : Bool} {read : FifoRead}
    (apart : read.span = none) (failed : read.err ≠ .ok) (left : read.len ≠ 0) :
    (processRead state aborted read).Sound ↔ aborted = true := by
  -- a read that gives up before the transaction leaves a length that is not 0
  rw [processRead_sound_iff, apart]
  constructor
  next =>
    intro sound
    obtain stopped | empty | good := sound.2
    next => exact stopped
    next => exact (left empty).elim
    next => exact (failed good.1).elim
  next =>
    intro stopped
    exact ⟨fun _ => no_span, .inl stopped⟩

theorem transfer_sound_iff {state : MotionState} {aborted : Bool} {ready : Bus} {len : Nat}
    {fifoCtrl : List Byte} (ram : Ram) (attached : ready.attached = true) (positive : len ≠ 0) :
    (processRead state aborted
      (transferFifo ready fifoCtrl ram len (if len < imuFifoSize then len else imuFifoSize))).Sound ↔
      len ≤ imuFifoSize - 1 ∧
        (aborted = true ∨
          ((ready.replies ready.sent.length).isSome ∧
            (ready.replies (ready.sent.length + 1)).isSome)) := by
  -- of the two transactions left, a longer read is clipped to the buffer, and the command byte does not
  -- fit any more
  have inside : (1 + if len < imuFifoSize then len else imuFifoSize) ≤ imuFifoSize ↔
      len ≤ imuFifoSize - 1 := by
    simp only [imuFifoSize]
    split <;> omega
  have taken : (if len < imuFifoSize then len else imuFifoSize) ≠ 0 := by
    split
    next => exact positive
    next => decide
  generalize (if len < imuFifoSize then len else imuFifoSize) = readLen at *
  obtain ⟨span, answered, kept, replies, sent⟩ :=
    esp32ImuFifoRead_cases qmi8658aRegFifoData ram attached taken
  have stored : (∀ covered, (some (1 + readLen)) = some covered → covered ≤ imuFifoSize) ↔
      len ≤ imuFifoSize - 1 := by
    rw [← inside]
    constructor
    next => exact fun every => every _ rfl
    next =>
      intro fits covered same
      cases same
      exact fits
  have room : readLen ≤ imuFifoSize - 1 ↔ len ≤ imuFifoSize - 1 := by
    rw [← inside]
    simp only [imuFifoSize]
    omega
  rw [processRead_sound_iff]
  unfold transferFifo
  by_cases transferred : (esp32ImuFifoRead ready qmi8658aRegFifoData ram readLen).err = .ok
  next =>
    have restored := regWrite_ok_iff qmi8658aRegFifoCtrl
      [fifoCtrl.headD 0 &&& ~~~qmi8658aFifoCtrlRdModeMask] kept (by simp)
    rw [replies, sent] at restored
    have fresh := stage1Reads_drained state (esp32ImuFifoRead ready qmi8658aRegFifoData ram readLen).ram
      readLen
    simp only [transferred, if_true, span, stored, restored, taken, false_or, answered.mp transferred,
      true_and, room, fresh, and_true]
    tauto
  next =>
    have refused : ¬(ready.replies ready.sent.length).isSome = true := fun some_reply =>
      transferred (answered.mpr some_reply)
    simp only [transferred, if_false, span, stored, positive, refused, false_or, false_and,
      Bool.false_eq_true]

theorem drain_sound_iff (state : MotionState) (bus : Bus) (ram : Ram) (aborted : Bool) :
    (processRead state aborted (imuReadFifoBuffer bus ram imuFifoSize)).Sound ↔
      DrainsCleanly bus aborted := by
  unfold imuReadFifoBuffer DrainsCleanly
  cases counting : bus.regRead qmi8658aRegFifoSmplCnt 2 with
  | mk answer counted =>
    cases answer with
    | error err => exact failed_sound_iff rfl (regRead_error counting) (Nat.succ_ne_zero _)
    | ok countBytes =>
      by_cases empty : fifoLength countBytes = 0
      next =>
        simp only [empty, if_true, true_or, iff_true]
        rw [processRead_sound_iff]
        exact ⟨fun _ => no_span, .inr (.inl rfl)⟩
      next =>
        simp only [empty, if_false, false_or]
        cases controlling : counted.regRead qmi8658aRegFifoCtrl 1 with
        | mk answer read =>
          cases answer with
          | error err => exact failed_sound_iff rfl (regRead_error controlling) empty
          | ok fifoCtrl =>
            simp only
            cases shaking : ctrl9Handshake read qmi8658aCtrl9CmdReqFifo with
            | mk err ready =>
              cases err with
              | ok => exact transfer_sound_iff ram (ctrl9Handshake_ok shaking) empty
              | invalidConfig => exact failed_sound_iff rfl ImuErr.noConfusion empty
              | failed => exact failed_sound_iff rfl ImuErr.noConfusion empty

/-- A tick keeps to its buffer and to fresh bytes just with the answers that drain cleanly. -/
theorem processImuData_sound_iff (state : MotionState) (bus : Bus) (ram : Ram) (aborted : Bool) :
    (processImuData state bus ram aborted).Sound ↔
      DrainsCleanly (imuReadTemperature bus).2 aborted :=
  drain_sound_iff state (imuReadTemperature bus).2 ram aborted

-- The length registers cannot be read: the whole buffer is processed as it was.
theorem processImuData_stale :
    ¬(processImuData .accelOnly ⟨true, fun _ => none, []⟩ (fun _ => 0) false).Sound := by
  intro sound
  have failed := sound.gated 800 _ rfl
  contradiction

end WatchFirmware.SensorManager
