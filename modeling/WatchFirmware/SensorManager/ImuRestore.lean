import WatchFirmware.SensorManager.ImuOperations

set_option autoImplicit false
set_option mvcgen.warning false

open Std.Do

namespace WatchFirmware.ImuOperations

open Ble (Byte)
open ImuDriver (ImuErr Ram qmi8658aRegCtrl9 qmi8658aRegStatusint)
open ScopedLock (Op Guarded acquire release access)

/-- A sensor on a bus that works: CTRL7 holds what was written to it last, and the other registers answer
anything, access by access. -/
structure Sensor where
  ctrl7 : Byte
  answers : Nat → Nat → Byte
  accesses : Nat

def Sensor.read (reg : Byte) (len : Nat) (sensor : Sensor) : Except ImuErr (List Byte) × Sensor :=
  let data := if reg = qmi8658aRegCtrl7 then List.replicate len sensor.ctrl7
    else (List.range len).map (sensor.answers sensor.accesses)
  (.ok data, { sensor with accesses := sensor.accesses + 1 })

def Sensor.write (reg : Byte) (data : List Byte) (sensor : Sensor) : ImuErr × Sensor :=
  let ctrl7 := if reg = qmi8658aRegCtrl7 then data.headD 0 else sensor.ctrl7
  (.ok, { sensor with ctrl7, accesses := sensor.accesses + 1 })

def Sensor.readFifo (_ : Byte) (_ : Ram) (len : Nat) (sensor : Sensor) : (ImuErr × Ram) × Sensor :=
  ((.ok, fun k => if k < 1 + len then sensor.answers sensor.accesses k else 0),
    { sensor with accesses := sensor.accesses + 1 })

def working : Interface Sensor := ⟨Sensor.read, Sensor.readFifo, Sensor.write⟩

def sensorBits (ctrl7 : Byte) : Byte := ctrl7 &&& (qmi8658aCtrl7AenMask ||| qmi8658aCtrl7GenMask)

theorem sensorBits_lowPower (data : Byte) : sensorBits (lowPower data) = 0 := by
  have cleared : ~~~qmi8658aCtrl7AenMask &&& (~~~qmi8658aCtrl7GenMask &&&
      (qmi8658aCtrl7AenMask ||| qmi8658aCtrl7GenMask)) = 0 := by decide
  rw [sensorBits, lowPower, UInt8.and_assoc, UInt8.and_assoc, cleared, UInt8.and_zero]

/-- CTRL7 after `reenable`. -/
def reenabled (data ctrl7 : Byte) : Byte :=
  let accel := if accelEnabled data then ctrl7 ||| qmi8658aCtrl7AenMask else ctrl7
  if gyroEnabled data then accel ||| qmi8658aCtrl7GenMask else accel

theorem ctrl9_ne_ctrl7 : qmi8658aRegCtrl9 ≠ qmi8658aRegCtrl7 := by decide

theorem ctrl8_ne_ctrl7 : qmi8658aRegCtrl8 ≠ qmi8658aRegCtrl7 := by decide

section Working

variable (ctrl7 : Byte)

theorem read_working (reg : Byte) (len : Nat) :
    ⦃fun state => ⌜state.device.ctrl7 = ctrl7⌝⦄ read working reg len
      ⦃⇓ result state => ⌜state.device.ctrl7 = ctrl7 ∧
        ∃ data, result = .ok data ∧ (reg = qmi8658aRegCtrl7 → 0 < len → data.headD 0 = ctrl7)⌝⦄ := by
  intro state kept
  refine ⟨kept, _, rfl, fun here some => ?_⟩
  obtain ⟨len, rfl⟩ := Nat.exists_eq_succ_of_ne_zero some.ne'
  rw [if_pos here]
  exact kept

theorem write_working (reg : Byte) (data : List Byte) :
    ⦃fun state => ⌜state.device.ctrl7 = ctrl7⌝⦄ write working reg data
      ⦃⇓ result state => ⌜result = .ok ∧
        state.device.ctrl7 = if reg = qmi8658aRegCtrl7 then data.headD 0 else ctrl7⌝⦄ := by
  intro state kept
  refine ⟨rfl, ?_⟩
  rw [← show state.device.ctrl7 = ctrl7 from kept]
  rfl

theorem acquire_working :
    ⦃fun state => ⌜state.device.ctrl7 = ctrl7⌝⦄ (acquire : Op Sensor Unit)
      ⦃⇓ _ state => ⌜state.device.ctrl7 = ctrl7⌝⦄ := fun _ kept => kept

theorem release_working :
    ⦃fun state => ⌜state.device.ctrl7 = ctrl7⌝⦄ (release : Op Sensor Unit)
      ⦃⇓ _ state => ⌜state.device.ctrl7 = ctrl7⌝⦄ := fun _ kept => kept

theorem imuEnterLowPowerMode_working :
    ⦃fun state => ⌜state.device.ctrl7 = ctrl7⌝⦄ imuEnterLowPowerMode working
      ⦃⇓ result state => ⌜result = .ok ∧ state.device.ctrl7 = lowPower ctrl7⌝⦄ := by
  mvcgen [imuEnterLowPowerMode, read_working, write_working] <;> simp_all

theorem updateCtrl7_working (change : Byte → Byte) :
    ⦃fun state => ⌜state.device.ctrl7 = ctrl7⌝⦄ updateCtrl7 working change
      ⦃⇓ result state => ⌜result = .ok ∧ state.device.ctrl7 = change ctrl7⌝⦄ := by
  mvcgen [updateCtrl7, read_working, write_working, acquire_working, release_working] <;> simp_all

theorem reenable_working (data : Byte) :
    ⦃fun state => ⌜state.device.ctrl7 = ctrl7⌝⦄ reenable working data
      ⦃⇓ result state => ⌜result = .ok ∧ state.device.ctrl7 = reenabled data ctrl7⌝⦄ := by
  mvcgen [reenable, imuEnableAccelerometer, imuEnableGyro, updateCtrl7_working] <;> simp_all [reenabled]

theorem awaitCtrl9_working (rounds : Nat) (ackSent : Bool) :
    ⦃fun state => ⌜state.device.ctrl7 = ctrl7⌝⦄ awaitCtrl9 working rounds ackSent
      ⦃⇓ result state => ⌜(result = .ok ∨ result = .failed) ∧ state.device.ctrl7 = ctrl7⌝⦄ := by
  induction rounds generalizing ackSent with
  | zero =>
      mvcgen [awaitCtrl9, release_working]
      simp_all
  | succ rounds ih =>
      mvcgen [awaitCtrl9, read_working, write_working, release_working, ih] <;> simp_all [ctrl9_ne_ctrl7]

theorem ctrl9Handshake_working (cmd : Byte) :
    ⦃fun state => ⌜state.device.ctrl7 = ctrl7⌝⦄ ctrl9Handshake working cmd
      ⦃⇓ result state => ⌜(result = .ok ∨ result = .failed) ∧ state.device.ctrl7 = ctrl7⌝⦄ := by
  mvcgen [ctrl9Handshake, write_working, acquire_working, awaitCtrl9_working] <;> simp_all [ctrl9_ne_ctrl7]

theorem writeEach_working {writes : List (Byte × Byte)}
    (others : writes.all (fun entry => entry.1 != qmi8658aRegCtrl7) = true) :
    ⦃fun state => ⌜state.device.ctrl7 = ctrl7⌝⦄ writeEach working writes
      ⦃⇓ result state => ⌜result = .ok ∧ state.device.ctrl7 = ctrl7⌝⦄ := by
  induction writes with
  | nil =>
      intro state kept
      exact ⟨rfl, kept⟩
  | cons entry rest ih =>
      rw [List.all_cons, Bool.and_eq_true, bne_iff_ne] at others
      have ih := ih others.2
      have other := others.1
      mvcgen [writeEach, write_working, ih] <;> simp_all

theorem setCtrl8_working (mask : Byte) :
    ⦃fun state => ⌜state.device.ctrl7 = ctrl7⌝⦄ setCtrl8 working mask
      ⦃⇓ result state => ⌜result = .ok ∧ state.device.ctrl7 = ctrl7⌝⦄ := by
  mvcgen [setCtrl8, read_working, write_working] <;> simp_all [ctrl8_ne_ctrl7]

end Working

inductive Reconfiguration where
  | enablePedometer
  | setupWakeOnMotion
  | setupDetectNoMotion
  | disableWakeOnMotion
  deriving DecidableEq, Repr

def Reconfiguration.run {Device : Type} (imu : Interface Device) : Reconfiguration → Op Device ImuErr
  | .enablePedometer => imuEnablePedometer imu
  | .setupWakeOnMotion => imuSetupWakeOnMotion imu
  | .setupDetectNoMotion => imuSetupDetectNoMotion imu
  | .disableWakeOnMotion => imuDisableWakeOnMotion imu

/-- CTRL7 at the return: the sensors are on again where the call succeeds, and off where a handshake timed out. -/
structure Left (before : Byte) (result : ImuErr) (after : Byte) : Prop where
  timeout : result = .ok ∨ result = .failed
  restored : result = .ok → after = reenabled before (lowPower before)
  off : result ≠ .ok → after = lowPower before

@[simp] theorem left_restored (before : Byte) : Left before .ok (reenabled before (lowPower before)) where
  timeout := Or.inl rfl
  restored := fun _ => rfl
  off := fun failed => absurd rfl failed

@[simp] theorem left_off (before : Byte) : Left before .failed (lowPower before) where
  timeout := Or.inr rfl
  restored := nofun
  off := fun _ => rfl

theorem run_working (function : Reconfiguration) (ctrl7 : Byte) :
    ⦃fun state => ⌜state.device.ctrl7 = ctrl7⌝⦄ function.run working
      ⦃⇓ result state => ⌜Left ctrl7 result state.device.ctrl7⌝⦄ := by
  cases function with
  | enablePedometer =>
      mvcgen [Reconfiguration.run, imuEnablePedometer, read_working, write_working, imuEnterLowPowerMode_working,
        writeEach_working, ctrl9Handshake_working, reenable_working, acquire_working, release_working]
        <;> simp_all [ctrl8_ne_ctrl7]
  | setupWakeOnMotion =>
      mvcgen [Reconfiguration.run, imuSetupWakeOnMotion, read_working, imuEnterLowPowerMode_working,
        acquire_working, release_working, writeEach_working, ctrl9Handshake_working, reenable_working]
        <;> simp_all
  | setupDetectNoMotion =>
      mvcgen [Reconfiguration.run, imuSetupDetectNoMotion, read_working, imuEnterLowPowerMode_working,
        writeEach_working, ctrl9Handshake_working, setCtrl8_working, reenable_working] <;> simp_all
  | disableWakeOnMotion =>
      mvcgen [Reconfiguration.run, imuDisableWakeOnMotion, read_working, imuEnterLowPowerMode_working,
        writeEach_working, ctrl9Handshake_working, reenable_working] <;> simp_all

/-- A call that fails leaves the sensors as they were just where none of them was on. -/
theorem sensorBits_kept_iff (function : Reconfiguration) (state : Guarded Sensor)
    (failed : (function.run working state).1 ≠ .ok) :
    sensorBits (function.run working state).2.device.ctrl7 = sensorBits state.device.ctrl7 ↔
      sensorBits state.device.ctrl7 = 0 := by
  have left : Left state.device.ctrl7 (function.run working state).1 (function.run working state).2.device.ctrl7 :=
    run_working function state.device.ctrl7 state rfl
  rw [left.off failed, sensorBits_lowPower]
  exact eq_comm

def silent : Guarded Sensor := ⟨⟨qmi8658aCtrl7AenMask, fun _ _ => 0, 0⟩, []⟩

theorem sensorBits_kept_iff_silent :
    sensorBits (Reconfiguration.setupWakeOnMotion.run working silent).2.device.ctrl7 = sensorBits silent.device.ctrl7 ↔
      sensorBits silent.device.ctrl7 = 0 :=
  sensorBits_kept_iff .setupWakeOnMotion silent (by decide +kernel)

theorem silent_left_off :
    ¬ ∀ (function : Reconfiguration) (state : Guarded Sensor), (function.run working state).1 ≠ .ok →
      sensorBits (function.run working state).2.device.ctrl7 = sensorBits state.device.ctrl7 := by
  intro kept
  have on := kept .setupWakeOnMotion silent (by decide +kernel)
  revert on
  decide +kernel

end WatchFirmware.ImuOperations
