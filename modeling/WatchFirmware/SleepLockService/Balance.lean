import WatchFirmware.Bmp180Driver.ReadSafety
import WatchFirmware.SensorManager.ImuRestore

set_option autoImplicit false
set_option mvcgen.warning false

open Std.Do

namespace WatchFirmware.SleepLockService

open Ble (Byte)
open ImuDriver (ImuErr Ram)
open ImuOperations
open ScopedLock (Op Guarded Balanced depth taken dropped dropped_taken acquire release access acquire_depth
  release_depth access_depth)

variable {Device : Type}

abbrev KeepsDepth {Result : Type} (held : Option Nat) (op : Op Device Result) : Prop :=
  ⦃fun state => ⌜depth state.locks = held⌝⦄ op ⦃⇓ _ state => ⌜depth state.locks = held⌝⦄

variable (imu : Interface Device) (held : Option Nat)

theorem read_depth (reg : Byte) (len : Nat) : KeepsDepth held (read imu reg len) := access_depth held _

theorem write_depth (reg : Byte) (data : List Byte) : KeepsDepth held (write imu reg data) :=
  access_depth held _

theorem sendCmds_depth (cmds : List Qmi8658Cmd) :
    ⦃fun state => ⌜depth state.locks = held⌝⦄ sendCmds imu cmds
      ⦃⇓ err state => ⌜depth state.locks = if err.isSome then dropped held else held⌝⦄ := by
  -- the loop drops the lock on its own where it stops early
  induction cmds with
  | nil => mvcgen [sendCmds]
  | cons cmd rest ih => mvcgen [sendCmds, write_depth, release_depth, ih] <;> simp_all

theorem executeSequentialCmds_depth (cmds : List Qmi8658Cmd) : KeepsDepth held (executeSequentialCmds imu cmds) := by
  mvcgen [executeSequentialCmds, acquire_depth, release_depth, sendCmds_depth] <;> simp_all

theorem awaitCtrl9_depth (rounds : Nat) (ackSent : Bool) :
    ⦃fun state => ⌜depth state.locks = held⌝⦄ awaitCtrl9 imu rounds ackSent
      ⦃⇓ _ state => ⌜depth state.locks = dropped held⌝⦄ := by
  -- every way out of the rounds drops the lock that was taken before them
  induction rounds generalizing ackSent with
  | zero =>
      mvcgen [awaitCtrl9, release_depth]
      simp_all
  | succ rounds ih => mvcgen [awaitCtrl9, read_depth, write_depth, release_depth, ih] <;> simp_all

theorem ctrl9Handshake_depth (cmd : Byte) : KeepsDepth held (ctrl9Handshake imu cmd) := by
  mvcgen [ctrl9Handshake, write_depth, acquire_depth, awaitCtrl9_depth] <;> simp_all

theorem imuReset_depth : KeepsDepth held (imuReset imu) := by
  mvcgen [imuReset, read_depth, write_depth, acquire_depth, release_depth] <;> simp_all

theorem imuInit_depth : KeepsDepth held (imuInit imu) := by
  mvcgen [imuInit, imuReset_depth, read_depth, executeSequentialCmds_depth] <;> simp_all

theorem updateCtrl7_depth (change : Byte → Byte) : KeepsDepth held (updateCtrl7 imu change) := by
  mvcgen [updateCtrl7, read_depth, write_depth, acquire_depth, release_depth] <;> simp_all

theorem imuEnterLowPowerMode_depth : KeepsDepth held (imuEnterLowPowerMode imu) := by
  mvcgen [imuEnterLowPowerMode, read_depth, write_depth] <;> simp_all

theorem writeEach_depth (writes : List (Byte × Byte)) : KeepsDepth held (writeEach imu writes) := by
  induction writes with
  | nil => mvcgen [writeEach]
  | cons entry rest ih => mvcgen [writeEach, write_depth, ih] <;> simp_all

theorem reenable_depth (data : Byte) : KeepsDepth held (reenable imu data) := by
  mvcgen [reenable, imuEnableAccelerometer, imuEnableGyro, updateCtrl7_depth] <;> simp_all

theorem setCtrl8_depth (mask : Byte) : KeepsDepth held (setCtrl8 imu mask) := by
  mvcgen [setCtrl8, read_depth, write_depth] <;> simp_all

theorem imuReadFifoBuffer_depth (ram : Ram) (maxLen : Nat) : KeepsDepth held (imuReadFifoBuffer imu ram maxLen) := by
  mvcgen [imuReadFifoBuffer, read_depth, write_depth, ctrl9Handshake_depth, access_depth] <;> simp_all

theorem imuResetFifoBuffer_depth : KeepsDepth held (imuResetFifoBuffer imu) := by
  mvcgen [imuResetFifoBuffer, read_depth, write_depth, ctrl9Handshake_depth] <;> simp_all

theorem imuEnablePedometer_depth : KeepsDepth held (imuEnablePedometer imu) := by
  mvcgen [imuEnablePedometer, read_depth, write_depth, imuEnterLowPowerMode_depth, writeEach_depth,
    ctrl9Handshake_depth, reenable_depth, acquire_depth, release_depth] <;> simp_all

theorem imuSetupWakeOnMotion_depth : KeepsDepth held (imuSetupWakeOnMotion imu) := by
  mvcgen [imuSetupWakeOnMotion, read_depth, imuEnterLowPowerMode_depth, acquire_depth, release_depth,
    writeEach_depth, ctrl9Handshake_depth, reenable_depth] <;> simp_all

theorem imuSetupDetectNoMotion_depth : KeepsDepth held (imuSetupDetectNoMotion imu) := by
  mvcgen [imuSetupDetectNoMotion, read_depth, imuEnterLowPowerMode_depth, writeEach_depth, ctrl9Handshake_depth,
    setCtrl8_depth, reenable_depth] <;> simp_all

theorem imuDisableWakeOnMotion_depth : KeepsDepth held (imuDisableWakeOnMotion imu) := by
  mvcgen [imuDisableWakeOnMotion, read_depth, imuEnterLowPowerMode_depth, writeEach_depth, ctrl9Handshake_depth,
    reenable_depth] <;> simp_all

inductive ImuOperation where
  | init
  | reset
  | enableAccelerometer
  | disableAccelerometer
  | enableGyro
  | disableGyro
  | enterHighAccuracyMode
  | enterLowPowerAccelOnlyMode
  | resetPedometer
  | readFifoBuffer (ram : Ram) (maxLen : Nat)
  | resetFifoBuffer
  | reconfigure (function : Reconfiguration)

def ImuOperation.run : ImuOperation → Op Device ImuErr
  | .init => imuInit imu
  | .reset => imuReset imu
  | .enableAccelerometer => imuEnableAccelerometer imu
  | .disableAccelerometer => imuDisableAccelerometer imu
  | .enableGyro => imuEnableGyro imu
  | .disableGyro => imuDisableGyro imu
  | .enterHighAccuracyMode => imuEnterHighAccuracyMode imu
  | .enterLowPowerAccelOnlyMode => imuEnterLowPowerAccelOnlyMode imu
  | .resetPedometer => imuResetPedometer imu
  | .readFifoBuffer ram maxLen => do
      let (err, _) ← imuReadFifoBuffer imu ram maxLen
      return err
  | .resetFifoBuffer => imuResetFifoBuffer imu
  | .reconfigure function => function.run imu

theorem imuOperation_depth (operation : ImuOperation) : KeepsDepth held (operation.run imu) := by
  cases operation with
  | init => exact imuInit_depth imu held
  | reset => exact imuReset_depth imu held
  | enableAccelerometer => mvcgen [ImuOperation.run, imuEnableAccelerometer, updateCtrl7_depth]
  | disableAccelerometer => mvcgen [ImuOperation.run, imuDisableAccelerometer, updateCtrl7_depth]
  | enableGyro => mvcgen [ImuOperation.run, imuEnableGyro, updateCtrl7_depth]
  | disableGyro => mvcgen [ImuOperation.run, imuDisableGyro, updateCtrl7_depth]
  | enterHighAccuracyMode => exact executeSequentialCmds_depth imu held highAccuracyCmds
  | enterLowPowerAccelOnlyMode => exact executeSequentialCmds_depth imu held lpAccelOnlyCmds
  | resetPedometer => exact ctrl9Handshake_depth imu held qmi8658aCtrl9CmdResetPedometer
  | readFifoBuffer ram maxLen =>
      mvcgen [ImuOperation.run, imuReadFifoBuffer_depth]
      simp_all
  | resetFifoBuffer => exact imuResetFifoBuffer_depth imu held
  | reconfigure function =>
      cases function with
      | enablePedometer => exact imuEnablePedometer_depth imu held
      | setupWakeOnMotion => exact imuSetupWakeOnMotion_depth imu held
      | setupDetectNoMotion => exact imuSetupDetectNoMotion_depth imu held
      | disableWakeOnMotion => exact imuDisableWakeOnMotion_depth imu held

section Barometer

open Bmp180Driver

variable (bus : I2c Device) (regs : CalibrationRegs) (altitude : Int → Int)

theorem measure_depth (cmd : Byte) (len : Nat) : KeepsDepth held (measure (some bus) cmd len) := by
  mvcgen [Bmp180Driver.measure, acquire_depth, release_depth, access_depth] <;> simp_all

theorem bmp180ReadTemp_depth (given : Bool) :
    KeepsDepth held (bmp180ReadTemp ⟨some bus, regs⟩ given) := by
  mvcgen [bmp180ReadTemp, measure_depth] <;> simp_all

theorem bmp180ReadTempAndAltitude_depth (tempGiven altGiven : Bool) (mode : SensorMode) :
    KeepsDepth held (bmp180ReadTempAndAltitude ⟨some bus, regs⟩ altitude tempGiven altGiven mode) := by
  mvcgen [bmp180ReadTempAndAltitude, measure_depth] <;> simp_all

theorem request_depth (request : Request) : KeepsDepth held (request.run altitude ⟨some bus, regs⟩) := by
  cases request with
  | temp given => exact bmp180ReadTemp_depth held bus regs given
  | tempAndAltitude tempGiven altGiven mode =>
      exact bmp180ReadTempAndAltitude_depth held bus regs altitude tempGiven altGiven mode

end Barometer

open Bmp180Driver (Driver Request)

inductive Operation where
  | imu (operation : ImuOperation)
  | barometer (request : Request)

def Operation.run (altitude : Int → Int) (driver : Driver Device) : Operation → Op Device Bool
  | .imu operation => do
      let _ ← operation.run imu
      return true
  | .barometer request => do
      let outcome ← request.run altitude driver
      return outcome ≠ .missingOperation

/-- Whatever the buses answer, a call that comes back has dropped the lock as often as it has taken it, and
never before. -/
theorem sleepLocks_balanced (altitude : Int → Int) (driver : Driver Device) (operation : Operation) (device : Device)
    (returned : (operation.run imu altitude driver ⟨device, []⟩).1 = true) :
    Balanced (operation.run imu altitude driver ⟨device, []⟩).2.locks := by
  cases operation with
  | imu operation => exact ScopedLock.balanced_of_depth_kept (fun held => imuOperation_depth imu held operation) device
  | barometer request =>
      obtain ⟨bus, regs⟩ := driver
      cases bus with
      | some bus =>
          exact ScopedLock.balanced_of_depth_kept (fun held => request_depth held bus regs altitude request) device
      | none =>
          by_cases refused : request.refused = true
          next =>
            rw [Operation.run, ScopedLock.bind_run, Bmp180Driver.Request.run_refused altitude _ refused]
            exact ScopedLock.balanced_of_depth rfl
          next =>
            have missing := @Bmp180Driver.Request.run_missing Device altitude ⟨none, regs⟩ request ⟨device, []⟩ rfl refused
            rw [Operation.run, ScopedLock.bind_run, missing] at returned
            simp at returned

theorem sleepLocks_balanced_silent :
    Balanced (Operation.run working id ⟨none, Bmp180Driver.clearedRegs⟩ (.imu (.reconfigure .setupWakeOnMotion))
      ⟨silent.device, []⟩).2.locks :=
  sleepLocks_balanced working id ⟨none, Bmp180Driver.clearedRegs⟩ (.imu (.reconfigure .setupWakeOnMotion))
    silent.device (by rw [Operation.run, ScopedLock.bind_run, ScopedLock.pure_run])

end WatchFirmware.SleepLockService
