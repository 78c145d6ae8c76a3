import WatchFirmware.Bmp180Driver.Compensation

set_option autoImplicit false

namespace WatchFirmware.Bmp180Driver

open Ble (Byte)
open ScopedLock (Guarded Op)

inductive Request where
  | temp (given : Bool)
  | tempAndAltitude (tempGiven altGiven : Bool) (mode : SensorMode)
  deriving DecidableEq, Repr

section Calls

variable {Device : Type}

def Request.run (altitude : Int → Int) (driver : Driver Device) : Request → Op Device Outcome
  | .temp given => bmp180ReadTemp driver given
  | .tempAndAltitude tempGiven altGiven mode => bmp180ReadTempAndAltitude driver altitude tempGiven altGiven mode

def Request.refused : Request → Bool
  | .temp given => !given
  | .tempAndAltitude tempGiven altGiven _ => !tempGiven || !altGiven

variable (bus : I2c Device) (stored : Option RawBytes) (device : Device)

def chipFound : Bool :=
  match (bus.readReg bmp180RegChipId 1 device).1 with
  | none => false
  | some dev => dev 0 == bmp180ChipIdValue

def calibrated : Bool :=
  stored.isSome || (bus.readReg bmp180RegAc1H calRegSize (bus.readReg bmp180RegChipId 1 device).2).1.isSome

structure Sound (initialised : Prop) (outcome : Outcome) : Prop where
  operation : outcome ≠ .missingOperation
  arithmetic : outcome ≠ .undefined
  failure : ¬ initialised → ∃ temp, outcome = .failed temp

theorem sound_failed (initialised : Prop) (temp : Option Int) : Sound initialised (.failed temp) where
  operation := nofun
  arithmetic := nofun
  failure := fun _ => ⟨temp, rfl⟩

theorem sound_read_iff (initialised : Prop) (temp : Int) (alt : Option Int) :
    Sound initialised (.read temp alt) ↔ initialised := by
  constructor
  next =>
    intro sound
    by_contra failed
    obtain ⟨written, same⟩ := sound.failure failed
    cases same
  next => exact fun ready => ⟨nofun, nofun, fun failed => absurd ready failed⟩

theorem missing_unsound (initialised : Prop) : ¬ Sound initialised .missingOperation := fun sound => sound.operation rfl

theorem undefined_unsound (initialised : Prop) : ¬ Sound initialised .undefined := fun sound => sound.arithmetic rfl

theorem bmp180Init_bus (regs : CalibrationRegs) :
    (bmp180Init bus stored regs device).1.bus = if chipFound bus device then some bus else none := by
  rw [bmp180Init, chipFound]
  cases bus.readReg bmp180RegChipId 1 device with
  | mk answer after =>
      cases answer with
      | none => rfl
      | some dev =>
          by_cases own : dev 0 = bmp180ChipIdValue
          next => simp only [own, if_true, beq_self_eq_true]
          next => simp only [own, if_false, beq_eq_false_iff_ne.mpr own, Bool.false_eq_true]

variable {bus}

def AltitudeReady (regs : CalibrationRegs) (initialised : Prop) (mode : SensorMode) (b5 : Int) : Measured → Prop
  | .missingOperation => False
  | .failed => True
  | .raw bytes => PressureDefined regs mode.oss (rawPressure mode.oss bytes) b5 ∧ initialised

variable (bus) in
def Ready (regs : CalibrationRegs) (initialised : Prop) (request : Request) (state : Guarded Device) : Prop :=
  let first := measure (some bus) bmp180CmdReadTemp 2 state
  match first.1 with
  | .missingOperation => False
  | .failed => True
  | .raw bytes =>
      TempDefined regs (rawTemperature bytes) ∧
        match request with
        | .temp _ => initialised
        | .tempAndAltitude _ _ mode =>
            AltitudeReady regs initialised mode (exactB5 regs (rawTemperature bytes))
              (measure (some bus) (pressureCmd mode.oss) 3 first.2).1

theorem rawTemperature_lt (raw : RawBytes) : rawTemperature raw < 2 ^ 16 := by
  have high : (raw 0).toNat <<< 8 < 2 ^ 16 := by
    have small := (raw 0).toNat_lt
    rw [Nat.shiftLeft_eq]
    omega
  have low : (raw 1).toNat < 2 ^ 16 := (raw 1).toNat_lt.trans (by decide)
  exact Nat.or_lt_two_pow high low

theorem oss_lt (mode : SensorMode) : mode.oss < 4 := by
  cases mode
  all_goals decide

theorem measure_returns (cmd : Byte) (len : Nat) (state : Guarded Device) :
    (measure (some bus) cmd len state).1 ≠ .missingOperation := by
  rw [measure, ScopedLock.bind_run, ScopedLock.acquire_run, ScopedLock.bind_run, ScopedLock.access_run,
    ScopedLock.ite_run]
  split
  next => nofun
  next =>
    rw [ScopedLock.bind_run, ScopedLock.access_run]
    cases (bus.readReg bmp180RegDataMsb len (bus.writeReg bmp180RegControl [cmd] state.device).2).1 with
    | none => nofun
    | some rawBytes => nofun

theorem bmp180ReadTemp_sound_iff (regs : CalibrationRegs) (initialised : Prop) (state : Guarded Device) :
    Sound initialised (bmp180ReadTemp ⟨some bus, regs⟩ true state).1 ↔
      Ready bus regs initialised (.temp true) state := by
  rw [bmp180ReadTemp, Ready, ScopedLock.ite_run, if_neg (by decide), ScopedLock.bind_run]
  cases answer : measure (some bus) bmp180CmdReadTemp 2 state with
  | mk first after =>
      cases first with
      | missingOperation => exact absurd (congrArg Prod.fst answer) (measure_returns bmp180CmdReadTemp 2 state)
      | failed => exact iff_of_true (sound_failed initialised none) trivial
      | raw bytes =>
          simp only [compensateTemp_eq (rawTemperature_lt bytes)]
          by_cases defined : TempDefined regs (rawTemperature bytes)
          next =>
            simp only [if_pos defined, Option.bind_some, tempScaled10_defined (exactB5_within defined.1)]
            exact (sound_read_iff initialised _ none).trans (and_iff_right defined).symm
          next =>
            simp only [if_neg defined]
            exact iff_of_false (undefined_unsound initialised) fun ready => defined ready.1

theorem bmp180ReadTempAndAltitude_sound_iff (altitude : Int → Int) (regs : CalibrationRegs) (initialised : Prop)
    (mode : SensorMode) (state : Guarded Device) :
    Sound initialised (bmp180ReadTempAndAltitude ⟨some bus, regs⟩ altitude true true mode state).1 ↔
      Ready bus regs initialised (.tempAndAltitude true true mode) state := by
  rw [bmp180ReadTempAndAltitude, Ready, ScopedLock.ite_run, if_neg (by decide), ScopedLock.bind_run]
  cases answer : measure (some bus) bmp180CmdReadTemp 2 state with
  | mk first after =>
      cases first with
      | missingOperation => exact absurd (congrArg Prod.fst answer) (measure_returns bmp180CmdReadTemp 2 state)
      | failed => exact iff_of_true (sound_failed initialised none) trivial
      | raw bytes =>
          dsimp only
          rw [compensateTemp_eq (rawTemperature_lt bytes)]
          by_cases defined : TempDefined regs (rawTemperature bytes)
          next =>
            have within := exactB5_within defined.1
            rw [if_pos defined, and_iff_right defined]
            dsimp only
            rw [tempScaled10_defined within]
            dsimp only
            rw [ScopedLock.bind_run]
            cases later : measure (some bus) (pressureCmd mode.oss) 3 after with
            | mk second last =>
                cases second with
                | missingOperation => exact absurd (congrArg Prod.fst later) (measure_returns _ 3 after)
                | failed => exact iff_of_true (sound_failed initialised _) trivial
                | raw bytes =>
                    dsimp only
                    rw [compensatePressure_eq (oss_lt mode) within, AltitudeReady]
                    split
                    next pressure => exact (sound_read_iff initialised _ _).trans (and_iff_right pressure).symm
                    next pressure => exact iff_of_false (undefined_unsound initialised) fun ready => pressure ready.1
          next =>
            rw [if_neg defined]
            exact iff_of_false (undefined_unsound initialised) fun ready => defined ready.1

theorem Request.run_refused (altitude : Int → Int) (driver : Driver Device) {request : Request} {state : Guarded Device}
    (refused : request.refused = true) : request.run altitude driver state = (.failed none, state) := by
  cases request with
  | temp given =>
      rw [Request.run, bmp180ReadTemp, ScopedLock.ite_run]
      exact if_pos refused
  | tempAndAltitude tempGiven altGiven mode =>
      rw [Request.run, bmp180ReadTempAndAltitude, ScopedLock.ite_run]
      exact if_pos refused

theorem Request.run_missing (altitude : Int → Int) {driver : Driver Device} {request : Request} {state : Guarded Device}
    (missing : driver.bus = none) (accepted : ¬ request.refused = true) :
    (request.run altitude driver state).1 = .missingOperation := by
  cases request with
  | temp given =>
      rw [Request.run, bmp180ReadTemp, missing, ScopedLock.ite_run]
      exact congrArg Prod.fst (if_neg accepted)
  | tempAndAltitude tempGiven altGiven mode =>
      rw [Request.run, bmp180ReadTempAndAltitude, missing, ScopedLock.ite_run]
      exact congrArg Prod.fst (if_neg accepted)

theorem Request.run_sound_iff (altitude : Int → Int) (regs : CalibrationRegs) (initialised : Prop) {request : Request}
    (state : Guarded Device) (accepted : ¬ request.refused = true) :
    Sound initialised (request.run altitude ⟨some bus, regs⟩ state).1 ↔ Ready bus regs initialised request state := by
  cases request with
  | temp given =>
      cases given with
      | false => exact absurd rfl accepted
      | true => exact bmp180ReadTemp_sound_iff regs initialised state
  | tempAndAltitude tempGiven altGiven mode =>
      cases tempGiven with
      | false => exact absurd rfl accepted
      | true =>
          cases altGiven with
          | false => exact absurd rfl accepted
          | true => exact bmp180ReadTempAndAltitude_sound_iff altitude regs initialised mode state

/-- After an initialisation of any outcome: when a later read, of any answers, is defined. -/
theorem read_sound_iff (stored : Option RawBytes) (regs : CalibrationRegs) (device : Device)
    (altitude : Int → Int) (request : Request) (state : Guarded Device) :
    let driver := (bmp180Init bus stored regs device).1
    let initialised := chipFound bus device = true ∧ calibrated bus stored device = true
    Sound initialised (request.run altitude driver state).1 ↔
      request.refused = true ∨
        (chipFound bus device = true ∧
          Ready bus driver.calibrationRegs (calibrated bus stored device = true) request state) := by
  intro driver initialised
  by_cases refused : request.refused = true
  next =>
    rw [Request.run_refused altitude driver refused]
    exact iff_of_true (sound_failed initialised none) (Or.inl refused)
  next =>
    rw [or_iff_right refused]
    by_cases found : chipFound bus device = true
    next =>
      have whole : driver = ⟨some bus, driver.calibrationRegs⟩ := by
        have attached := bmp180Init_bus bus stored device regs
        rw [if_pos found] at attached
        rw [← attached]
      have same : initialised = (calibrated bus stored device = true) := propext (and_iff_right found)
      rw [and_iff_right found, whole, same]
      exact Request.run_sound_iff altitude driver.calibrationRegs _ state refused
    next =>
      have missing : driver.bus = none := by
        have cleared := bmp180Init_bus bus stored device regs
        rwa [if_neg found] at cleared
      rw [Request.run_missing altitude missing refused]
      exact iff_of_false (missing_unsound initialised) fun ready => found ready.1

end Calls

def clearedRegs : CalibrationRegs := ⟨0, 0, 0, 0, 0, 0, 0, 0, 0, 0, 0⟩

def wrongChip : I2c Unit := ⟨fun _ _ device => (some fun _ => 0, device), fun _ _ device => (true, device)⟩

theorem wrongChip_unsound :
    ¬ ∀ (bus : I2c Unit) (stored : Option RawBytes) (regs : CalibrationRegs) (device : Unit) (altitude : Int → Int)
      (request : Request) (state : Guarded Unit),
      Sound (chipFound bus device = true ∧ calibrated bus stored device = true)
        (request.run altitude (bmp180Init bus stored regs device).1 state).1 := by
  intro sound
  have operation := (sound wrongChip none clearedRegs () id (.temp true) ⟨(), []⟩).operation
  revert operation
  decide

end WatchFirmware.Bmp180Driver
