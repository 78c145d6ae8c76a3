import WatchFirmware.Ble.Types
import WatchFirmware.Shared.CheckedInt
import WatchFirmware.Shared.ScopedLock

set_option autoImplicit false

namespace WatchFirmware.Bmp180Driver

open Ble (Byte)
open CheckedInt (checked)
open ScopedLock (Op acquire release access)

abbrev bmp180RegAc1H : Byte := 0xAA
abbrev bmp180RegControl : Byte := 0xF4
abbrev bmp180RegDataMsb : Byte := 0xF6
abbrev bmp180RegChipId : Byte := 0xD0
abbrev bmp180CmdReadTemp : Byte := 0x2E
abbrev bmp180CmdReadPress : Byte := 0x34
abbrev bmp180OssShift : Byte := 6
abbrev bmp180ChipIdValue : Byte := 0x55
abbrev calRegSize : Nat := 22

inductive SensorMode where
  | ultraLowPower
  | standard
  | highRes
  | ultraHighRes
  | invalid
  deriving DecidableEq, Repr

/-- `oss`: an invalid mode counts as the first. -/
def SensorMode.oss : SensorMode → Nat
  | .ultraLowPower => 0
  | .standard => 1
  | .highRes => 2
  | .ultraHighRes => 3
  | .invalid => 0

structure CalibrationRegs where
  ac1 : Int16
  ac2 : Int16
  ac3 : Int16
  ac4 : UInt16
  ac5 : UInt16
  ac6 : UInt16
  b1 : Int16
  b2 : Int16
  mb : Int16
  mc : Int16
  md : Int16
  deriving DecidableEq, Repr

abbrev RawBytes := Nat → Byte

def word (data : RawBytes) (idx : Nat) : UInt16 := ((data idx).toUInt16 <<< 8) ||| (data (idx + 1)).toUInt16

def populateCalibrationRegs (data : RawBytes) : CalibrationRegs where
  ac1 := (word data 0).toInt16
  ac2 := (word data 2).toInt16
  ac3 := (word data 4).toInt16
  ac4 := word data 6
  ac5 := word data 8
  ac6 := word data 10
  b1 := (word data 12).toInt16
  b2 := (word data 14).toInt16
  mb := (word data 16).toInt16
  mc := (word data 18).toInt16
  md := (word data 20).toInt16

/-- `read_reg` and `write_reg` of `bmp180_bus_t`; a failed read answers nothing. -/
structure I2c (Device : Type) where
  readReg : Byte → Nat → Device → Option RawBytes × Device
  writeReg : Byte → List Byte → Device → Bool × Device

/-- The statics of the driver; no bus where the structure has been cleared. -/
structure Driver (Device : Type) where
  bus : Option (I2c Device)
  calibrationRegs : CalibrationRegs

section Arithmetic

variable (regs : CalibrationRegs)

-- A shift to the right divides and rounds down, and one to the left multiplies, as the compiler has them.
/-- B5 from the raw temperature; `none` where the C code divides by zero or overflows. -/
def compensateTemp (ut : Int) : Option Int := do
  let difference ← checked 32 (ut - regs.ac6.toNat)
  let product ← checked 32 (difference * regs.ac5.toNat)
  let x1 := product / 2 ^ 15
  let dividend ← checked 32 (regs.mc.toInt * 2 ^ 11)
  let divisor ← checked 32 (x1 + regs.md.toInt)
  if divisor = 0 then none
  else
    let x2 ← checked 32 (dividend.tdiv divisor)
    checked 32 (x1 + x2)

def tempScaled10 (b5 : Int) : Option Int := do
  let rounded ← checked 32 (b5 + 8)
  return rounded / 2 ^ 4

/-- The value of an `int32_t` that takes the bits of an unsigned one. -/
def toInt32 (value : Nat) : Int := (value : Int).bmod (2 ^ 32)

def toUInt32 (value : Int) : Nat := (value % 2 ^ 32).toNat

/-- B3 and B4 from B6; the arithmetic of B4 is unsigned. -/
def pressureCoefficients (oss : Nat) (b6 : Int) : Option (Int × Nat) := do
  let square ← checked 32 (b6 * b6)
  let product ← checked 32 (regs.b2.toInt * (square / 2 ^ 12))
  let x1 := product / 2 ^ 11
  let product ← checked 32 (regs.ac2.toInt * b6)
  let x2 := product / 2 ^ 11
  let x3 ← checked 32 (x1 + x2)
  let scaled ← checked 32 (regs.ac1.toInt * 4)
  let sum ← checked 32 (scaled + x3)
  let shifted ← checked 32 (sum * 2 ^ oss)
  let rounded ← checked 32 (shifted + 2)
  let b3 := rounded / 2 ^ 2
  let product ← checked 32 (regs.ac3.toInt * b6)
  let x1 := product / 2 ^ 13
  let product ← checked 32 (regs.b1.toInt * (square / 2 ^ 12))
  let x2 := product / 2 ^ 16
  let sum ← checked 32 (x1 + x2)
  let rounded ← checked 32 (sum + 2)
  let x3 := rounded / 2 ^ 2
  let raised ← checked 32 (x3 + 32768)
  return (b3, regs.ac4.toNat * toUInt32 raised % 2 ^ 32 / 2 ^ 15)

def uncorrectedPressure (oss up : Nat) (b3 : Int) (b4 : Nat) : Int :=
  let b7 := toUInt32 (up - b3) * (50000 / 2 ^ oss) % 2 ^ 32
  if b7 < 0x80000000 then toInt32 (b7 * 2 / b4) else toInt32 (b7 / b4 * 2 % 2 ^ 32)

def correctPressure (p : Int) : Option Int := do
  let square ← checked 32 (p / 2 ^ 8 * (p / 2 ^ 8))
  let product ← checked 32 (square * 3038)
  let x1 := product / 2 ^ 16
  let product ← checked 32 (-7357 * p)
  let x2 := product / 2 ^ 16
  let sum ← checked 32 (x1 + x2)
  let sum ← checked 32 (sum + 3791)
  checked 32 (p + sum / 2 ^ 4)

def compensatePressure (oss up : Nat) (b5 : Int) : Option Int := do
  let b6 ← checked 32 (b5 - 4000)
  let (b3, b4) ← pressureCoefficients regs oss b6
  if b4 = 0 then none else correctPressure (uncorrectedPressure oss up b3 b4)

end Arithmetic

def rawTemperature (raw : RawBytes) : Nat := (raw 0).toNat <<< 8 ||| (raw 1).toNat

def rawPressure (oss : Nat) (raw : RawBytes) : Nat :=
  ((raw 0).toNat <<< 16 ||| (raw 1).toNat <<< 8 ||| (raw 2).toNat) >>> (8 - oss)

/-- What a measurement under the lock comes to. A call through a missing function does not come back. -/
inductive Measured where
  | missingOperation
  | failed
  | raw (bytes : RawBytes)

/-- What a read comes to; `undefined` where it divides by zero or overflows on its way. A read that fails at
its second measurement has written the temperature. -/
inductive Outcome where
  | missingOperation
  | undefined
  | failed (tempScaled10 : Option Int)
  | read (tempScaled10 : Int) (altMetersScaled10 : Option Int)
  deriving DecidableEq, Repr

section Reads

variable {Device : Type}

/-- A command and the data that are there after its delay; both reads take the lock for it in the same way. -/
def measure (bus : Option (I2c Device)) (cmd : Byte) (len : Nat) : Op Device Measured := do
  acquire
  match bus with
  | none => return .missingOperation
  | some bus =>
      let success ← access (bus.writeReg bmp180RegControl [cmd])
      if !success then
        release
        return .failed
      match ← access (bus.readReg bmp180RegDataMsb len) with
      | none =>
          release
          return .failed
      | some rawBytes =>
          release
          return .raw rawBytes

variable (driver : Driver Device)

/-- `bmp180_read_temp`; whether it has been given a place for the result. -/
def bmp180ReadTemp (given : Bool) : Op Device Outcome := do
  if !given then return .failed none
  match ← measure driver.bus bmp180CmdReadTemp 2 with
  | .missingOperation => return .missingOperation
  | .failed => return .failed none
  | .raw rawBytes =>
      match (compensateTemp driver.calibrationRegs (rawTemperature rawBytes)).bind tempScaled10 with
      | none => return .undefined
      | some temp => return .read temp none

def pressureCmd (oss : Nat) : Byte := bmp180CmdReadPress ||| (UInt8.ofNat oss <<< bmp180OssShift)

/-- `bmp180_read_temp_and_altitude`; the altitude comes from the pressure by floating-point arithmetic. -/
def bmp180ReadTempAndAltitude (altitude : Int → Int) (tempGiven altGiven : Bool) (mode : SensorMode) :
    Op Device Outcome := do
  if !tempGiven || !altGiven then return .failed none
  match ← measure driver.bus bmp180CmdReadTemp 2 with
  | .missingOperation => return .missingOperation
  | .failed => return .failed none
  | .raw rawBytes =>
      match compensateTemp driver.calibrationRegs (rawTemperature rawBytes) with
      | none => return .undefined
      | some b5 =>
          match tempScaled10 b5 with
          | none => return .undefined
          | some temp =>
              match ← measure driver.bus (pressureCmd mode.oss) 3 with
              | .missingOperation => return .missingOperation
              | .failed => return .failed (some temp)
              | .raw rawBytes =>
                  match compensatePressure driver.calibrationRegs mode.oss (rawPressure mode.oss rawBytes) b5 with
                  | none => return .undefined
                  | some p => return .read temp (some (altitude p))

/-- The values are read from the sensor only where storage has none; a failed read leaves the old ones. What
has been read is then put into storage, whose answer changes nothing in the driver. -/
def readAndStoreCalibrationDataIfRequired (bus : I2c Device) (stored : Option RawBytes)
    (regs : CalibrationRegs) (device : Device) : CalibrationRegs × Device :=
  match stored with
  | some calReg => (populateCalibrationRegs calReg, device)
  | none =>
      match bus.readReg bmp180RegAc1H calRegSize device with
      | (none, after) => (regs, after)
      | (some calReg, after) => (populateCalibrationRegs calReg, after)

/-- `bmp180_init` over the functions of the configured bus; `stored` is what storage holds under the key. -/
def bmp180Init (bus : I2c Device) (stored : Option RawBytes) (regs : CalibrationRegs) (device : Device) :
    Driver Device × Device :=
  let chipId := bus.readReg bmp180RegChipId 1 device
  match chipId.1 with
  | none => (⟨none, regs⟩, chipId.2)
  | some dev =>
      if dev 0 = bmp180ChipIdValue then
        let (calibrationRegs, after) := readAndStoreCalibrationDataIfRequired bus stored regs chipId.2
        (⟨some bus, calibrationRegs⟩, after)
      else (⟨none, regs⟩, chipId.2)

end Reads

end WatchFirmware.Bmp180Driver
