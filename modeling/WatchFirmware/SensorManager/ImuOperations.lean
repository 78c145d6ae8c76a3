import WatchFirmware.SensorManager.ImuDriver
import WatchFirmware.Shared.ScopedLock

set_option autoImplicit false

namespace WatchFirmware.ImuOperations

open Ble (Byte)
open ImuDriver (ImuErr Ram Bus fifoLength esp32ImuFifoRead qmi8658aRegCtrl9 qmi8658aRegFifoCtrl
  qmi8658aRegFifoSmplCnt qmi8658aRegFifoData qmi8658aRegStatusint qmi8658aCtrl9CmdAck
  qmi8658aCtrl9CmdReqFifo qmi8658aFifoCtrlRdModeMask qmi8658aStatusintCmdDoneMask)
open ScopedLock (Op Guarded acquire release access)

abbrev qmi8658aRegWhoAmI : Byte := 0x00
abbrev qmi8658aRegRevisionId : Byte := 0x01
abbrev qmi8658aRegCtrl1 : Byte := 0x02
abbrev qmi8658aRegCtrl2 : Byte := 0x03
abbrev qmi8658aRegCtrl3 : Byte := 0x04
abbrev qmi8658aRegCtrl7 : Byte := 0x08
abbrev qmi8658aRegCtrl8 : Byte := 0x09
abbrev qmi8658aRegCal1L : Byte := 0x0B
abbrev qmi8658aRegCal1H : Byte := 0x0C
abbrev qmi8658aRegCal2L : Byte := 0x0D
abbrev qmi8658aRegCal2H : Byte := 0x0E
abbrev qmi8658aRegCal3L : Byte := 0x0F
abbrev qmi8658aRegCal3H : Byte := 0x10
abbrev qmi8658aRegCal4L : Byte := 0x11
abbrev qmi8658aRegCal4H : Byte := 0x12
abbrev qmi8658aRegStatus1 : Byte := 0x2F
abbrev qmi8658aRegReset : Byte := 0x60

abbrev qmi8658aWhoAmIVal : Byte := 0x05
abbrev qmi8658aRevisionIdVal : Byte := 0x7C
abbrev qmi8658aResetCmd : Byte := 0xB0

abbrev qmi8658aCtrl1AddrAiMask : Byte := 0x40
abbrev qmi8658aCtrl1BeMask : Byte := 0x20
abbrev qmi8658aCtrl1Int2EnMask : Byte := 0x10
abbrev qmi8658aCtrl1Int1EnMask : Byte := 0x08
abbrev qmi8658aAccelFs8g : Byte := 0x20
abbrev qmi8658aAccelOdr62_5hz : Byte := 0x07
abbrev qmi8658aAccelOdrLp21hz : Byte := 0x0D
abbrev qmi8658aGyroFs1024dps : Byte := 0x60
abbrev qmi8658aGyroOdr56_05hz : Byte := 0x07
abbrev qmi8658aCtrl7DrdyDisMask : Byte := 0x20
abbrev qmi8658aCtrl7GenMask : Byte := 0x02
abbrev qmi8658aCtrl7AenMask : Byte := 0x01
abbrev qmi8658aCtrl8Ctrl9HandshakeType : Byte := 0x80
abbrev qmi8658aCtrl8PedoEnMask : Byte := 0x10
abbrev qmi8658aCtrl8NoMotionEnMask : Byte := 0x04
abbrev qmi8658aFifoModeStream : Byte := 0x02
abbrev qmi8658aFifoSize128Samples : Byte := 0x0C

abbrev qmi8658aCtrl9CmdRstFifo : Byte := 0x04
abbrev qmi8658aCtrl9CmdWriteWomSetting : Byte := 0x08
abbrev qmi8658aCtrl9CmdConfigurePedometer : Byte := 0x0D
abbrev qmi8658aCtrl9CmdConfigureMotion : Byte := 0x0E
abbrev qmi8658aCtrl9CmdResetPedometer : Byte := 0x0F

abbrev ctrl7DisableAllSensors : Byte := 0x00

/-- `qmi8658_bus_t`: the functions that the driver reaches the sensor through. -/
structure Interface (Device : Type) where
  read : Byte → Nat → Device → Except ImuErr (List Byte) × Device
  readFifo : Byte → Ram → Nat → Device → (ImuErr × Ram) × Device
  write : Byte → List Byte → Device → ImuErr × Device

-- The delays behind the commands have no effect on what is modelled.
structure Qmi8658Cmd where
  regAddr : Byte
  data : Byte

def initCmds : List Qmi8658Cmd :=
  [⟨qmi8658aRegCtrl1, qmi8658aCtrl1AddrAiMask ||| qmi8658aCtrl1Int1EnMask ||| qmi8658aCtrl1BeMask |||
      qmi8658aCtrl1Int2EnMask⟩,
    ⟨qmi8658aRegCtrl8, qmi8658aCtrl8Ctrl9HandshakeType⟩,
    ⟨qmi8658aRegFifoCtrl, qmi8658aFifoModeStream ||| qmi8658aFifoSize128Samples⟩,
    ⟨qmi8658aRegCtrl2, qmi8658aAccelFs8g ||| qmi8658aAccelOdrLp21hz⟩,
    ⟨qmi8658aRegCtrl7, qmi8658aCtrl7DrdyDisMask ||| qmi8658aCtrl7AenMask⟩]

def highAccuracyCmds : List Qmi8658Cmd :=
  [⟨qmi8658aRegCtrl7, ctrl7DisableAllSensors⟩,
    ⟨qmi8658aRegCtrl2, qmi8658aAccelFs8g ||| qmi8658aAccelOdr62_5hz⟩,
    ⟨qmi8658aRegCtrl3, qmi8658aGyroFs1024dps ||| qmi8658aGyroOdr56_05hz⟩,
    ⟨qmi8658aRegCtrl7, qmi8658aCtrl7DrdyDisMask ||| qmi8658aCtrl7AenMask ||| qmi8658aCtrl7GenMask⟩]

def lpAccelOnlyCmds : List Qmi8658Cmd :=
  [⟨qmi8658aRegCtrl7, ctrl7DisableAllSensors⟩,
    ⟨qmi8658aRegCtrl2, qmi8658aAccelFs8g ||| qmi8658aAccelOdrLp21hz⟩,
    ⟨qmi8658aRegCtrl7, (qmi8658aCtrl7DrdyDisMask ||| qmi8658aCtrl7AenMask) &&& ~~~qmi8658aCtrl7GenMask⟩]

section Operations

variable {Device : Type} (imu : Interface Device)

def read (reg : Byte) (len : Nat) : Op Device (Except ImuErr (List Byte)) := access (imu.read reg len)

def write (reg : Byte) (data : List Byte) : Op Device ImuErr := access (imu.write reg data)

/-- The loop of `execute_sequential_cmds`, which drops the lock before it returns early: `none` there. -/
def sendCmds : List Qmi8658Cmd → Op Device (Option ImuErr)
  | [] => return none
  | cmd :: rest => do
      let success ← write imu cmd.regAddr [cmd.data]
      if success ≠ .ok then
        release
        return some success
      sendCmds rest

def executeSequentialCmds (cmds : List Qmi8658Cmd) : Op Device ImuErr := do
  acquire
  match ← sendCmds imu cmds with
  | some err => return err
  | none =>
      release
      return .ok

/-- The rounds of the loop in `ctrl9_handshake` that are left, 5 ms each, the lock being held. -/
def awaitCtrl9 : Nat → Bool → Op Device ImuErr
  | 0, _ => do
      release
      return .failed
  | rounds + 1, ackSent => do
      match ← read imu qmi8658aRegStatusint 1 with
      | .error err =>
          release
          return err
      | .ok status =>
          let done := (status.headD 0 &&& qmi8658aStatusintCmdDoneMask) == qmi8658aStatusintCmdDoneMask
          if ackSent then
            if done then awaitCtrl9 rounds true
            else
              release
              return .ok
          else if done then
            let success ← write imu qmi8658aRegCtrl9 [qmi8658aCtrl9CmdAck]
            if success ≠ .ok then
              release
              return success
            awaitCtrl9 rounds true
          else awaitCtrl9 rounds false

def ctrl9Handshake (cmd : Byte) : Op Device ImuErr := do
  let success ← write imu qmi8658aRegCtrl9 [cmd]
  if success ≠ .ok then return success
  acquire
  awaitCtrl9 imu (120 / 5) false

def imuReset : Op Device ImuErr := do
  acquire
  let success ← write imu qmi8658aRegReset [qmi8658aResetCmd]
  if success ≠ .ok then
    release
    return success
  match ← read imu qmi8658aRegWhoAmI 1 with
  | .error _ =>
      release
      return .failed
  | .ok dev =>
      if dev.headD 0 ≠ qmi8658aWhoAmIVal then
        release
        return .failed
      release
      return .ok

/-- Behind `esp32_imu_init`. -/
def imuInit : Op Device ImuErr := do
  let success ← imuReset imu
  if success ≠ .ok then return success
  match ← read imu qmi8658aRegWhoAmI 1 with
  | .error _ => return .failed
  | .ok dev =>
      if dev.headD 0 ≠ qmi8658aWhoAmIVal then return .failed
      match ← read imu qmi8658aRegRevisionId 1 with
      | .error _ => return .failed
      | .ok dev =>
          if dev.headD 0 ≠ qmi8658aRevisionIdVal then return .failed
          executeSequentialCmds imu initCmds

/-- What the four functions that switch one sensor share: the new value of CTRL7 is made of the old one. -/
def updateCtrl7 (change : Byte → Byte) : Op Device ImuErr := do
  acquire
  match ← read imu qmi8658aRegCtrl7 1 with
  | .error err =>
      release
      return err
  | .ok data =>
      let success ← write imu qmi8658aRegCtrl7 [change (data.headD 0)]
      release
      return success

def imuEnableAccelerometer : Op Device ImuErr := updateCtrl7 imu fun data => data ||| qmi8658aCtrl7AenMask
def imuDisableAccelerometer : Op Device ImuErr := updateCtrl7 imu fun data => data &&& ~~~qmi8658aCtrl7AenMask
def imuEnableGyro : Op Device ImuErr := updateCtrl7 imu fun data => data ||| qmi8658aCtrl7GenMask
def imuDisableGyro : Op Device ImuErr := updateCtrl7 imu fun data => data &&& ~~~qmi8658aCtrl7GenMask

def imuEnterHighAccuracyMode : Op Device ImuErr := executeSequentialCmds imu highAccuracyCmds
def imuEnterLowPowerAccelOnlyMode : Op Device ImuErr := executeSequentialCmds imu lpAccelOnlyCmds

def lowPower (data : Byte) : Byte := (data &&& ~~~qmi8658aCtrl7AenMask) &&& ~~~qmi8658aCtrl7GenMask

def imuEnterLowPowerMode : Op Device ImuErr := do
  match ← read imu qmi8658aRegCtrl7 1 with
  | .error err => return err
  | .ok data => write imu qmi8658aRegCtrl7 [lowPower (data.headD 0)]

def writeEach : List (Byte × Byte) → Op Device ImuErr
  | [] => return .ok
  | (reg, value) :: rest => do
      let success ← write imu reg [value]
      if success ≠ .ok then return success
      writeEach rest

def accelEnabled (data : Byte) : Bool := (data &&& qmi8658aCtrl7AenMask) == qmi8658aCtrl7AenMask
def gyroEnabled (data : Byte) : Bool := (data &&& qmi8658aCtrl7GenMask) == qmi8658aCtrl7GenMask

def reenable (data : Byte) : Op Device ImuErr := do
  let success ← if accelEnabled data then imuEnableAccelerometer imu else pure .ok
  if success ≠ .ok then return success
  if gyroEnabled data then imuEnableGyro imu else return .ok

def setCtrl8 (mask : Byte) : Op Device ImuErr := do
  match ← read imu qmi8658aRegCtrl8 1 with
  | .error err => return err
  | .ok data => write imu qmi8658aRegCtrl8 [data.headD 0 ||| mask]

def imuEnablePedometer : Op Device ImuErr := do
  match ← read imu qmi8658aRegCtrl7 1 with
  | .error err => return err
  | .ok data =>
      let success ← imuEnterLowPowerMode imu
      if success ≠ .ok then return success
      let success ← writeEach imu
        [(qmi8658aRegCal1L, 0x0A), (qmi8658aRegCal1H, 0x00), (qmi8658aRegCal2L, 0x40), (qmi8658aRegCal2H, 0x01),
          (qmi8658aRegCal3L, 0xA0), (qmi8658aRegCal3H, 0x00), (qmi8658aRegCal4H, 0x10)]
      if success ≠ .ok then return success
      let success ← ctrl9Handshake imu qmi8658aCtrl9CmdConfigurePedometer
      if success ≠ .ok then return success
      let success ← writeEach imu
        [(qmi8658aRegCal1L, 31), (qmi8658aRegCal1H, 0), (qmi8658aRegCal2L, 6), (qmi8658aRegCal2H, 5),
          (qmi8658aRegCal3L, 0), (qmi8658aRegCal3H, 1), (qmi8658aRegCal4H, 0x20)]
      if success ≠ .ok then return success
      let success ← ctrl9Handshake imu qmi8658aCtrl9CmdConfigurePedometer
      if success ≠ .ok then return success
      let success ← reenable imu (data.headD 0)
      if success ≠ .ok then return success
      acquire
      match ← read imu qmi8658aRegCtrl8 1 with
      | .error err =>
          release
          return err
      | .ok data =>
          let success ← write imu qmi8658aRegCtrl8 [data.headD 0 ||| qmi8658aCtrl8PedoEnMask]
          release
          return success

def imuResetPedometer : Op Device ImuErr := ctrl9Handshake imu qmi8658aCtrl9CmdResetPedometer

/-- The new length stands behind `len`, unless the call fails before it is known. -/
def imuReadFifoBuffer (ram : Ram) (maxLen : Nat) : Op Device (ImuErr × Nat × Ram) := do
  match ← read imu qmi8658aRegFifoSmplCnt 2 with
  | .error err => return (err, maxLen, ram)
  | .ok countBytes =>
      let len := fifoLength countBytes
      if len = 0 then return (.ok, len, ram)
      let readLen := if len < maxLen then len else maxLen
      match ← read imu qmi8658aRegFifoCtrl 1 with
      | .error err => return (err, len, ram)
      | .ok fifoCtrl =>
          let success ← ctrl9Handshake imu qmi8658aCtrl9CmdReqFifo
          if success ≠ .ok then return (success, len, ram)
          let (success, ram) ← access (imu.readFifo qmi8658aRegFifoData ram readLen)
          if success ≠ .ok then return (success, len, ram)
          let success ← write imu qmi8658aRegFifoCtrl [fifoCtrl.headD 0 &&& ~~~qmi8658aFifoCtrlRdModeMask]
          return (success, readLen, ram)

def imuResetFifoBuffer : Op Device ImuErr := do
  match ← read imu qmi8658aRegFifoCtrl 1 with
  | .error err => return err
  | .ok fifoCtrl =>
      let success ← ctrl9Handshake imu qmi8658aCtrl9CmdRstFifo
      if success ≠ .ok then return success
      write imu qmi8658aRegFifoCtrl [fifoCtrl.headD 0]

def imuSetupWakeOnMotion : Op Device ImuErr := do
  match ← read imu qmi8658aRegCtrl7 1 with
  | .error err => return err
  | .ok data =>
      let success ← imuEnterLowPowerMode imu
      acquire
      release
      if success ≠ .ok then return success
      let success ← writeEach imu [(qmi8658aRegCal1L, 100), (qmi8658aRegCal1H, 15)]
      if success ≠ .ok then return success
      let success ← ctrl9Handshake imu qmi8658aCtrl9CmdWriteWomSetting
      if success ≠ .ok then return success
      reenable imu (data.headD 0)

def imuSetupDetectNoMotion : Op Device ImuErr := do
  match ← read imu qmi8658aRegCtrl7 1 with
  | .error err => return err
  | .ok data =>
      let success ← imuEnterLowPowerMode imu
      if success ≠ .ok then return success
      let success ← writeEach imu
        [(qmi8658aRegCal1L, 3), (qmi8658aRegCal1H, 3), (qmi8658aRegCal2L, 3), (qmi8658aRegCal2H, 2),
          (qmi8658aRegCal3L, 2), (qmi8658aRegCal3H, 2), (qmi8658aRegCal4L, 0b11110111), (qmi8658aRegCal4H, 0x10)]
      if success ≠ .ok then return success
      let success ← ctrl9Handshake imu qmi8658aCtrl9CmdConfigureMotion
      if success ≠ .ok then return success
      let success ← writeEach imu
        [(qmi8658aRegCal1L, 2), (qmi8658aRegCal1H, 15), (qmi8658aRegCal2L, 0xE8), (qmi8658aRegCal2H, 0x03),
          (qmi8658aRegCal3L, 0xE8), (qmi8658aRegCal3H, 0x03), (qmi8658aRegCal4H, 0x20)]
      if success ≠ .ok then return success
      let success ← ctrl9Handshake imu qmi8658aCtrl9CmdConfigureMotion
      if success ≠ .ok then return success
      let success ← setCtrl8 imu qmi8658aCtrl8NoMotionEnMask
      if success ≠ .ok then return success
      reenable imu (data.headD 0)

def imuDisableWakeOnMotion : Op Device ImuErr := do
  -- the read disables the interrupt if present
  match ← read imu qmi8658aRegStatus1 1 with
  | .error err => return err
  | .ok _ =>
      match ← read imu qmi8658aRegCtrl7 1 with
      | .error err => return err
      | .ok data =>
          let success ← imuEnterLowPowerMode imu
          if success ≠ .ok then return success
          let success ← writeEach imu [(qmi8658aRegCal1L, 0)]
          if success ≠ .ok then return success
          let success ← ctrl9Handshake imu qmi8658aCtrl9CmdWriteWomSetting
          if success ≠ .ok then return success
          reenable imu (data.headD 0)

end Operations

/-- The functions that `esp32_imu_init` puts into the interface. -/
def esp32 : Interface Bus where
  read reg len bus := bus.regRead reg len
  readFifo reg ram len bus :=
    let transfer := esp32ImuFifoRead bus reg ram len
    ((transfer.err, transfer.ram), transfer.bus)
  write reg data bus := bus.regWrite reg data

section Forgetting

variable {Result : Type}

def forget (op : Op Bus Result) (state : Guarded Bus) : Result × Bus := ((op state).1, (op state).2.device)

theorem read_esp32 {state : Guarded Bus} {reg : Byte} {len : Nat} {result : Except ImuErr (List Byte)}
    {after : Bus} (answer : state.device.regRead reg len = (result, after)) :
    read esp32 reg len state = (result, { state with device := after }) := by
  rw [read, ScopedLock.access_run]
  simp only [esp32, answer]

theorem write_esp32 {state : Guarded Bus} {reg : Byte} {data : List Byte} {err : ImuErr} {after : Bus}
    (answer : state.device.regWrite reg data = (err, after)) :
    write esp32 reg data state = (err, { state with device := after }) := by
  rw [write, ScopedLock.access_run]
  simp only [esp32, answer]

theorem forget_awaitCtrl9 (rounds : Nat) (ackSent : Bool) (state : Guarded Bus) :
    forget (awaitCtrl9 esp32 rounds ackSent) state = ImuDriver.awaitCtrl9 rounds ackSent state.device := by
  induction rounds generalizing ackSent state with
  | zero => rfl
  | succ rounds ih =>
      rw [forget, awaitCtrl9, ImuDriver.awaitCtrl9, ScopedLock.bind_run]
      cases answer : state.device.regRead qmi8658aRegStatusint 1 with
      | mk result after =>
          rw [read_esp32 answer]
          cases result with
          | error err => rfl
          | ok status =>
              simp only [ScopedLock.ite_run]
              split
              next =>
                split
                next => exact ih true { state with device := after }
                next => rfl
              next =>
                split
                next =>
                  rw [ScopedLock.bind_run]
                  cases acked : after.regWrite qmi8658aRegCtrl9 [qmi8658aCtrl9CmdAck] with
                  | mk err last =>
                      rw [@write_esp32 { state with device := after } _ _ _ _ acked]
                      cases err with
                      | ok => exact ih true { state with device := last }
                      | invalidConfig | failed => rfl
                next => exact ih false { state with device := after }

theorem forget_ctrl9Handshake (cmd : Byte) (state : Guarded Bus) :
    forget (ctrl9Handshake esp32 cmd) state = ImuDriver.ctrl9Handshake state.device cmd := by
  rw [forget, ctrl9Handshake, ImuDriver.ctrl9Handshake, ScopedLock.bind_run]
  cases answer : state.device.regWrite qmi8658aRegCtrl9 [cmd] with
  | mk err after =>
      rw [write_esp32 answer]
      cases err with
      | ok => exact forget_awaitCtrl9 _ false { device := after, locks := state.locks ++ [.acquire] }
      | invalidConfig | failed => rfl

theorem readFifo_esp32 {state : Guarded Bus} {reg : Byte} {ram : Ram} {len : Nat} {transfer : ImuDriver.Transfer}
    (answer : esp32ImuFifoRead state.device reg ram len = transfer) :
    access (esp32.readFifo reg ram len) state =
      ((transfer.err, transfer.ram), { state with device := transfer.bus }) := by
  rw [ScopedLock.access_run]
  simp only [esp32, answer]

/-- Without the lock this is the read of the FIFO that the sensor manager drains it with. -/
theorem forget_imuReadFifoBuffer (ram : Ram) (maxLen : Nat) (state : Guarded Bus) :
    forget (imuReadFifoBuffer esp32 ram maxLen) state =
      (((ImuDriver.imuReadFifoBuffer state.device ram maxLen).err,
          (ImuDriver.imuReadFifoBuffer state.device ram maxLen).len,
          (ImuDriver.imuReadFifoBuffer state.device ram maxLen).ram),
        (ImuDriver.imuReadFifoBuffer state.device ram maxLen).bus) := by
  rw [forget, imuReadFifoBuffer, ImuDriver.imuReadFifoBuffer, ScopedLock.bind_run]
  cases counted : state.device.regRead qmi8658aRegFifoSmplCnt 2 with
  | mk result counts =>
      rw [read_esp32 counted]
      cases result with
      | error err => rfl
      | ok countBytes =>
          simp only [ScopedLock.ite_run]
          split
          next => rfl
          next =>
            rw [ScopedLock.bind_run]
            cases control : counts.regRead qmi8658aRegFifoCtrl 1 with
            | mk result controlled =>
                rw [@read_esp32 { state with device := counts } _ _ _ _ control]
                cases result with
                | error err => rfl
                | ok fifoCtrl =>
                    simp only [ScopedLock.bind_run]
                    have shaken := forget_ctrl9Handshake qmi8658aCtrl9CmdReqFifo
                      { state with device := controlled }
                    cases ready : ctrl9Handshake esp32 qmi8658aCtrl9CmdReqFifo { state with device := controlled } with
                    | mk err after =>
                        simp only [forget, ready] at shaken
                        rw [← shaken]
                        cases err with
                        | invalidConfig | failed => rfl
                        | ok =>
                            simp only [ne_eq, not_true_eq_false, if_false]
                            rw [ScopedLock.bind_run, ImuDriver.transferFifo]
                            generalize (if fifoLength countBytes < maxLen then fifoLength countBytes else maxLen) =
                              readLen
                            cases drained : esp32ImuFifoRead after.device qmi8658aRegFifoData ram readLen with
                            | mk err ram bus span =>
                                rw [readFifo_esp32 drained]
                                cases err with
                                | invalidConfig | failed => rfl
                                | ok => rfl

end Forgetting

end WatchFirmware.ImuOperations
