import WatchFirmware.Ble.Types

set_option autoImplicit false

namespace WatchFirmware.ImuDriver

open Ble (Byte)

inductive ImuErr where
  | ok
  | invalidConfig
  | failed
  deriving DecidableEq, Repr

abbrev qmi8658aRegCtrl9 : Byte := 0x0A
abbrev qmi8658aRegFifoCtrl : Byte := 0x14
abbrev qmi8658aRegFifoSmplCnt : Byte := 0x15
abbrev qmi8658aRegFifoData : Byte := 0x17
abbrev qmi8658aRegStatusint : Byte := 0x2D
abbrev qmi8658aRegTempL : Byte := 0x33
abbrev qmi8658aCtrl9CmdAck : Byte := 0x00
abbrev qmi8658aCtrl9CmdReqFifo : Byte := 0x05
abbrev qmi8658aFifoCtrlRdModeMask : Byte := 0x80
abbrev qmi8658aStatusintCmdDoneMask : Byte := 0x80
abbrev maxSingleRegDataLen : Nat := 3

/-- The SPI device: what has been sent, and what each transaction in turn is answered with. -/
structure Bus where
  -- `spi_device` is not NULL
  attached : Bool
  -- none is an error; else the bytes received, the first of them while the command goes out
  replies : Nat → Option (Nat → Byte)
  sent : List (List Byte)

namespace Bus

def spiDeviceTransmit (bus : Bus) (tx : List Byte) : Option (Nat → Byte) × Bus :=
  (bus.replies bus.sent.length, { bus with sent := bus.sent ++ [tx] })

def regRead (bus : Bus) (regAddr : Byte) (len : Nat) : Except ImuErr (List Byte) × Bus :=
  if bus.attached then
    if maxSingleRegDataLen < len then (.error .invalidConfig, bus)
    else
      match bus.spiDeviceTransmit ((regAddr ||| 0x80) :: List.replicate len 0) with
      | (some rx, after) => (.ok ((List.range len).map fun k => rx (1 + k)), after)
      | (none, after) => (.error .failed, after)
  else (.error .failed, bus)

def regWrite (bus : Bus) (regAddr : Byte) (data : List Byte) : ImuErr × Bus :=
  if bus.attached then
    if maxSingleRegDataLen < data.length then (.invalidConfig, bus)
    else
      match bus.spiDeviceTransmit ((regAddr &&& 0x7F) :: data) with
      | (some _, after) => (.ok, after)
      | (none, after) => (.failed, after)
  else (.failed, bus)

end Bus

-- The memory from the buffer's first byte on, also beyond its end.
abbrev Ram := Nat → Byte

structure Transfer where
  err : ImuErr
  ram : Ram
  bus : Bus
  -- kept for the statements only: how many bytes of the buffer the transaction covers
  span : Option Nat

/-- One transaction in both directions over the buffer, whose first byte holds the command.
The buffer of the sensor manager passes the test for DMA. -/
def esp32ImuFifoRead (bus : Bus) (regAddr : Byte) (ram : Ram) (len : Nat) : Transfer :=
  if bus.attached then
    if len = 0 then ⟨.invalidConfig, ram, bus, none⟩
    else
      let commanded := Function.update ram 0 (regAddr ||| 0x80)
      match bus.spiDeviceTransmit ((List.range (1 + len)).map commanded) with
      | (some rx, after) =>
          ⟨.ok, fun k => if k < 1 + len then rx k else commanded k, after, some (1 + len)⟩
      | (none, after) => ⟨.failed, commanded, after, some (1 + len)⟩
  else ⟨.failed, ram, bus, none⟩

/-- The rounds of `ctrl9_handshake` that are left, 5 ms each. -/
def awaitCtrl9 : Nat → Bool → Bus → ImuErr × Bus
  | 0, _, bus => (.failed, bus)
  | rounds + 1, ackSent, bus =>
      match bus.regRead qmi8658aRegStatusint 1 with
      | (.error err, after) => (err, after)
      | (.ok status, after) =>
          let done := (status.headD 0 &&& qmi8658aStatusintCmdDoneMask) == qmi8658aStatusintCmdDoneMask
          if ackSent then
            if done then awaitCtrl9 rounds true after else (.ok, after)
          else if done then
            match after.regWrite qmi8658aRegCtrl9 [qmi8658aCtrl9CmdAck] with
            | (.ok, acked) => awaitCtrl9 rounds true acked
            | (err, acked) => (err, acked)
          else awaitCtrl9 rounds false after

def ctrl9Handshake (bus : Bus) (cmd : Byte) : ImuErr × Bus :=
  match bus.regWrite qmi8658aRegCtrl9 [cmd] with
  | (.ok, after) => awaitCtrl9 (120 / 5) false after
  | (err, after) => (err, after)

def fifoLength (countBytes : List Byte) : Nat :=
  (((countBytes.getD 1 0 &&& 0b11).toNat <<< 8) ||| (countBytes.getD 0 0).toNat) * 2

structure FifoRead where
  err : ImuErr
  len : Nat
  ram : Ram
  bus : Bus
  -- kept for the statements only: the span of the transaction on the FIFO, and what came of it
  span : Option Nat
  drained : List Byte

/-- The end of `imu_read_fifo_buffer`: the transaction on the FIFO and its read mode put back. -/
def transferFifo (ready : Bus) (fifoCtrl : List Byte) (ram : Ram) (len readLen : Nat) : FifoRead :=
  let transfer := esp32ImuFifoRead ready qmi8658aRegFifoData ram readLen
  if transfer.err = .ok then
    let drained := (List.range readLen).map fun k => transfer.ram (1 + k)
    let restored := transfer.bus.regWrite qmi8658aRegFifoCtrl
      [fifoCtrl.headD 0 &&& ~~~qmi8658aFifoCtrlRdModeMask]
    ⟨restored.1, readLen, transfer.ram, restored.2, transfer.span, drained⟩
  else ⟨transfer.err, len, transfer.ram, transfer.bus, transfer.span, []⟩

def imuReadFifoBuffer (bus : Bus) (ram : Ram) (maxLen : Nat) : FifoRead :=
  match bus.regRead qmi8658aRegFifoSmplCnt 2 with
  | (.error err, counted) => ⟨err, maxLen, ram, counted, none, []⟩
  | (.ok countBytes, counted) =>
      let len := fifoLength countBytes
      if len = 0 then ⟨.ok, len, ram, counted, none, []⟩
      else
        let readLen := if len < maxLen then len else maxLen
        match counted.regRead qmi8658aRegFifoCtrl 1 with
        | (.error err, read) => ⟨err, len, ram, read, none, []⟩
        | (.ok fifoCtrl, read) =>
            match ctrl9Handshake read qmi8658aCtrl9CmdReqFifo with
            | (.ok, ready) => transferFifo ready fifoCtrl ram len readLen
            | (err, ready) => ⟨err, len, ram, ready, none, []⟩

/-- In hundredths of a degree; untouched by a failed read. -/
def imuReadTemperature (bus : Bus) : Option Int × Bus :=
  match bus.regRead qmi8658aRegTempL 2 with
  | (.error _, after) => (none, after)
  | (.ok data, after) =>
      let raw := (data.getD 1 0).toNat * 256 + (data.getD 0 0).toNat
      let signed : Int := if raw < 32768 then raw else (raw : Int) - 65536
      (some ((signed * 100).tdiv 256), after)

end WatchFirmware.ImuDriver
