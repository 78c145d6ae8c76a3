import WatchFirmware.Shared.Transition
import WatchFirmware.UartOta.Types

set_option autoImplicit false

namespace WatchFirmware.UartOta

open Transition SerialLine

-- `zlib.crc32` on the host, `esp_rom_crc32_le` from zero on the watch.
variable (crc32 : List Byte → UInt32)

-- One state of `upload_firmware` for each read of a reply it can wait in.
inductive HostPc where
  | negotiate
  | sending
  | response
  | finalResponse
  | closed
  deriving DecidableEq, Repr

structure Host where
  file : List Byte
  pc : HostPc
  bytesSent : Nat
  retryCount : Nat
  /-- What of the payload is not written to the port yet. -/
  unsent : List Datum
  /-- Every payload so far, the size first. -/
  sent : List (List Byte)

namespace Host

def start (file : List Byte) : Host where
  file := file
  pc := .negotiate
  bytesSent := 0
  retryCount := 0
  unsent := []
  sent := [littleEndian file.length]

/-- `f.read(PAYLOAD_SIZE)` at the end of what the watch has acknowledged. -/
def chunk (host : Host) : List Byte := (host.file.drop host.bytesSent).take payloadSize

def payload (chunk : List Byte) : List Byte := chunk ++ littleEndian (crc32 chunk).toNat

def transmit (host : Host) : Host :=
  let frame := payload crc32 host.chunk
  { host with pc := .sending, unsent := stamped host.sent.length frame, sent := host.sent ++ [frame] }

def nextBlock (host : Host) : Host :=
  if host.chunk = [] then { host with pc := .finalResponse }
  else transmit crc32 { host with retryCount := 0 }

def acknowledged (host : Host) : Host :=
  nextBlock crc32 { host with bytesSent := host.bytesSent + host.chunk.length }

def refused (host : Host) : Host :=
  if maxRetries ≤ host.retryCount + 1 then
    { host with pc := .closed, retryCount := host.retryCount + 1 }
  else transmit crc32 { host with retryCount := host.retryCount + 1 }

-- A reply that is neither ACK nor NACK, or none in time, goes round the retry loop uncounted.
def blockResponse (host : Host) (response : Option Byte) : Host :=
  if response = some cmdAck then acknowledged crc32 host
  else if response = some cmdNack then refused crc32 host
  else transmit crc32 host

def hears (host : Host) (response : Option Byte) : Option Host :=
  match host.pc with
  | .negotiate =>
      if response = some cmdAck then some (nextBlock crc32 host)
      else some { host with pc := .closed }
  | .response => some (blockResponse crc32 host response)
  | .finalResponse => some { host with pc := .closed }
  | .sending | .closed => none

def writeSize : Nat := 128

def written (host : Host) : Host :=
  let rest := host.unsent.drop writeSize
  { host with unsent := rest, pc := if rest = [] then .response else .sending }

end Host

inductive DevicePc where
  | size
  | receiving
  | ended
  | rebooted
  deriving DecidableEq, Repr

structure Device where
  pc : DevicePc
  expectedAppSize : Nat
  totalReceived : Nat
  retries : Nat
  /-- The first `bytes_in_block` bytes of `data_buffer`. -/
  dataBuffer : List Datum
  blockSuccess : Bool
  blockRetries : Nat
  /-- The buffers passed to `esp_ota_write`. -/
  image : List (List Byte)

namespace Device

def start : Device where
  pc := .size
  expectedAppSize := 0
  totalReceived := 0
  retries := 0
  dataBuffer := []
  blockSuccess := true
  blockRetries := 0
  image := []

/-- An `int` computed from two 32-bit words. -/
def remainingAppBytes (device : Device) : Int :=
  Int.bmod ((device.expectedAppSize : Int) - device.totalReceived) (2 ^ 32)

def expectedUartBytes (device : Device) : Int :=
  min device.remainingAppBytes (blockSize - blockSizeCrc) + blockSizeCrc

-- The inner loop also breaks on its third read that times out with nothing.
def readsOn (device : Device) : Prop :=
  (device.dataBuffer.length : Int) < device.expectedUartBytes ∧ device.blockRetries < maxRetries

instance (device : Device) : Decidable device.readsOn := inferInstanceAs (Decidable (_ ∧ _))

def missing (device : Device) : Nat := (device.expectedUartBytes - device.dataBuffer.length).toNat

def reboot (device : Device) : Device := { device with pc := .rebooted }

/-- The test of the outer loop, and past the loop, where the buffer is freed, the one after it. -/
def nextBlock (device : Device) : Device :=
  let fresh := { device with dataBuffer := [], blockSuccess := true, blockRetries := 0 }
  if device.totalReceived < device.expectedAppSize then { fresh with pc := .receiving }
  else if device.totalReceived = device.expectedAppSize then { fresh with pc := .ended }
  else fresh.reboot

def acceptSize (device : Device) (bytes : List Byte) : Device :=
  if bytes.length ≠ blockSizeCrc ∨ wordOf bytes = 0 then device.reboot
  else nextBlock { device with expectedAppSize := wordOf bytes }

def fill (device : Device) (data : List Datum) : Device :=
  if data = [] then
    { device with blockSuccess := false, blockRetries := device.blockRetries + 1 }
  else { device with dataBuffer := device.dataBuffer ++ data }

def block (device : Device) : List Byte :=
  (device.dataBuffer.map Datum.byte).take (device.dataBuffer.length - blockSizeCrc)

def receivedCrc (device : Device) : Nat :=
  wordOf ((device.dataBuffer.map Datum.byte).drop (device.dataBuffer.length - blockSizeCrc))

def checksumOk (device : Device) : Prop := (crc32 device.block).toNat = device.receivedCrc

instance (device : Device) : Decidable (device.checksumOk crc32) := inferInstanceAs (Decidable (_ = _))

def passes (device : Device) : Prop :=
  device.blockSuccess = true ∧ blockSizeCrc < device.dataBuffer.length ∧ device.checksumOk crc32

instance (device : Device) : Decidable (device.passes crc32) := inferInstanceAs (Decidable (_ ∧ _))

def refuse (device : Device) : Device :=
  if maxRetries ≤ device.retries + 1 then reboot { device with retries := device.retries + 1 }
  else nextBlock { device with retries := device.retries + 1 }

def write (device : Device) (writeOk : Bool) : Device :=
  let stored := { device with retries := 0, image := device.image ++ [device.block] }
  if writeOk then nextBlock { stored with totalReceived := device.totalReceived + device.block.length }
  else stored.reboot

end Device

structure Transfer where
  host : Host
  device : Device
  line : SerialLine Datum
  replies : SerialLine Byte
  /-- How many transmissions there were when the watch wrote its last block, the size being one. -/
  settled : Nat

inductive Action where
  | line (fault : Fault Byte)
  | replies (fault : Fault Byte)
  | hostWrite
  | hostRead
  | deviceReadSize
  /-- One `uart_read_bytes` of the inner loop; a read that fails answers a negative length. -/
  | deviceRead (fails : Bool)
  | deviceJudge (writeOk : Bool)
  | deviceOtaEnd (bootable : Bool)
  deriving DecidableEq, Repr

namespace Transfer

def Initial (file : List Byte) (s : Transfer) : Prop :=
  file.length < 2 ^ 32 ∧ s.host = Host.start file ∧ s.device = Device.start ∧
    s.line = ⟨stamped 0 (littleEndian file.length), []⟩ ∧ s.settled = 1

def hostRead (s : Transfer) : Option Transfer :=
  let response := s.replies.arrived.head?
  (s.host.hears crc32 response).map fun host =>
    let replies := (s.replies.read 1).2
    { s with
      host := host
      replies := if s.host.pc = .response ∧ response = some cmdNack then replies.flushInput
        else replies }

def deviceReadSize (s : Transfer) : Transfer :=
  let taken := s.line.read blockSizeCrc
  let device := s.device.acceptSize (taken.1.map Datum.byte)
  { s with
    line := taken.2
    device := device
    replies := if device.pc = .rebooted then s.replies else s.replies.send [cmdAck] }

def deviceRead (s : Transfer) (fails : Bool) : Transfer :=
  if fails then { s with device := s.device.reboot }
  else
    let taken := s.line.read s.device.missing
    { s with line := taken.2, device := s.device.fill taken.1 }

def deviceJudge (s : Transfer) (writeOk : Bool) : Transfer :=
  if s.device.blockSuccess = false ∨ s.device.dataBuffer.length ≤ blockSizeCrc then
    { s with
      device := s.device.refuse
      line := s.line.flushInput
      replies := s.replies.send [cmdNack] }
  else if s.device.checksumOk crc32 then
    { s with
      device := s.device.write writeOk
      replies := if writeOk then s.replies.send [cmdAck] else s.replies
      settled := s.host.sent.length }
  else { s with device := s.device.refuse, replies := s.replies.send [cmdNack] }

def deviceOtaEnd (s : Transfer) (bootable : Bool) : Transfer :=
  { s with
    device := s.device.reboot
    replies := if bootable then s.replies.send [cmdEot] else s.replies }

def step (s : Transfer) : Action → Option Transfer
  | .line fault => (s.line.behave garble fault).map fun line => { s with line := line }
  | .replies fault =>
      (s.replies.behave (fun noise _ => noise) fault).map fun replies => { s with replies := replies }
  | .hostWrite =>
      if s.host.pc = .sending then
        some { s with
          host := s.host.written
          line := s.line.send (s.host.unsent.take Host.writeSize) }
      else none
  | .hostRead => s.hostRead crc32
  | .deviceReadSize => if s.device.pc = .size then some s.deviceReadSize else none
  | .deviceRead fails =>
      if s.device.pc = .receiving ∧ s.device.readsOn then some (s.deviceRead fails) else none
  | .deviceJudge writeOk =>
      if s.device.pc = .receiving ∧ ¬ s.device.readsOn then some (s.deviceJudge crc32 writeOk) else none
  | .deviceOtaEnd bootable =>
      if s.device.pc = .ended then some (s.deviceOtaEnd bootable) else none

end Transfer

end WatchFirmware.UartOta
