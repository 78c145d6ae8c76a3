import Mathlib

set_option autoImplicit false

namespace WatchFirmware.Ble

abbrev Byte := UInt8

abbrev bleMaxPayloadSize : Nat := 250
abbrev bleMaxMultichunkSize : Nat := 2048
abbrev bleFifoSize : Nat := 20
abbrev bleHdrSize : Nat := 3
abbrev bleMagic : Byte := 0xA5
abbrev bleMultichunkMagic : Byte := 0xB9

structure BleMsgHdr where
  opcode : Byte
  reqApp : Byte
  len : Byte
  deriving DecidableEq, Repr

structure BleMsg where
  hdr : BleMsgHdr
  payload : List Byte
  payload_length : payload.length = bleMaxPayloadSize
  deriving DecidableEq

inductive BleCommType where
  | tx
  | rx
  deriving DecidableEq, Repr

namespace BleMsg

def size (msg : BleMsg) : Nat := msg.hdr.len.toNat

/-- The payload bytes that count: the array behind them keeps what earlier messages left. -/
def data (msg : BleMsg) : List Byte := msg.payload.take msg.size

def view (msg : BleMsg) : BleMsgHdr × List Byte := (msg.hdr, msg.data)

def Fits (msg : BleMsg) : Prop := msg.size ≤ bleMaxPayloadSize

instance (msg : BleMsg) : Decidable msg.Fits := inferInstanceAs (Decidable (_ ≤ _))

theorem data_length {msg : BleMsg} (fits : msg.Fits) : msg.data.length = msg.size := by
  simp only [data, List.length_take, msg.payload_length]
  exact Nat.min_eq_left fits

theorem data_slice {msg : BleMsg} {offset chunk : Nat} (inside : offset + chunk ≤ msg.size) :
    (msg.payload.drop offset).take chunk = (msg.data.drop offset).take chunk := by
  rw [data, List.drop_take, List.take_take, Nat.min_eq_left (by omega)]

theorem data_get {msg : BleMsg} {i : Nat} (inside : i < msg.size) : msg.payload[i]? = msg.data[i]? := by
  rw [data, List.getElem?_take_of_lt inside]

theorem size_lt (msg : BleMsg) : msg.size < 256 := msg.hdr.len.toNat_lt

theorem nil_fits : ([] : List Byte).length ≤ bleMaxPayloadSize := by decide

def make (opcode reqApp : Byte) (data : List Byte) (fits : data.length ≤ bleMaxPayloadSize) : BleMsg where
  hdr := ⟨opcode, reqApp, UInt8.ofNat data.length⟩
  payload := data ++ List.replicate (bleMaxPayloadSize - data.length) 0
  payload_length := by simp; omega

theorem make_view (opcode reqApp : Byte) (data : List Byte) (fits : data.length ≤ bleMaxPayloadSize) :
    (make opcode reqApp data fits).view = (⟨opcode, reqApp, UInt8.ofNat data.length⟩, data) := by
  have small : data.length < UInt8.size := Nat.lt_of_le_of_lt fits (by decide)
  have size : (make opcode reqApp data fits).size = data.length := UInt8.toNat_ofNat_of_lt small
  have kept : (make opcode reqApp data fits).data = data := by
    rw [BleMsg.data, size]
    exact List.take_left
  rw [view, kept]
  rfl

end BleMsg

end WatchFirmware.Ble
