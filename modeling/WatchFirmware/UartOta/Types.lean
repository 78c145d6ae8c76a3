import WatchFirmware.Shared.Crc32
import WatchFirmware.Shared.SerialLine

set_option autoImplicit false

namespace WatchFirmware.UartOta

abbrev Byte := UInt8

abbrev cmdAck : Byte := 0x06
abbrev cmdNack : Byte := 0x15
abbrev cmdEot : Byte := 0x04
abbrev blockSizeCrc : Nat := 4
abbrev blockSize : Nat := 2 * 1024 + blockSizeCrc
abbrev maxRetries : Nat := 3
abbrev payloadSize : Nat := 2 * 1024

def blockCount (bytes : Nat) : Nat := (bytes + (payloadSize - 1)) / payloadSize

/-- The four bytes of `struct.pack('<I', word)`. -/
def littleEndian (word : Nat) : List Byte :=
  [.ofNat word, .ofNat (word / 2 ^ 8), .ofNat (word / 2 ^ 16), .ofNat (word / 2 ^ 24)]

def wordOf (bytes : List Byte) : Nat := bytes.foldr (fun byte word => byte.toNat + 2 ^ 8 * word) 0

@[simp] theorem littleEndian_length (word : Nat) : (littleEndian word).length = blockSizeCrc := by
  simp [littleEndian]

theorem wordOf_littleEndian {word : Nat} (small : word < 2 ^ 32) : wordOf (littleEndian word) = word := by
  simp only [wordOf, littleEndian, List.foldr_cons, List.foldr_nil, UInt8.toNat_ofNat']
  omega

/-- `zlib.crc32`, and `esp_rom_crc32_le` from zero. -/
def crc32Le (bytes : List Byte) : UInt32 := Crc32.checksum 0 bytes

-- No byte carries the transmission of the host that it belongs to: it tells the bytes that come late or
-- again from the others.
structure Datum where
  byte : Byte
  transmission : Nat
  deriving DecidableEq, Repr

def garble (noise : Byte) (datum : Datum) : Datum := { datum with byte := noise }

def stamped (transmission : Nat) (bytes : List Byte) : List Datum := bytes.map fun byte => ⟨byte, transmission⟩

@[simp] theorem stamped_length (transmission : Nat) (bytes : List Byte) :
    (stamped transmission bytes).length = bytes.length := List.length_map _

@[simp] theorem stamped_bytes (transmission : Nat) (bytes : List Byte) :
    (stamped transmission bytes).map Datum.byte = bytes := by
  rw [stamped, List.map_map]
  exact List.map_id bytes

end WatchFirmware.UartOta
