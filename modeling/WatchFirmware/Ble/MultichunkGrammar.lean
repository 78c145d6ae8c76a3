import WatchFirmware.Ble.MultichunkHandler

set_option autoImplicit false

namespace WatchFirmware.Ble

def crcBytes (crc : UInt32) : List Byte :=
  [(crc >>> 24).toUInt8, (crc >>> 16).toUInt8, (crc >>> 8).toUInt8, crc.toUInt8]

def crcOf (bytes : List Byte) : UInt32 :=
  bytes.zipIdx.foldl (fun crc (byte, k) => crc ||| byte.toUInt32 <<< UInt32.ofNat ((3 - k) * 8)) 0

theorem crcOf_append (bytes : List Byte) (byte : Byte) :
    crcOf (bytes ++ [byte]) =
      crcOf bytes ||| byte.toUInt32 <<< UInt32.ofNat ((3 - bytes.length) * 8) := by
  simp [crcOf, List.zipIdx_append]

theorem crcBytes_crcOf {bytes : List Byte} (four : bytes.length = 4) :
    crcBytes (crcOf bytes) = bytes := by
  match bytes, four with
  | [a, b, c, d], _ =>
      simp only [crcBytes, List.cons.injEq, ← UInt8.toBitVec_inj, and_true]
      refine ⟨?_, ?_, ?_, ?_⟩
      · ext i inside
        simp [crcOf, inside]
        interval_cases i <;> simp
      · ext i inside
        simp [crcOf, inside]
        interval_cases i <;> simp
      · ext i inside
        simp [crcOf, inside]
        interval_cases i <;> simp
      · ext i inside
        simp [crcOf]

theorem crcBytes_injective {one other : UInt32} (same : crcBytes one = crcBytes other) : one = other := by
  simp only [crcBytes, List.cons.injEq, ← UInt8.toNat_inj, and_true] at same
  rw [← UInt32.toNat_inj]
  simp [Nat.shiftRight_eq_div_pow] at same
  have := one.toNat_lt
  have := other.toNat_lt
  omega

theorem crcOf_crcBytes (crc : UInt32) : crcOf (crcBytes crc) = crc := by
  apply crcBytes_injective
  exact crcBytes_crcOf rfl

def multichunkPrefix (opcode : Byte) (count size : Nat) : List Byte :=
  [bleMultichunkMagic, opcode, UInt8.ofNat count, UInt8.ofNat (size / 2 ^ 8), UInt8.ofNat (size % 2 ^ 8)]

def chunkBody (opcode : Byte) (count size id : Nat) (piece : List Byte) : List Byte :=
  (if id = 0 then multichunkPrefix opcode count size else []) ++ UInt8.ofNat id :: piece

/-- One multichunk message: its chunks, and the checksum bytes behind the last chunk and in the
messages after it. -/
structure Transfer where
  opcode : Byte
  reqApp : Byte
  earlier : List (List Byte)
  last : List Byte
  tail : List Byte
  parts : List (List Byte)

namespace Transfer

def chunks (transfer : Transfer) : List (List Byte) := transfer.earlier ++ [transfer.last]

def data (transfer : Transfer) : List Byte := transfer.chunks.flatten

def bodies (transfer : Transfer) : List (List Byte) :=
  (transfer.earlier ++ [transfer.last ++ transfer.tail]).mapIdx
    (chunkBody transfer.opcode transfer.chunks.length transfer.data.length) ++ transfer.parts

structure Valid (crc32 : UInt32 → List Byte → UInt32) (transfer : Transfer) : Prop where
  nonempty : ∀ chunk ∈ transfer.chunks, chunk ≠ []
  count : transfer.chunks.length ≤ 255
  size : transfer.data.length ≤ bleMaxMultichunkSize
  crc : transfer.tail ++ transfer.parts.flatten = crcBytes (crc32 0 transfer.data)
  -- The last message carries the last checksum byte.
  ends : transfer.parts.getLast? ≠ some []

structure CarriedBy (transfer : Transfer) (msgs : List BleMsg) : Prop where
  bodies_eq : msgs.map BleMsg.data = transfer.bodies
  reqApp_eq : (msgs.head?).map (·.hdr.reqApp) = some transfer.reqApp
  fits : ∀ msg ∈ msgs, msg.Fits

def delivered (transfer : Transfer) : BleMultichunkMsg :=
  ⟨transfer.opcode, transfer.reqApp, transfer.data.length, transfer.data⟩

end Transfer

namespace MultichunkParser

structure Collecting (parser : MultichunkParser) (hdr : MultichunkHeader) (reqApp : Byte)
    (chunks : List (List Byte)) : Prop where
  state_eq : parser.state = .readChunks
  hdr_eq : parser.hdr = hdr
  reqApp_eq : parser.reqApp = reqApp
  id_eq : parser.currChunkId = UInt8.ofNat chunks.length
  fewer : chunks.length < hdr.totalChunks.toNat
  nonempty : ∀ chunk ∈ chunks, chunk ≠ []
  readSize_eq : parser.readSize = chunks.flatten.length
  less : chunks.flatten.length < hdr.totalSize
  bounded : hdr.totalSize ≤ bleMaxMultichunkSize
  crc_eq : parser.crc = 0
  block : ∃ block, parser.outData = some block ∧ block.length = hdr.totalSize ∧
    block.take chunks.flatten.length = chunks.flatten

/-- All chunks are in, and `bytes` are the checksum bytes so far. -/
structure Checking (parser : MultichunkParser) (hdr : MultichunkHeader) (reqApp : Byte)
    (chunks : List (List Byte)) (bytes : List Byte) : Prop where
  state_eq : parser.state = .readCrc
  hdr_eq : parser.hdr = hdr
  reqApp_eq : parser.reqApp = reqApp
  count : chunks.length = hdr.totalChunks.toNat
  nonempty : ∀ chunk ∈ chunks, chunk ≠ []
  size : chunks.flatten.length = hdr.totalSize
  bounded : hdr.totalSize ≤ bleMaxMultichunkSize
  readSize_eq : parser.readSize = bytes.length
  few : bytes.length < 4
  crc_eq : parser.crc = crcOf bytes
  block : parser.outData = some chunks.flatten

end MultichunkParser

end WatchFirmware.Ble
