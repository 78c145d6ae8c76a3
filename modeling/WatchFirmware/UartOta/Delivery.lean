import WatchFirmware.UartOta.UartOta

set_option autoImplicit false

namespace WatchFirmware.UartOta

open Transition SerialLine

variable {crc32 : List Byte → UInt32}

namespace Transfer

/-- The CRC lets through only what is, byte for byte, the payload whose CRC it ends with. -/
def Detects (crc32 : List Byte → UInt32) (s : Transfer) : Action → Prop
  | .deviceJudge _ => s.device.passes crc32 →
      ∃ datum ∈ s.device.dataBuffer.getLast?,
        s.host.sent[datum.transmission]? = some (s.device.dataBuffer.map Datum.byte)
  | _ => True

/-- No block that passes ends with a byte that was sent before the watch wrote its last block. -/
def Fresh (crc32 : List Byte → UInt32) (s : Transfer) : Action → Prop
  | .deviceJudge _ => s.device.passes crc32 →
      ∀ datum ∈ s.device.dataBuffer.getLast?, s.settled ≤ datum.transmission
  | _ => True

def LetsThrough (crc32 : List Byte → UInt32) (guard : Transfer → Action → Prop) : Prop :=
  ∀ s action, action ≠ .hostRead → Detects crc32 s action → Fresh crc32 s action → guard s action

section Delivery

variable {init : Transfer → Prop} {guard : Transfer → Action → Prop} {s : Transfer}

theorem reach_delivered (lets : LetsThrough crc32 guard)
    (reached : Reach (step crc32) init guard s) :
    Reach (step crc32) init guard { s with line := ⟨[], s.line.contents⟩ } := by
  obtain ⟨host, device, line, replies, settled⟩ := s
  obtain ⟨wire, arrived⟩ := line
  induction wire generalizing arrived with
  | nil => simpa [contents] using reached
  | cons head rest ih =>
      have next : Reach (step crc32) init guard ⟨host, device, ⟨rest, arrived ++ [head]⟩, replies, settled⟩ :=
        .next reached (lets _ (.line .deliver) (by simp) trivial trivial) rfl
      simpa [contents] using ih _ next

theorem reach_written (lets : LetsThrough crc32 guard)
    (reached : Reach (step crc32) init guard s) (sending : s.host.pc = .sending) :
    Reach (step crc32) init guard { s with
      host := { s.host with pc := .response, unsent := [] }
      line := s.line.send s.host.unsent } := by
  generalize size : s.host.unsent.length = count
  induction count using Nat.strongRecOn generalizing s with
  | _ count ih =>
      have allowed : guard s .hostWrite := lets _ _ (by simp) trivial trivial
      have taken : step crc32 s .hostWrite = some { s with
          host := s.host.written
          line := s.line.send (s.host.unsent.take Host.writeSize) } := if_pos sending
      have next := Reach.next reached allowed taken
      have sent : ((s.line.send (s.host.unsent.take Host.writeSize)).send
          (s.host.unsent.drop Host.writeSize)) = s.line.send s.host.unsent := by
        simp [send]
      by_cases last : s.host.unsent.drop Host.writeSize = []
      next =>
        have whole : s.host.unsent.take Host.writeSize = s.host.unsent := by
          simpa [last] using List.take_append_drop Host.writeSize s.host.unsent
        simpa [Host.written, last, whole] using next
      next =>
        have remains : 0 < (s.host.unsent.drop Host.writeSize).length := List.length_pos_iff.mpr last
        have shorter : (s.host.unsent.drop Host.writeSize).length < count := by
          have positive : 0 < Host.writeSize := by decide
          simp only [List.length_drop] at remains ⊢
          omega
        have done := ih _ shorter next (by simp [Host.written, last]) (by simp [Host.written])
        simpa [Host.written, sent] using done

theorem reach_block (lets : LetsThrough crc32 guard)
    (reached : Reach (step crc32) init guard s) (sending : s.host.pc = .sending)
    (receiving : s.device.pc = .receiving) (empty : s.device.dataBuffer = [])
    (success : s.device.blockSuccess = true) (patient : s.device.blockRetries = 0)
    (clear : s.line = ⟨[], []⟩) {chunk : List Byte} {transmission : Nat} (filled : chunk ≠ [])
    (sent : s.host.sent[transmission]? = some (Host.payload crc32 chunk)) (fresh : s.settled ≤ transmission)
    (unsent : s.host.unsent = stamped transmission (Host.payload crc32 chunk))
    (expects : s.device.expectedUartBytes = (Host.payload crc32 chunk).length) :
    Reach (step crc32) init guard { s with
      host := { s.host with pc := .response, unsent := [] }
      device := Device.nextBlock { s.device with
        retries := 0
        image := s.device.image ++ [chunk]
        totalReceived := s.device.totalReceived + chunk.length }
      replies := s.replies.send [cmdAck]
      settled := s.host.sent.length } := by
  have length : (Host.payload crc32 chunk).length = chunk.length + 4 := by
    simp [Host.payload, littleEndian_length]
  have nonempty : 0 < chunk.length := List.length_pos_iff.mpr filled
  have arrived := reach_delivered lets (reach_written lets reached sending)
  rw [clear, unsent] at arrived
  have readsOn : s.device.readsOn := by
    rw [Device.readsOn, empty, patient, expects, length]
    exact ⟨by simp; omega, by decide⟩
  have missing : s.device.missing = (stamped transmission (Host.payload crc32 chunk)).length := by
    simp [Device.missing, empty, expects]
  have whole : (stamped transmission (Host.payload crc32 chunk)).take s.device.missing =
      stamped transmission (Host.payload crc32 chunk) := by rw [missing, List.take_length]
  have rest : (stamped transmission (Host.payload crc32 chunk)).drop s.device.missing = [] := by
    rw [missing, List.drop_length]
  let full : Device := { s.device with dataBuffer := stamped transmission (Host.payload crc32 chunk) }
  have filling : Reach (step crc32) init guard { s with
      host := { s.host with pc := .response, unsent := [] }
      device := full } := by
    refine .next arrived (lets _ (.deviceRead false) (by simp) trivial trivial) ?_
    rw [step, if_pos ⟨receiving, readsOn⟩]
    have taken : stamped transmission (Host.payload crc32 chunk) ≠ [] := by
      rw [← List.length_pos_iff, stamped_length]
      omega
    have filled : s.device.fill (stamped transmission (Host.payload crc32 chunk)) = full := by
      rw [Device.fill, if_neg taken, empty]
      rfl
    simp [deviceRead, SerialLine.read, contents, send, whole, rest, filled, clear]
  have block : full.block = chunk := by
    simp [full, Device.block, Host.payload, littleEndian_length]
  have isOk : full.checksumOk crc32 := by
    have crc : full.receivedCrc = wordOf (littleEndian (crc32 chunk).toNat) := by
      simp [full, Device.receivedCrc, Host.payload, littleEndian_length]
    rw [Device.checksumOk, block, crc, wordOf_littleEndian (crc32 chunk).toNat_lt]
  have done : ¬ full.readsOn := by
    have whole : full.expectedUartBytes = full.dataBuffer.length := by
      rw [stamped_length]
      exact expects
    rw [Device.readsOn, whole]
    exact fun stillShort => Int.lt_irrefl _ stillShort.1
  have last (datum : Datum) (ends : datum ∈ full.dataBuffer.getLast?) : datum.transmission = transmission := by
    obtain ⟨_, _, rfl⟩ := List.mem_map.mp (List.mem_of_getLast? ends)
    rfl
  have detects : Detects crc32 { s with
      host := { s.host with pc := .response, unsent := [] }
      device := full } (.deviceJudge true) := by
    intro passed
    have positive : full.dataBuffer ≠ [] := by
      intro nothing
      have long := passed.2.1
      simp [nothing] at long
    have ends := List.getLast?_eq_some_getLast positive
    refine ⟨_, ends, ?_⟩
    rw [last _ ends, stamped_bytes]
    exact sent
  have isFresh : Fresh crc32 { s with
      host := { s.host with pc := .response, unsent := [] }
      device := full } (.deviceJudge true) := by
    intro _ datum ends
    rw [last datum ends]
    exact fresh
  refine .next filling (lets _ (.deviceJudge true) (by simp) detects isFresh) ?_
  have complete : ¬ (full.blockSuccess = false ∨ full.dataBuffer.length ≤ blockSizeCrc) := by
    simp [full, success, length, filled]
  rw [step, if_pos ⟨receiving, done⟩, deviceJudge, if_neg complete, if_pos isOk, Device.write, block]
  rfl

theorem reach_negotiated (file : List Byte) {guard : Transfer → Action → Prop}
    (lets : LetsThrough crc32 guard)
    (letsRead : ∀ s : Transfer, s.host.pc = .negotiate → guard s .hostRead) (filled : file ≠ [])
    (small : file.length < 2 ^ 32) :
    Reach (step crc32) (Initial file) guard
      { host := (Host.start file).nextBlock crc32
        device := { Device.start with pc := .receiving, expectedAppSize := file.length }
        line := ⟨[], []⟩
        replies := ⟨[], []⟩
        settled := 1 } := by
  have positive : 0 < file.length := List.length_pos_iff.mpr filled
  have opened : Reach (step crc32) (Initial file) guard
      ⟨Host.start file, Device.start, ⟨stamped 0 (littleEndian file.length), []⟩, ⟨[], []⟩, 1⟩ :=
    .start ⟨small, rfl, rfl, rfl, rfl⟩
  have delivered : Reach (step crc32) (Initial file) guard
      ⟨Host.start file, Device.start, ⟨[], stamped 0 (littleEndian file.length)⟩, ⟨[], []⟩, 1⟩ :=
    reach_delivered lets opened
  have sizing : Device.start.pc = .size := rfl
  have word : wordOf (littleEndian file.length) = file.length := wordOf_littleEndian small
  have accepts : Device.start.acceptSize (littleEndian file.length) =
      { Device.start with pc := .receiving, expectedAppSize := file.length } := by
    have good : ¬ ((littleEndian file.length).length ≠ blockSizeCrc ∨ file.length = 0) := by
      simp only [littleEndian_length]
      omega
    rw [Device.acceptSize, word, if_neg good, Device.nextBlock, if_pos (by exact positive)]
    rfl
  have announced : Reach (step crc32) (Initial file) guard
      ⟨Host.start file, { Device.start with pc := .receiving, expectedAppSize := file.length },
        ⟨[], []⟩, ⟨[cmdAck], []⟩, 1⟩ := by
    refine .next delivered (lets _ .deviceReadSize (by simp) trivial trivial) ?_
    rw [step, if_pos sizing, deviceReadSize]
    have taken : (stamped 0 (littleEndian file.length)).take blockSizeCrc =
        stamped 0 (littleEndian file.length) := rfl
    have rest : (stamped 0 (littleEndian file.length)).drop blockSizeCrc = [] := rfl
    simp [SerialLine.read, taken, rest, accepts, send]
  have heard := Reach.next announced (lets _ (.replies .deliver) (by simp) trivial trivial) rfl
  exact .next heard (letsRead _ rfl) rfl

end Delivery

end Transfer

end WatchFirmware.UartOta
