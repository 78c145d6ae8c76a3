import WatchFirmware.Shared.Loop
import WatchFirmware.UartOta.UartOta

set_option autoImplicit false

namespace WatchFirmware.UartOta

open Loop

variable (crc32 : List Byte → UInt32)

/-- The watch in its receive loop, with the calls of `uart_read_bytes` and those that failed. -/
structure Receiving where
  device : Device
  reads : Nat
  failed : Nat

/-- What surrounds the loop: the answers of `uart_read_bytes` to its calls, none for an error, and
whether `esp_ota_write` takes a block, both by the number of the call. -/
structure Surroundings where
  uartReadBytes : Nat → Nat → Option (List Datum)
  otaWrite : Nat → List Byte → Bool

def Surroundings.Lawful (surroundings : Surroundings) : Prop :=
  ∀ call length data, surroundings.uartReadBytes call length = some data → data.length ≤ length

def Device.judge (device : Device) (writeOk : Bool) : Device :=
  if device.blockSuccess = false ∨ device.dataBuffer.length ≤ blockSizeCrc then device.refuse
  else if device.checksumOk crc32 then device.write writeOk
  else device.refuse

theorem deviceJudge_device (s : Transfer) (writeOk : Bool) :
    (s.deviceJudge crc32 writeOk).device = s.device.judge crc32 writeOk := by
  unfold Transfer.deviceJudge Device.judge
  split
  next => rfl
  next => split <;> rfl

/-- The length that the next `uart_read_bytes` is given, an `int`. -/
def Device.readLength (device : Device) : Int := device.expectedUartBytes - device.dataBuffer.length

-- One read, or the judgement of a block; none where a length is negative or zero or leaves the buffer.
def receivePass (surroundings : Surroundings) (run : Receiving) : Option (Flow Receiving) :=
  let device := run.device
  match device.pc with
  | .receiving =>
      if device.readsOn then
        if 0 < device.readLength ∧ device.dataBuffer.length + device.readLength ≤ blockSize then
          match surroundings.uartReadBytes run.reads device.readLength.toNat with
          | none =>
              some (.again { device := device.reboot, reads := run.reads + 1, failed := run.failed + 1 })
          | some data =>
              some (.again
                { device := device.fill data
                  reads := run.reads + 1
                  failed := if data = [] then run.failed + 1 else run.failed })
        else none
      else if device.dataBuffer.length ≤ blockSize then
        let writeOk := surroundings.otaWrite device.image.length device.block
        some (.again { run with device := device.judge crc32 writeOk })
      else none
  | .size | .ended | .rebooted => some (.exit run)

def Receiving.start (announced : List Byte) : Receiving := ⟨Device.start.acceptSize announced, 0, 0⟩

namespace Device

structure InBlock (size : Nat) (device : Device) : Prop where
  expected : device.expectedAppSize = size
  small : size < 2 ^ 32
  more : device.totalReceived < size
  -- beyond INT_MAX the remaining bytes are a negative int, and no block ever passes
  signed : 2 ^ 31 ≤ size → device.totalReceived = 0
  buffer : (device.dataBuffer.length : Int) ≤ max 0 device.expectedUartBytes
  retries : device.retries < maxRetries
  blockRetries : device.blockRetries ≤ maxRetries
  success : device.blockSuccess = true → device.blockRetries = 0

variable {size : Nat} {device : Device}

theorem InBlock.expectedUartBytes_cases (inBlock : device.InBlock size) :
    size < 2 ^ 31 ∧ device.expectedUartBytes = min (size - device.totalReceived : Int) payloadSize + blockSizeCrc ∨
      2 ^ 31 ≤ size ∧ device.expectedUartBytes < blockSizeCrc := by
  have more := inBlock.more
  have small := inBlock.small
  unfold expectedUartBytes remainingAppBytes
  rw [inBlock.expected]
  by_cases fits : size < 2 ^ 31
  next =>
    left
    refine ⟨fits, ?_⟩
    have same : Int.bmod ((size : Int) - device.totalReceived) (2 ^ 32) = size - device.totalReceived := by
      simp only [Int.bmod_def]
      omega
    rw [same]
    rfl
  next =>
    right
    have none_received := inBlock.signed (Nat.le_of_not_lt fits)
    refine ⟨Nat.le_of_not_lt fits, ?_⟩
    have negative : Int.bmod ((size : Int) - device.totalReceived) (2 ^ 32) < 0 := by
      simp only [Int.bmod_def]
      omega
    omega

theorem InBlock.expectedUartBytes_le (inBlock : device.InBlock size) :
    device.expectedUartBytes ≤ blockSize := by
  simp only [blockSize, blockSizeCrc]
  obtain ⟨_, same⟩ | ⟨_, few⟩ := inBlock.expectedUartBytes_cases
  next =>
    simp only [blockSizeCrc, payloadSize] at same
    omega
  next =>
    simp only [blockSizeCrc] at few
    omega

theorem InBlock.buffer_le (inBlock : device.InBlock size) : device.dataBuffer.length ≤ blockSize := by
  have most := inBlock.expectedUartBytes_le
  have buffer := inBlock.buffer
  omega

theorem nextBlock_receiving (more : device.totalReceived < device.expectedAppSize) :
    device.nextBlock =
      { device with pc := .receiving, dataBuffer := [], blockSuccess := true, blockRetries := 0 } := by
  rw [nextBlock, if_pos more]

theorem nextBlock_whole (all : device.totalReceived = device.expectedAppSize) :
    device.nextBlock =
      { device with pc := .ended, dataBuffer := [], blockSuccess := true, blockRetries := 0 } := by
  rw [nextBlock, if_neg (by omega), if_pos all]

/-- The failed reads that the loop has patience for: three in every attempt at a block, three attempts
at each, and one that answers an error. -/
def patience (device : Device) : Nat :=
  match device.pc with
  | .receiving =>
      9 * (blockCount (device.expectedAppSize - device.totalReceived) - 1) +
        (3 * (maxRetries - device.retries) - device.blockRetries) + 1
  | .size | .ended | .rebooted => 0

def passesLeft (device : Device) : Nat :=
  match device.pc with
  | .receiving =>
      (3 * (blockCount (device.expectedAppSize - device.totalReceived) - 1) + (maxRetries - device.retries)) *
          (blockSize + maxRetries + 1) +
        (device.readLength.toNat + (maxRetries - device.blockRetries))
  | .size | .ended | .rebooted => 0

end Device

structure Receiving.Bounded (size : Nat) (run : Receiving) : Prop where
  receiving : run.device.pc = .receiving → run.device.InBlock size
  started : run.device.pc ≠ .size
  total : run.device.totalReceived ≤ size
  buffer : run.device.dataBuffer.length ≤ blockSize
  patience : run.failed + run.device.patience ≤ 9 * blockCount size + 1

section Run

variable {crc32} {surroundings : Surroundings} {size : Nat} {run : Receiving}

theorem Receiving.Bounded.left (bounded : run.Bounded size) {device : Device} {reads failed : Nat}
    (pc : device.pc = .ended ∨ device.pc = .rebooted) (total : device.totalReceived ≤ size)
    (buffer : device.dataBuffer.length ≤ blockSize) (fewer : failed ≤ run.failed + run.device.patience) :
    Receiving.Bounded size ⟨device, reads, failed⟩ := by
  have patience := bounded.patience
  have none_left : device.patience = 0 := by
    unfold Device.patience
    obtain pc | pc := pc <;> rw [pc]
  constructor
  case receiving =>
    intro receiving
    obtain pc | pc := pc <;> rw [pc] at receiving <;> contradiction
  case started =>
    obtain pc | pc := pc <;> rw [pc] <;> exact DevicePc.noConfusion
  case total => exact total
  case buffer => exact buffer
  case patience =>
    simp only [none_left]
    omega

theorem passesLeft_left {device : Device} (pc : device.pc = .ended ∨ device.pc = .rebooted) :
    device.passesLeft = 0 := by
  unfold Device.passesLeft
  obtain pc | pc := pc <;> rw [pc]

theorem patience_receiving {device : Device} (pc : device.pc = .receiving) :
    device.patience = 9 * (blockCount (device.expectedAppSize - device.totalReceived) - 1) +
      (3 * (maxRetries - device.retries) - device.blockRetries) + 1 := by
  unfold Device.patience
  rw [pc]

theorem passesLeft_receiving {device : Device} (pc : device.pc = .receiving) :
    device.passesLeft =
      (3 * (blockCount (device.expectedAppSize - device.totalReceived) - 1) + (maxRetries - device.retries)) *
          (blockSize + maxRetries + 1) +
        (device.readLength.toNat + (maxRetries - device.blockRetries)) := by
  unfold Device.passesLeft
  rw [pc]

def Receiving.Lower (size : Nat) (run next : Receiving) : Prop :=
  next.Bounded size ∧ next.device.passesLeft < run.device.passesLeft

theorem Receiving.Bounded.receiving_lower (bounded : run.Bounded size)
    {next : Receiving} (inBlock : next.device.InBlock size) (nextPc : next.device.pc = .receiving)
    (patience : next.failed + next.device.patience ≤ run.failed + run.device.patience)
    (passes : next.device.passesLeft < run.device.passesLeft) : run.Lower size next := by
  have most := bounded.patience
  refine ⟨?_, passes⟩
  constructor
  case receiving =>
    intro _
    exact inBlock
  case started =>
    rw [nextPc]
    exact DevicePc.noConfusion
  case total => exact Nat.le_of_lt inBlock.more
  case buffer => exact inBlock.buffer_le
  case patience => omega

theorem patience_pos {device : Device} (pc : device.pc = .receiving) : 0 < device.patience := by
  rw [patience_receiving pc]
  omega

theorem Device.InBlock.passesLeft_pos {device : Device} (inBlock : device.InBlock size)
    (pc : device.pc = .receiving) : 0 < device.passesLeft := by
  have retries := inBlock.retries
  have attempts : 0 < maxRetries - device.retries := by omega
  rw [passesLeft_receiving pc]
  have some_pass := Nat.mul_pos (Nat.add_pos_right
    (3 * (blockCount (device.expectedAppSize - device.totalReceived) - 1)) attempts)
    (show 0 < blockSize + maxRetries + 1 by decide)
  exact Nat.add_pos_left some_pass _

theorem Receiving.Bounded.reboot_lower (bounded : run.Bounded size) (pc : run.device.pc = .receiving)
    {device : Device} {reads failed : Nat} (nextPc : device.pc = .rebooted)
    (total : device.totalReceived = run.device.totalReceived) (buffer : device.dataBuffer = run.device.dataBuffer)
    (failed_le : failed ≤ run.failed + 1) : run.Lower size ⟨device, reads, failed⟩ := by
  have left := patience_pos pc
  refine ⟨?_, ?_⟩
  next =>
    have total_le : device.totalReceived ≤ size := by
      rw [total]
      exact bounded.total
    have buffer_le : device.dataBuffer.length ≤ blockSize := by
      rw [buffer]
      exact bounded.buffer
    exact bounded.left (.inr nextPc) total_le buffer_le (by omega)
  next =>
    simp only [passesLeft_left (.inr nextPc)]
    exact (bounded.receiving pc).passesLeft_pos pc

theorem Receiving.Bounded.timeout_lower (bounded : run.Bounded size) (pc : run.device.pc = .receiving)
    (readsOn : run.device.readsOn) :
    run.Lower size { device := run.device.fill [], reads := run.reads + 1, failed := run.failed + 1 } := by
  have inBlock := bounded.receiving pc
  have retries := inBlock.retries
  have blockRetries := readsOn.2
  have filled : run.device.fill [] =
      { run.device with blockSuccess := false, blockRetries := run.device.blockRetries + 1 } := rfl
  have nextPc : (run.device.fill []).pc = .receiving := pc
  refine bounded.receiving_lower ?_ nextPc ?_ ?_
  next =>
    simp only [filled]
    exact { inBlock with
      blockRetries := blockRetries
      success := fun impossible => Bool.noConfusion impossible }
  next =>
    rw [patience_receiving pc, patience_receiving nextPc]
    simp only [filled, maxRetries] at retries blockRetries ⊢
    omega
  next =>
    rw [passesLeft_receiving pc, passesLeft_receiving nextPc]
    simp only [filled, Device.readLength, Device.expectedUartBytes, Device.remainingAppBytes]
    omega

theorem Receiving.Bounded.data_lower (bounded : run.Bounded size) (pc : run.device.pc = .receiving)
    (readsOn : run.device.readsOn) {data : List Datum} (came : data ≠ [])
    (fits : data.length ≤ run.device.readLength.toNat) :
    run.Lower size { device := run.device.fill data, reads := run.reads + 1, failed := run.failed } := by
  have inBlock := bounded.receiving pc
  have some_byte := List.length_pos_iff.mpr came
  have filled : run.device.fill data = { run.device with dataBuffer := run.device.dataBuffer ++ data } := by
    rw [Device.fill, if_neg came]
  have nextPc : (run.device.fill data).pc = .receiving := by rw [filled, pc]
  have missing := readsOn.1
  have expected : (run.device.fill data).expectedUartBytes = run.device.expectedUartBytes := by
    rw [filled]
    rfl
  have length : (run.device.fill data).dataBuffer.length = run.device.dataBuffer.length + data.length := by
    rw [filled, List.length_append]
  unfold Device.readLength at fits
  refine bounded.receiving_lower ?_ nextPc ?_ ?_
  next =>
    have buffer : ((run.device.fill data).dataBuffer.length : Int) ≤
        max 0 (run.device.fill data).expectedUartBytes := by
      rw [expected, length]
      omega
    rw [filled] at buffer ⊢
    exact { inBlock with buffer := buffer }
  next =>
    rw [patience_receiving pc, patience_receiving nextPc, filled]
  next =>
    have shorter : (run.device.fill data).readLength.toNat < run.device.readLength.toNat := by
      unfold Device.readLength
      rw [expected, length]
      omega
    rw [passesLeft_receiving pc, passesLeft_receiving nextPc]
    rw [filled] at shorter ⊢
    simp only at shorter ⊢
    omega

theorem passesLeft_attempts {attempts fewer inAttempt more : Nat} (less : attempts < fewer)
    (few : inAttempt < blockSize + maxRetries + 1) :
    attempts * (blockSize + maxRetries + 1) + inAttempt < fewer * (blockSize + maxRetries + 1) + more := by
  have next := Nat.mul_le_mul_right (blockSize + maxRetries + 1) (Nat.succ_le_of_lt less)
  rw [Nat.succ_mul] at next
  omega

theorem Device.InBlock.inAttempt_lt {device : Device} (inBlock : device.InBlock size) :
    device.readLength.toNat + (maxRetries - device.blockRetries) < blockSize + maxRetries + 1 := by
  have most := inBlock.expectedUartBytes_le
  unfold Device.readLength
  omega

def Device.attempts (device : Device) : Nat :=
  3 * (blockCount (device.expectedAppSize - device.totalReceived) - 1) + (maxRetries - device.retries)

theorem Receiving.Bounded.nextBlock_lower (bounded : run.Bounded size) (pc : run.device.pc = .receiving)
    {stored : Device} (expected : stored.expectedAppSize = size) (more : stored.totalReceived < size)
    (signed : 2 ^ 31 ≤ size → stored.totalReceived = 0) (retries : stored.retries < maxRetries)
    (fewer : stored.attempts < run.device.attempts) :
    run.Lower size { run with device := stored.nextBlock } := by
  have inBlock := bounded.receiving pc
  have blockRetries := inBlock.blockRetries
  have before := inBlock.retries
  have next : stored.nextBlock =
      { stored with pc := .receiving, dataBuffer := [], blockSuccess := true, blockRetries := 0 } := by
    apply Device.nextBlock_receiving
    rw [expected]
    exact more
  have nextPc : stored.nextBlock.pc = .receiving := by rw [next]
  have fresh : stored.nextBlock.InBlock size := by
    rw [next]
    constructor
    case expected => exact expected
    case small => exact inBlock.small
    case more => exact more
    case signed => exact signed
    case buffer =>
      simp only [List.length_nil]
      omega
    case retries => exact retries
    case blockRetries => exact Nat.zero_le _
    case success =>
      intro _
      rfl
  refine bounded.receiving_lower fresh nextPc ?_ ?_
  next =>
    rw [patience_receiving pc, patience_receiving nextPc]
    simp only [next, Device.attempts, maxRetries] at fewer before blockRetries ⊢
    omega
  next =>
    have few := fresh.inAttempt_lt
    rw [passesLeft_receiving pc, passesLeft_receiving nextPc]
    apply passesLeft_attempts _ few
    rw [next]
    exact fewer

theorem Receiving.Bounded.refuse_lower (bounded : run.Bounded size) (pc : run.device.pc = .receiving) :
    run.Lower size { run with device := run.device.refuse } := by
  have inBlock := bounded.receiving pc
  have retries := inBlock.retries
  by_cases last : maxRetries ≤ run.device.retries + 1
  next =>
    rw [Device.refuse, if_pos last]
    exact bounded.reboot_lower pc rfl rfl rfl (Nat.le_succ _)
  next =>
    rw [Device.refuse, if_neg last]
    refine bounded.nextBlock_lower pc inBlock.expected inBlock.more inBlock.signed (Nat.lt_of_not_le last) ?_
    simp only [Device.attempts, maxRetries] at retries ⊢
    omega

theorem blockCount_drop {bytes block : Nat} (isBlock : block = min bytes payloadSize) (some_byte : 0 < bytes) :
    blockCount (bytes - block) + 1 = blockCount bytes := by
  simp only [blockCount, payloadSize] at isBlock ⊢
  omega

theorem blockCount_pos {bytes : Nat} (some_byte : 0 < bytes) : 0 < blockCount bytes := by
  simp only [blockCount, payloadSize]
  omega

theorem Device.InBlock.block_length {device : Device} (inBlock : device.InBlock size)
    (success : device.blockSuccess = true) (done : ¬device.readsOn)
    (long : ¬device.dataBuffer.length ≤ blockSizeCrc) :
    size < 2 ^ 31 ∧ device.block.length = min (size - device.totalReceived) payloadSize := by
  have none_failed := inBlock.success success
  have buffer := inBlock.buffer
  have more := inBlock.more
  have full : device.expectedUartBytes ≤ device.dataBuffer.length := by
    by_contra short
    exact done ⟨by omega, by simp [none_failed]⟩
  have taken : device.block.length = device.dataBuffer.length - blockSizeCrc := by
    simp only [Device.block, List.length_take, List.length_map]
    omega
  obtain ⟨fits, same⟩ | ⟨_, few⟩ := inBlock.expectedUartBytes_cases
  next =>
    refine ⟨fits, ?_⟩
    rw [taken]
    simp only [blockSizeCrc, payloadSize] at same long ⊢
    omega
  next =>
    simp only [blockSizeCrc] at few long
    omega

theorem Receiving.Bounded.write_lower (bounded : run.Bounded size) (pc : run.device.pc = .receiving)
    (success : run.device.blockSuccess = true) (done : ¬run.device.readsOn)
    (long : ¬run.device.dataBuffer.length ≤ blockSizeCrc) (writeOk : Bool) :
    run.Lower size { run with device := run.device.write writeOk } := by
  have inBlock := bounded.receiving pc
  obtain ⟨fits, whole⟩ := inBlock.block_length success done long
  have more := inBlock.more
  have expected := inBlock.expected
  cases writeOk with
  | false => exact bounded.reboot_lower pc rfl rfl rfl (Nat.le_succ _)
  | true =>
      let stored : Device :=
        { run.device with
          retries := 0
          image := run.device.image ++ [run.device.block]
          totalReceived := run.device.totalReceived + run.device.block.length }
      have written : run.device.write true = stored.nextBlock := rfl
      have blocks := blockCount_drop whole (Nat.sub_pos_of_lt more)
      rw [Nat.sub_sub] at blocks
      rw [written]
      by_cases rest : stored.totalReceived < size
      next =>
        have left := blockCount_pos (Nat.sub_pos_of_lt rest)
        refine bounded.nextBlock_lower pc expected rest (fun big => absurd fits (Nat.not_lt_of_le big)) ?_ ?_
        next => exact Nat.zero_lt_succ _
        next =>
          have retries := inBlock.retries
          simp only [stored, Device.attempts, expected, maxRetries] at left retries ⊢
          omega
      next =>
        have total_le : run.device.totalReceived + run.device.block.length ≤ size := by omega
        have all : stored.totalReceived = stored.expectedAppSize := by
          rw [show stored.expectedAppSize = size from expected]
          exact Nat.le_antisymm total_le (Nat.le_of_not_lt rest)
        have ended := Device.nextBlock_whole all
        have nextPc : stored.nextBlock.pc = .ended := by rw [ended]
        have total : stored.nextBlock.totalReceived = size := by
          rw [ended]
          exact all.trans expected
        refine ⟨?_, ?_⟩
        next => exact bounded.left (.inl nextPc) (Nat.le_of_eq total) (by simp [ended]) (Nat.le_add_right _ _)
        next =>
          simp only [passesLeft_left (.inl nextPc)]
          exact inBlock.passesLeft_pos pc

theorem receivePass_receiving (lawful : surroundings.Lawful) (bounded : run.Bounded size)
    (pc : run.device.pc = .receiving) :
    ∃ next, receivePass crc32 surroundings run = some (.again next) ∧ run.Lower size next := by
  have inBlock := bounded.receiving pc
  unfold receivePass
  simp only [pc]
  by_cases readsOn : run.device.readsOn
  next =>
    have missing := readsOn.1
    have most := inBlock.expectedUartBytes_le
    have inside : 0 < run.device.readLength ∧
        run.device.dataBuffer.length + run.device.readLength ≤ blockSize := by
      unfold Device.readLength
      omega
    rw [if_pos readsOn, if_pos inside]
    cases answer : surroundings.uartReadBytes run.reads run.device.readLength.toNat with
    | none => exact ⟨_, rfl, bounded.reboot_lower pc rfl rfl rfl (Nat.le_refl _)⟩
    | some data =>
        by_cases nothing : data = []
        next =>
          subst nothing
          exact ⟨_, rfl, bounded.timeout_lower pc readsOn⟩
        next =>
          simp only [if_neg nothing]
          exact ⟨_, rfl, bounded.data_lower pc readsOn nothing (lawful _ _ _ answer)⟩
  next =>
    rw [if_neg readsOn, if_pos bounded.buffer]
    refine ⟨_, rfl, ?_⟩
    unfold Device.judge
    split
    next => exact bounded.refuse_lower pc
    next whole =>
      rw [not_or, Bool.not_eq_false] at whole
      split
      next => exact bounded.write_lower pc whole.1 readsOn whole.2 _
      next => exact bounded.refuse_lower pc

theorem receivePass_left (pc : run.device.pc = .ended ∨ run.device.pc = .rebooted) :
    receivePass crc32 surroundings run = some (.exit run) := by
  unfold receivePass
  obtain pc | pc := pc <;> simp only [pc]

theorem Receiving.Bounded.pass (lawful : surroundings.Lawful) (bounded : run.Bounded size) :
    (∃ next, receivePass crc32 surroundings run = some (.again next) ∧ run.Lower size next) ∨
      (run.device.pc = .ended ∨ run.device.pc = .rebooted) ∧
        receivePass crc32 surroundings run = some (.exit run) := by
  cases pc : run.device.pc with
  | size => exact absurd pc bounded.started
  | receiving => exact .inl (receivePass_receiving lawful bounded pc)
  | ended => exact .inr ⟨.inl rfl, receivePass_left (.inl pc)⟩
  | rebooted => exact .inr ⟨.inr rfl, receivePass_left (.inr pc)⟩

theorem wordOf_lt (bytes : List Byte) : wordOf bytes < 2 ^ (8 * bytes.length) := by
  induction bytes with
  | nil => decide
  | cons byte rest ih =>
      have small := byte.toNat_lt
      have shift : 2 ^ (8 * (byte :: rest).length) = 2 ^ 8 * 2 ^ (8 * rest.length) := by
        rw [List.length_cons, Nat.mul_succ, Nat.add_comm, Nat.pow_add]
      have word : wordOf (byte :: rest) = byte.toNat + 2 ^ 8 * wordOf rest := rfl
      rw [word, shift]
      omega

theorem start_bounded (announced : List Byte) :
    (Receiving.start announced).Bounded (wordOf announced) := by
  unfold Receiving.start Device.acceptSize
  split
  next =>
    constructor
    case receiving => exact DevicePc.noConfusion
    case started => exact DevicePc.noConfusion
    case total => exact Nat.zero_le _
    case buffer => exact Nat.zero_le _
    case patience => exact Nat.zero_le _
  next accepted =>
    rw [not_or, not_ne_iff] at accepted
    have small := wordOf_lt announced
    rw [accepted.1] at small
    have more := Nat.pos_of_ne_zero accepted.2
    have first := @Device.nextBlock_receiving { Device.start with expectedAppSize := wordOf announced } more
    rw [first]
    constructor
    case receiving =>
      intro _
      constructor
      case expected => rfl
      case small => exact small
      case more => exact more
      case signed =>
        intro _
        rfl
      case buffer =>
        simp only [List.length_nil]
        omega
      case retries => exact Nat.zero_lt_succ _
      case blockRetries => exact Nat.zero_le _
      case success =>
        intro _
        rfl
    case started => exact DevicePc.noConfusion
    case total => exact Nat.zero_le _
    case buffer => exact Nat.zero_le _
    case patience =>
      have blocks := blockCount_pos more
      rw [patience_receiving rfl]
      simp only [Device.start, Nat.sub_zero, maxRetries]
      omega

/-- The length that the CRC and `esp_ota_write` are given, an `int`. -/
def Device.writeLength (device : Device) : Int := device.dataBuffer.length - blockSizeCrc

structure Receiving.InBounds (size : Nat) (run : Receiving) : Prop where
  buffer : run.device.dataBuffer.length ≤ blockSize
  total : run.device.totalReceived ≤ size
  failed : run.failed ≤ 9 * blockCount size + 1
  read : run.device.pc = .receiving → run.device.readsOn →
    0 < run.device.readLength ∧ run.device.dataBuffer.length + run.device.readLength ≤ blockSize
  write : run.device.pc = .receiving → ¬run.device.readsOn → run.device.blockSuccess = true →
    blockSizeCrc < run.device.dataBuffer.length →
    0 < run.device.writeLength ∧ run.device.totalReceived + run.device.writeLength ≤ size ∧
      run.device.writeLength ≤ payloadSize ∧ run.device.block.length = run.device.writeLength

theorem Receiving.Bounded.inBounds (bounded : run.Bounded size) : run.InBounds size := by
  constructor
  case buffer => exact bounded.buffer
  case total => exact bounded.total
  case failed =>
    have patience := bounded.patience
    omega
  case read =>
    intro pc readsOn
    have most := (bounded.receiving pc).expectedUartBytes_le
    have missing := readsOn.1
    unfold Device.readLength
    omega
  case write =>
    intro pc done success long
    have inBlock := bounded.receiving pc
    have more := inBlock.more
    obtain ⟨_, whole⟩ := inBlock.block_length success done (Nat.not_le_of_lt long)
    have taken : run.device.block.length = run.device.dataBuffer.length - blockSizeCrc := by
      simp only [Device.block, List.length_take, List.length_map]
      omega
    unfold Device.writeLength
    omega

/-- The receive loop ends, whole or in a restart, and stays in bounds all the way. -/
theorem receiveLoop_ends (crc32 : List Byte → UInt32) (surroundings : Surroundings) (announced : List Byte)
    (lawful : surroundings.Lawful) :
    (∃ after, loop (receivePass crc32 surroundings) ((Receiving.start announced).device.passesLeft + 1)
          (Receiving.start announced) = some after ∧
        (after.device.pc = .ended ∨ after.device.pc = .rebooted) ∧ after.InBounds (wordOf announced)) ∧
      ∀ run, Visits (receivePass crc32 surroundings) (Receiving.start announced) run →
        run.InBounds (wordOf announced) := by
  have start := start_bounded announced
  constructor
  next =>
    refine @exists_loop _ _ (fun run => run.device.passesLeft) (Receiving.Bounded (wordOf announced)) _ ?_
      _ start _ (Nat.lt_succ_self _)
    intro run bounded
    obtain ⟨next, round, lower⟩ | ⟨left, done⟩ := @Receiving.Bounded.pass crc32 surroundings _ run lawful bounded
    next => exact .inl ⟨next, round, lower.1, lower.2⟩
    next => exact .inr ⟨run, done, left, bounded.inBounds⟩
  next =>
    intro run visited
    have bounded : run.Bounded (wordOf announced) := by
      refine visited.invariant start ?_
      intro state next kept round
      obtain ⟨after, same, lower⟩ | ⟨_, done⟩ := @Receiving.Bounded.pass crc32 surroundings _ state lawful kept
      next =>
        rw [round] at same
        cases same
        exact lower.1
      next =>
        rw [round] at done
        cases done
    exact bounded.inBounds

theorem receiveLoop_ends_timeouts :
    let surroundings : Surroundings :=
      ⟨fun call length => some (if call % 2 = 0 then [] else stamped 0 (List.replicate length 0)),
        fun _ _ => true⟩
    let start := Receiving.start (littleEndian 3000)
    start.device.pc = .receiving ∧
      ∃ after, loop (receivePass crc32Le surroundings) (start.device.passesLeft + 1) start = some after ∧
        (after.device.pc = .ended ∨ after.device.pc = .rebooted) := by
  intro surroundings start
  have lawful : surroundings.Lawful := by
    intro call length data answer
    cases answer
    split
    next => exact Nat.zero_le _
    next => simp
  obtain ⟨⟨after, ran, left, _⟩, _⟩ := receiveLoop_ends crc32Le surroundings (littleEndian 3000) lawful
  exact ⟨by decide, after, ran, left⟩

end Run

end WatchFirmware.UartOta
