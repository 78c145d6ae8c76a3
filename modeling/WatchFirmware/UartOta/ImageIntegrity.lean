import WatchFirmware.UartOta.Delivery

set_option autoImplicit false

namespace WatchFirmware.UartOta

open Transition SerialLine

variable {crc32 : List Byte → UInt32}

/-- Block number `index` of the file. -/
def blockAt (file : List Byte) (index : Nat) : List Byte :=
  (file.drop (payloadSize * index)).take payloadSize

def blocks (file : List Byte) (count : Nat) : List (List Byte) := (List.range count).map (blockAt file)

theorem blocks_flatten (file : List Byte) (count : Nat) :
    (blocks file count).flatten = file.take (payloadSize * count) := by
  induction count with
  | zero => simp [blocks]
  | succ count ih =>
      rw [Nat.mul_succ, List.take_add, ← ih]
      simp [blocks, List.range_succ, blockAt]

theorem blocks_succ (file : List Byte) (count : Nat) :
    blocks file (count + 1) = blocks file count ++ [blockAt file count] := by
  simp [blocks, List.range_succ]

namespace Device

@[simp] theorem nextBlock_totalReceived (device : Device) :
    device.nextBlock.totalReceived = device.totalReceived := by
  unfold nextBlock
  split
  · rfl
  · split <;> rfl

@[simp] theorem nextBlock_image (device : Device) : device.nextBlock.image = device.image := by
  unfold nextBlock
  split
  · rfl
  · split <;> rfl

@[simp] theorem acceptSize_totalReceived (device : Device) (bytes : List Byte) :
    (device.acceptSize bytes).totalReceived = device.totalReceived := by
  unfold acceptSize
  split
  · rfl
  · simp

@[simp] theorem acceptSize_image (device : Device) (bytes : List Byte) :
    (device.acceptSize bytes).image = device.image := by
  unfold acceptSize
  split
  · rfl
  · simp

@[simp] theorem refuse_totalReceived (device : Device) :
    device.refuse.totalReceived = device.totalReceived := by
  unfold refuse
  split
  · rfl
  · simp

@[simp] theorem refuse_image (device : Device) : device.refuse.image = device.image := by
  unfold refuse
  split
  · rfl
  · simp

@[simp] theorem fill_totalReceived (device : Device) (data : List Datum) :
    (device.fill data).totalReceived = device.totalReceived := by
  unfold fill
  split <;> rfl

@[simp] theorem fill_image (device : Device) (data : List Datum) :
    (device.fill data).image = device.image := by
  unfold fill
  split <;> rfl

@[simp] theorem fill_pc (device : Device) (data : List Datum) : (device.fill data).pc = device.pc := by
  unfold fill
  split <;> rfl

end Device

namespace Transfer

/-- The host moves on only from a block that the watch has written, and sends again only one that it
has not. -/
def Answered (s : Transfer) : Action → Prop
  | .hostRead => s.host.pc = .response →
      if s.replies.arrived.head? = some cmdAck then
        s.device.totalReceived = s.host.bytesSent + s.host.chunk.length
      else s.device.totalReceived = s.host.bytesSent
  | _ => True

/-- What the host has sent since the watch wrote its last block is the block that comes next. -/
structure Aligned (crc32 : List Byte → UInt32) (s : Transfer) : Prop where
  image : s.device.pc ≠ .rebooted →
    s.device.image = blocks s.host.file s.device.image.length ∧
      s.device.totalReceived = min (payloadSize * s.device.image.length) s.host.file.length
  settled : 0 < s.settled
  negotiated : s.host.pc = .negotiate → s.host.sent.length = 1
  untouched : s.host.sent.length = 1 → s.device.totalReceived = s.host.bytesSent
  filled : s.host.pc = .sending ∨ s.host.pc = .response → s.host.chunk ≠ []
  current : ∀ transmission frame, s.settled ≤ transmission → s.host.sent[transmission]? = some frame →
    s.device.totalReceived = s.host.bytesSent ∧ frame = Host.payload crc32 s.host.chunk

variable {s after : Transfer}

theorem Aligned.keepsHost (aligned : s.Aligned crc32) {host : Host} (file : host.file = s.host.file)
    (sent : host.sent = s.host.sent) (bytesSent : host.bytesSent = s.host.bytesSent)
    (negotiating : host.pc ≠ .negotiate)
    (waiting : host.pc = .sending ∨ host.pc = .response → s.host.pc = .sending ∨ s.host.pc = .response)
    (line : SerialLine Datum) (replies : SerialLine Byte) :
    ({ s with host := host, line := line, replies := replies } : Transfer).Aligned crc32 := by
  have chunk : host.chunk = s.host.chunk := by simp only [Host.chunk, file, bytesSent]
  constructor
  case image =>
    rw [file]
    exact aligned.image
  case settled => exact aligned.settled
  case negotiated => exact fun isNegotiating => absurd isNegotiating negotiating
  case untouched =>
    rw [sent, bytesSent]
    exact aligned.untouched
  case filled =>
    rw [chunk]
    exact fun isWaiting => aligned.filled (waiting isWaiting)
  case current =>
    rw [sent, bytesSent, chunk]
    exact aligned.current

theorem Aligned.keepsDevice (aligned : s.Aligned crc32) {device : Device}
    (total : device.totalReceived = s.device.totalReceived)
    (image : device.pc ≠ .rebooted → s.device.pc ≠ .rebooted ∧ device.image = s.device.image)
    (line : SerialLine Datum) (replies : SerialLine Byte) :
    ({ s with device := device, line := line, replies := replies } : Transfer).Aligned crc32 := by
  constructor
  case image =>
    intro running
    obtain ⟨ran, same⟩ := image running
    rw [same, total]
    exact aligned.image ran
  case settled => exact aligned.settled
  case negotiated => exact aligned.negotiated
  case untouched =>
    rw [total]
    exact aligned.untouched
  case filled => exact aligned.filled
  case current =>
    rw [total]
    exact aligned.current

theorem Aligned.transmit (aligned : s.Aligned crc32) {host : Host} (file : host.file = s.host.file)
    (sent : host.sent = s.host.sent) (filled : host.chunk ≠ [])
    (synced : s.device.totalReceived = host.bytesSent)
    (same : ∀ transmission frame, s.settled ≤ transmission → s.host.sent[transmission]? = some frame →
      frame = Host.payload crc32 host.chunk)
    (replies : SerialLine Byte) :
    ({ s with host := host.transmit crc32, replies := replies } : Transfer).Aligned crc32 := by
  constructor
  case image =>
    have sameFile : (host.transmit crc32).file = s.host.file := file
    rw [sameFile]
    exact aligned.image
  case settled => exact aligned.settled
  case negotiated => exact fun isNegotiating => by cases isNegotiating
  case untouched => exact fun _ => synced
  case filled => exact fun _ => filled
  case current =>
    intro transmission frame recent isSent
    have isSent : (host.sent ++ [Host.payload crc32 host.chunk])[transmission]? = some frame := isSent
    refine ⟨synced, ?_⟩
    obtain earlier | last := Nat.lt_or_ge transmission host.sent.length
    next =>
      rw [List.getElem?_append_left earlier, sent] at isSent
      exact same transmission frame recent isSent
    next =>
      rw [List.getElem?_append_right last] at isSent
      exact List.mem_singleton.mp (List.mem_of_getElem? isSent)

theorem Aligned.nextBlock (aligned : s.Aligned crc32) {host : Host} (file : host.file = s.host.file)
    (sent : host.sent = s.host.sent) (synced : s.device.totalReceived = host.bytesSent)
    (none_since : s.host.sent.length ≤ s.settled) (replies : SerialLine Byte) :
    ({ s with host := host.nextBlock crc32, replies := replies } : Transfer).Aligned crc32 := by
  have old (transmission : Nat) (frame : List Byte) (recent : s.settled ≤ transmission)
      (isSent : s.host.sent[transmission]? = some frame) : False := by
    have bound := (List.getElem?_eq_some_iff.mp isSent).1
    omega
  unfold Host.nextBlock
  split
  next =>
    constructor
    case image =>
      have sameFile : ({ host with pc := .finalResponse } : Host).file = s.host.file := file
      rw [sameFile]
      exact aligned.image
    case settled => exact aligned.settled
    case negotiated => exact fun isNegotiating => by cases isNegotiating
    case untouched => exact fun _ => synced
    case filled => exact fun isWaiting => by simp at isWaiting
    case current =>
      intro transmission frame recent isSent
      have isSent : host.sent[transmission]? = some frame := isSent
      rw [sent] at isSent
      exact (old transmission frame recent isSent).elim
  next filled =>
    apply aligned.transmit
    case file => exact file
    case sent => exact sent
    case filled => exact filled
    case synced => exact synced
    case same => exact fun transmission frame recent isSent => (old transmission frame recent isSent).elim

theorem Aligned.hears (aligned : s.Aligned crc32) (answered : s.Answered .hostRead) {host : Host}
    (hears : s.host.hears crc32 s.replies.arrived.head? = some host) (replies : SerialLine Byte) :
    ({ s with host := host, replies := replies } : Transfer).Aligned crc32 := by
  have closes (retryCount : Nat) : ({ s with
      host := { s.host with pc := .closed, retryCount := retryCount }
      replies := replies } : Transfer).Aligned crc32 := by
    apply aligned.keepsHost
    case file => rfl
    case sent => rfl
    case bytesSent => rfl
    case negotiating => exact HostPc.noConfusion
    case waiting => exact fun isWaiting => by simp at isWaiting
  unfold Host.hears at hears
  split at hears
  next pc =>
    split at hears
    next =>
      cases hears
      have alone := aligned.negotiated pc
      have positive := aligned.settled
      exact aligned.nextBlock rfl rfl (aligned.untouched alone) (by omega) replies
    next =>
      cases hears
      exact closes _
  next pc =>
    have fate := answered pc
    have filled := aligned.filled (.inr pc)
    cases hears
    unfold Host.blockResponse
    split
    next isAck =>
      rw [if_pos isAck] at fate
      have positive : 0 < s.host.chunk.length := List.length_pos_iff.mpr filled
      -- what was sent since the last write is not written yet, so nothing was
      have none_since : s.host.sent.length ≤ s.settled := by
        by_contra more
        have present := List.getElem?_eq_getElem (Nat.lt_of_not_le more)
        have synced := (aligned.current _ _ (Nat.le_refl _) present).1
        omega
      apply aligned.nextBlock
      case file => rfl
      case sent => rfl
      case synced => exact fate
      case none_since => exact none_since
    next notAck =>
      rw [if_neg notAck] at fate
      have again (retryCount : Nat) : ({ s with
          host := Host.transmit crc32 { s.host with retryCount := retryCount }
          replies := replies } : Transfer).Aligned crc32 := by
        apply aligned.transmit
        case file => rfl
        case sent => rfl
        case filled => exact filled
        case synced => exact fate
        case same => exact fun transmission frame recent isSent =>
          (aligned.current transmission frame recent isSent).2
      split
      next =>
        unfold Host.refused
        split
        next => exact closes _
        next => exact again _
      next => exact again s.host.retryCount
  next pc =>
    cases hears
    exact closes _
  next => cases hears
  next => cases hears

theorem Aligned.hostRead (aligned : s.Aligned crc32) (answered : s.Answered .hostRead)
    (taken : s.hostRead crc32 = some after) : after.Aligned crc32 := by
  obtain ⟨host, hears, rfl⟩ := Option.map_eq_some_iff.mp taken
  exact aligned.hears answered hears _

theorem Aligned.hostWrite (aligned : s.Aligned crc32) (sending : s.host.pc = .sending)
    (taken : step crc32 s .hostWrite = some after) : after.Aligned crc32 := by
  simp only [step, sending, if_true, Option.some.injEq] at taken
  subst taken
  apply aligned.keepsHost
  case file => rfl
  case sent => rfl
  case bytesSent => rfl
  case negotiating =>
    simp only [Host.written]
    split <;> exact HostPc.noConfusion
  case waiting => exact fun _ => .inl sending

theorem Aligned.deviceReadSize (aligned : s.Aligned crc32) (size : s.device.pc = .size) :
    s.deviceReadSize.Aligned crc32 := by
  apply aligned.keepsDevice
  case total => exact Device.acceptSize_totalReceived _ _
  case image =>
    intro _
    rw [size]
    exact ⟨DevicePc.noConfusion, Device.acceptSize_image _ _⟩

theorem Aligned.deviceRead (aligned : s.Aligned crc32) (receiving : s.device.pc = .receiving)
    (fails : Bool) : (s.deviceRead fails).Aligned crc32 := by
  cases fails with
  | true =>
      apply aligned.keepsDevice
      case total => rfl
      case image => exact fun isRunning => absurd rfl isRunning
  | false =>
      apply aligned.keepsDevice
      case total => exact Device.fill_totalReceived _ _
      case image =>
        intro _
        rw [receiving]
        exact ⟨DevicePc.noConfusion, Device.fill_image _ _⟩

theorem Aligned.refuse (aligned : s.Aligned crc32) (receiving : s.device.pc = .receiving)
    (line : SerialLine Datum) (replies : SerialLine Byte) :
    ({ s with device := s.device.refuse, line := line, replies := replies } : Transfer).Aligned crc32 := by
  apply aligned.keepsDevice
  case total => exact s.device.refuse_totalReceived
  case image =>
    intro _
    rw [receiving]
    exact ⟨DevicePc.noConfusion, s.device.refuse_image⟩

theorem Device.block_length (device : Device) :
    device.block.length = device.dataBuffer.length - blockSizeCrc := by
  simp [Device.block]

theorem Aligned.imageGrows (aligned : s.Aligned crc32) (running : s.device.pc ≠ .rebooted)
    (synced : s.device.totalReceived = s.host.bytesSent) (filled : 0 < s.host.chunk.length) :
    s.device.image ++ [s.host.chunk] = blocks s.host.file (s.device.image.length + 1) ∧
      s.device.totalReceived + s.host.chunk.length =
        min (payloadSize * (s.device.image.length + 1)) s.host.file.length := by
  obtain ⟨image, total⟩ := aligned.image running
  have length : s.host.chunk.length = min payloadSize (s.host.file.length - s.host.bytesSent) := by
    simp [Host.chunk]
  have offset : s.host.bytesSent = payloadSize * s.device.image.length := by omega
  constructor
  next =>
    rw [blocks_succ, ← image]
    simp only [Host.chunk, offset, blockAt]
  next =>
    rw [Nat.mul_succ]
    omega

/-- A block that passes is the one the host has sent since the last write, and not written yet. -/
theorem Aligned.passes (aligned : s.Aligned crc32) {writeOk : Bool}
    (detects : s.Detects crc32 (.deviceJudge writeOk)) (fresh : s.Fresh crc32 (.deviceJudge writeOk))
    (passed : s.device.passes crc32) :
    s.device.totalReceived = s.host.bytesSent ∧ s.device.block = s.host.chunk ∧ s.host.sent.length ≠ 1 := by
  obtain ⟨datum, last, sent⟩ := detects passed
  have recent := fresh passed datum last
  obtain ⟨synced, payload⟩ := aligned.current datum.transmission _ recent sent
  have positive := aligned.settled
  have bound := (List.getElem?_eq_some_iff.mp sent).1
  refine ⟨synced, ?_, by omega⟩
  have length : s.device.dataBuffer.length = s.host.chunk.length + blockSizeCrc := by
    rw [← List.length_map Datum.byte, payload]
    simp [Host.payload]
  unfold Device.block
  rw [payload, length, Nat.add_sub_cancel, Host.payload, List.take_left]

theorem Aligned.write (aligned : s.Aligned crc32) (receiving : s.device.pc = .receiving) {writeOk : Bool}
    (detects : s.Detects crc32 (.deviceJudge writeOk)) (fresh : s.Fresh crc32 (.deviceJudge writeOk))
    (passed : s.device.passes crc32) (replies : SerialLine Byte) :
    ({ s with
        device := s.device.write writeOk
        replies := replies
        settled := s.host.sent.length } : Transfer).Aligned crc32 := by
  obtain ⟨synced, isChunk, several⟩ := aligned.passes detects fresh passed
  have filled : 0 < s.host.chunk.length := by
    have long := passed.2.1
    rw [← isChunk, Device.block_length]
    omega
  constructor
  case image =>
    intro running
    cases writeOk with
    | false => exact absurd rfl running
    | true =>
        obtain ⟨image, total⟩ := aligned.imageGrows (by simp [receiving]) synced filled
        rw [← isChunk] at image total
        have imageAfter : (s.device.write true).image = s.device.image ++ [s.device.block] :=
          Device.nextBlock_image _
        have totalAfter : (s.device.write true).totalReceived =
            s.device.totalReceived + s.device.block.length := Device.nextBlock_totalReceived _
        simp only [imageAfter, totalAfter, List.length_append, List.length_singleton]
        exact ⟨image, total⟩
  case settled =>
    obtain ⟨datum, _, sent⟩ := detects passed
    exact Nat.lt_of_le_of_lt (Nat.zero_le _) (List.getElem?_eq_some_iff.mp sent).1
  case negotiated => exact aligned.negotiated
  case untouched => exact fun alone => absurd alone several
  case filled => exact aligned.filled
  case current =>
    intro transmission frame recent isSent
    have bound := (List.getElem?_eq_some_iff.mp isSent).1
    exact absurd bound (Nat.not_lt_of_le recent)

theorem Aligned.deviceJudge (aligned : s.Aligned crc32) {writeOk : Bool}
    (receiving : s.device.pc = .receiving) (detects : s.Detects crc32 (.deviceJudge writeOk))
    (fresh : s.Fresh crc32 (.deviceJudge writeOk)) : (s.deviceJudge crc32 writeOk).Aligned crc32 := by
  unfold Transfer.deviceJudge
  split
  next => exact aligned.refuse receiving _ _
  next complete =>
    split
    next isOk =>
      have complete : s.device.blockSuccess = true ∧ blockSizeCrc < s.device.dataBuffer.length := by
        simpa using complete
      exact aligned.write receiving detects fresh ⟨complete.1, complete.2, isOk⟩ _
    next => exact aligned.refuse receiving _ _

theorem aligned_step (aligned : s.Aligned crc32) {action : Action} (detects : s.Detects crc32 action)
    (fresh : s.Fresh crc32 action) (answered : s.Answered action)
    (taken : step crc32 s action = some after) : after.Aligned crc32 := by
  cases action with
  | line fault =>
      obtain ⟨line, _, rfl⟩ := Option.map_eq_some_iff.mp taken
      exact aligned.keepsDevice rfl (fun running => ⟨running, rfl⟩) _ _
  | replies fault =>
      obtain ⟨replies, _, rfl⟩ := Option.map_eq_some_iff.mp taken
      exact aligned.keepsDevice rfl (fun running => ⟨running, rfl⟩) _ _
  | hostWrite =>
      by_cases sending : s.host.pc = .sending
      next => exact aligned.hostWrite sending taken
      next => simp [step, sending] at taken
  | hostRead => exact aligned.hostRead answered taken
  | deviceReadSize =>
      simp only [step, Option.ite_none_right_eq_some, Option.some.injEq] at taken
      exact taken.2 ▸ aligned.deviceReadSize taken.1
  | deviceRead fails =>
      simp only [step, Option.ite_none_right_eq_some, Option.some.injEq] at taken
      exact taken.2 ▸ aligned.deviceRead taken.1.1 fails
  | deviceJudge writeOk =>
      simp only [step, Option.ite_none_right_eq_some, Option.some.injEq] at taken
      exact taken.2 ▸ aligned.deviceJudge taken.1.1 detects fresh
  | deviceOtaEnd bootable =>
      simp only [step, Option.ite_none_right_eq_some, Option.some.injEq] at taken
      rw [← taken.2]
      apply aligned.keepsDevice
      case total => rfl
      case image => exact fun isRunning => absurd rfl isRunning

theorem aligned_initial {file : List Byte} (initial : Initial file s) : s.Aligned crc32 := by
  obtain ⟨_, host, device, _, settled⟩ := initial
  constructor
  case image =>
    intro _
    simp [device, Device.start, blocks]
  case settled =>
    rw [settled]
    exact Nat.zero_lt_one
  case negotiated =>
    intro _
    rw [host]
    rfl
  case untouched =>
    intro _
    rw [host, device]
    rfl
  case filled =>
    intro isWaiting
    simp [host, Host.start] at isWaiting
  case current =>
    intro transmission frame recent isSent
    have bound := (List.getElem?_eq_some_iff.mp isSent).1
    simp only [host, Host.start, List.length_singleton] at bound
    omega

theorem hears_file {host heard : Host} {response : Option Byte}
    (hears : host.hears crc32 response = some heard) : heard.file = host.file := by
  have nextBlock : ∀ host : Host, (host.nextBlock crc32).file = host.file := by
    intro host
    unfold Host.nextBlock
    split <;> rfl
  have refused : ∀ host : Host, (host.refused crc32).file = host.file := by
    intro host
    unfold Host.refused
    split <;> rfl
  have blockResponse : (host.blockResponse crc32 response).file = host.file := by
    unfold Host.blockResponse
    split
    · exact nextBlock _
    · split
      · exact refused _
      · rfl
  unfold Host.hears at hears
  split at hears
  next =>
    split at hears
    · cases hears
      exact nextBlock _
    · cases hears
      rfl
  next =>
    cases hears
    exact blockResponse
  next =>
    cases hears
    rfl
  next => cases hears
  next => cases hears

theorem file_of_step {action : Action} (taken : step crc32 s action = some after) :
    after.host.file = s.host.file := by
  cases action with
  | line fault =>
      obtain ⟨line, _, rfl⟩ := Option.map_eq_some_iff.mp taken
      rfl
  | replies fault =>
      obtain ⟨replies, _, rfl⟩ := Option.map_eq_some_iff.mp taken
      rfl
  | hostRead =>
      obtain ⟨host, hears, rfl⟩ := Option.map_eq_some_iff.mp taken
      exact hears_file hears
  | hostWrite | deviceReadSize | deviceOtaEnd bootable =>
      simp only [step, Option.ite_none_right_eq_some, Option.some.injEq] at taken
      rw [← taken.2]
      rfl
  | deviceRead fails =>
      simp only [step, Option.ite_none_right_eq_some, Option.some.injEq] at taken
      rw [← taken.2]
      cases fails <;> rfl
  | deviceJudge writeOk =>
      simp only [step, Option.ite_none_right_eq_some, Option.some.injEq] at taken
      rw [← taken.2, Transfer.deviceJudge]
      split
      · rfl
      · split <;> rfl

def Complete (s : Transfer) : Prop :=
  s.device.pc = .ended → s.device.totalReceived = s.device.expectedAppSize

theorem nextBlock_complete (device : Device) (ended : device.nextBlock.pc = .ended) :
    device.nextBlock.totalReceived = device.nextBlock.expectedAppSize := by
  unfold Device.nextBlock at ended ⊢
  split
  next short =>
    rw [if_pos short] at ended
    cases ended
  next notShort =>
    rw [if_neg notShort] at ended
    split
    next same => exact same
    next other =>
      rw [if_neg other] at ended
      cases ended

theorem refuse_complete (device : Device) (ended : device.refuse.pc = .ended) :
    device.refuse.totalReceived = device.refuse.expectedAppSize := by
  unfold Device.refuse at ended ⊢
  split
  next spent =>
    rw [if_pos spent] at ended
    cases ended
  next left =>
    rw [if_neg left] at ended
    exact nextBlock_complete _ ended

theorem complete_step (complete : s.Complete) {action : Action}
    (taken : step crc32 s action = some after) : after.Complete := by
  cases action with
  | line fault =>
      obtain ⟨line, _, rfl⟩ := Option.map_eq_some_iff.mp taken
      exact complete
  | replies fault =>
      obtain ⟨replies, _, rfl⟩ := Option.map_eq_some_iff.mp taken
      exact complete
  | hostRead =>
      obtain ⟨host, _, rfl⟩ := Option.map_eq_some_iff.mp taken
      exact complete
  | hostWrite =>
      simp only [step, Option.ite_none_right_eq_some, Option.some.injEq] at taken
      exact taken.2 ▸ complete
  | deviceReadSize =>
      simp only [step, Option.ite_none_right_eq_some, Option.some.injEq] at taken
      rw [← taken.2]
      intro ended
      change (Device.acceptSize _ _).pc = _ at ended
      change (Device.acceptSize _ _).totalReceived = (Device.acceptSize _ _).expectedAppSize
      unfold Device.acceptSize at ended ⊢
      split
      next bad =>
        rw [if_pos bad] at ended
        cases ended
      next good =>
        rw [if_neg good] at ended
        exact nextBlock_complete _ ended
  | deviceRead fails =>
      simp only [step, Option.ite_none_right_eq_some, Option.some.injEq] at taken
      obtain ⟨⟨receiving, _⟩, rfl⟩ := taken
      intro ended
      cases fails with
      | true => cases ended
      | false =>
          have same : (s.deviceRead false).device.pc = s.device.pc := Device.fill_pc _ _
          rw [same, receiving] at ended
          cases ended
  | deviceJudge writeOk =>
      simp only [step, Option.ite_none_right_eq_some, Option.some.injEq] at taken
      rw [← taken.2, Transfer.deviceJudge]
      split
      next => exact refuse_complete s.device
      next =>
        split
        next =>
          cases writeOk with
          | true => exact nextBlock_complete _
          | false => exact fun ended => by cases ended
        next => exact refuse_complete s.device
  | deviceOtaEnd bootable =>
      simp only [step, Option.ite_none_right_eq_some, Option.some.injEq] at taken
      rw [← taken.2]
      exact fun ended => by cases ended

def Allowed (crc32 : List Byte → UInt32) (s : Transfer) (action : Action) : Prop :=
  s.Detects crc32 action ∧ s.Fresh crc32 action ∧ s.Answered action

theorem sound_of_reach {file : List Byte}
    (reached : Reach (step crc32) (Initial file) (Allowed crc32) s) :
    s.host.file = file ∧ s.Complete ∧ s.Aligned crc32 := by
  induction reached with
  | start initial =>
      refine ⟨by rw [initial.2.1]; rfl, ?_, aligned_initial initial⟩
      intro ended
      rw [initial.2.2.1] at ended
      cases ended
  | next _ allowed taken ih =>
      obtain ⟨file, complete, aligned⟩ := ih
      exact ⟨(file_of_step taken).trans file, complete_step complete taken,
        aligned_step aligned allowed.1 allowed.2.1 allowed.2.2 taken⟩

theorem reach_repeated {first second : List Byte} (firstLength : first.length = payloadSize)
    (secondLength : second.length = payloadSize) :
    ∃ s : Transfer, Reach (step crc32) (Initial (first ++ second)) (Detects crc32) s ∧
      s.device.pc = .ended ∧ s.device.expectedAppSize = (first ++ second).length ∧
      s.device.image = [first, first] := by
  have lets : LetsThrough crc32 (Detects crc32) := fun _ _ _ detects _ => detects
  have length : (first ++ second).length = payloadSize + payloadSize := by
    rw [List.length_append, firstLength, secondLength]
  have filled : first ≠ [] := by
    rw [← List.length_pos_iff, firstLength]
    decide
  have chunk : (Host.start (first ++ second)).chunk = first := by
    simp [Host.start, Host.chunk, ← firstLength]
  have opened := reach_negotiated (first ++ second) lets (fun _ _ => trivial) (by simp [filled])
    (by rw [length]; decide)
  have starts : (Host.start (first ++ second)).nextBlock crc32 =
      { Host.start (first ++ second) with
        pc := .sending
        unsent := stamped 1 (Host.payload crc32 first)
        sent := [littleEndian (first ++ second).length, Host.payload crc32 first] } := by
    rw [Host.nextBlock, if_neg (by rw [chunk]; exact filled)]
    simp [Host.transmit, Host.chunk, Host.start, ← firstLength]
  rw [starts] at opened
  have payload : (Host.payload crc32 first).length = payloadSize + 4 := by
    simp [Host.payload, firstLength, littleEndian_length]
  have written := reach_block lets opened rfl rfl rfl rfl rfl rfl filled rfl (Nat.le_refl _) rfl
    (by rw [payload]; simp only [length]; decide)
  have more : 0 + payloadSize < (first ++ second).length := by
    rw [length]
    decide
  rw [firstLength, Device.nextBlock, if_pos (by exact more)] at written
  let waiting : Transfer :=
    { host :=
        { Host.start (first ++ second) with
          pc := .response
          unsent := []
          sent := [littleEndian (first ++ second).length, Host.payload crc32 first] }
      device :=
        { Device.start with
          pc := .receiving
          expectedAppSize := (first ++ second).length
          totalReceived := 0 + payloadSize
          image := [first] }
      line := ⟨[], []⟩
      replies := ⟨[cmdAck], []⟩
      settled := 2 }
  have acknowledged : Reach (step crc32) (Initial (first ++ second)) (Detects crc32) waiting := written
  have lost : Reach (step crc32) (Initial (first ++ second)) (Detects crc32)
      { waiting with replies := ⟨[], []⟩ } :=
    .next acknowledged (lets _ (.replies .drop) (by simp) trivial trivial) rfl
  have unheard : waiting.host.chunk = first := by simp [waiting, Host.start, Host.chunk, ← firstLength]
  have again : Reach (step crc32) (Initial (first ++ second)) (Detects crc32)
      { waiting with
        host := waiting.host.transmit crc32
        replies := ⟨[], []⟩ } := by
    have timesOut : Detects crc32 { waiting with replies := ⟨[], []⟩ } .hostRead := trivial
    exact .next lost timesOut rfl
  rw [Host.transmit, unheard] at again
  have repeated := reach_block lets again rfl rfl rfl rfl rfl rfl filled rfl (Nat.le_refl _) rfl
    (by rw [payload]; simp only [waiting, length, Device.expectedUartBytes, Device.remainingAppBytes]; decide)
  have all : ¬ 0 + payloadSize + payloadSize < (first ++ second).length := by
    rw [length]
    decide
  have exactly : 0 + payloadSize + payloadSize = (first ++ second).length := by
    rw [length]
    decide
  rw [firstLength, Device.nextBlock, if_neg (by exact all), if_pos (by exact exactly)] at repeated
  exact ⟨_, repeated, rfl, rfl, rfl⟩

end Transfer

end WatchFirmware.UartOta
