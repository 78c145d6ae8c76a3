import WatchFirmware.Ble.PacketHandler

set_option autoImplicit false

namespace WatchFirmware.Ble

open Loop

namespace BleMsg

def header (msg : BleMsg) : List Byte := [bleMagic, msg.hdr.opcode, msg.hdr.reqApp, msg.hdr.len]

def frame (msg : BleMsg) : List Byte := msg.header ++ msg.data

@[simp] theorem header_length (msg : BleMsg) : msg.header.length = 4 := rfl

theorem frame_length {msg : BleMsg} (fits : msg.Fits) : msg.frame.length = 4 + msg.size := by
  simp [frame, data_length fits]

theorem copyPayload_hdr {msg after : BleMsg} {offset : Nat} {bytes : List Byte}
    (copy : msg.copyPayload offset bytes = some after) : after.hdr = msg.hdr := by
  simp only [copyPayload] at copy
  split at copy
  next => cases copy
  next => cases copy; rfl

theorem copyPayload_inside (msg : BleMsg) (offset : Nat) (bytes : List Byte)
    (inside : offset + bytes.length ≤ bleMaxPayloadSize) :
    ∃ after, msg.copyPayload offset bytes = some after ∧
      after.payload.take (offset + bytes.length) = msg.payload.take offset ++ bytes := by
  have fits : offset + bytes.length ≤ msg.payload.length := by rwa [msg.payload_length]
  have done := Memory.write_inside fits
  simp only [copyPayload]
  split
  next failed => rw [done] at failed; cases failed
  next payload written => exact ⟨_, rfl, Memory.write_take written⟩

end BleMsg

def RxCtx.Idle (ctx : RxCtx) : Prop := ctx.state = .waitMagic ∧ ctx.msgActive = false

/-- The receiver is inside a message: its header is read and `got` is the payload so far. -/
structure Receiving (ctx : RxCtx) (hdr : BleMsgHdr) (got : List Byte) : Prop where
  state : ctx.state = .readPayload
  active : ctx.msgActive = true
  hdr_eq : ctx.curMsg.hdr = hdr
  offset_eq : ctx.offset = got.length
  bytes_eq : ctx.curMsg.payload.take got.length = got
  fits : hdr.len.toNat ≤ bleMaxPayloadSize

namespace RxLoop

def measure (pkt : List Byte) (loop : RxLoop) : Nat :=
  2 * (pkt.length - loop.i) + if loop.ctx.state = .waitMagic then 0 else 1

theorem waitMagic_again {pkt : List Byte} {loop next : RxLoop}
    (round : loop.waitMagic pkt = some (.again next)) : next.i = loop.i + 1 := by
  simp only [waitMagic] at round
  split at round
  next => cases round
  next =>
    split_ifs at round
    · cases round; rfl
    · cases round
    · cases round; rfl

theorem readHeader_again {pkt : List Byte} {loop next : RxLoop}
    (round : loop.readHeader pkt = some (.again next)) :
    (next.i = loop.i ∧ next.ctx.state = .waitMagic) ∨ next.i = loop.i + 3 := by
  simp only [readHeader] at round
  split at round
  next => cases round
  next =>
    split at round
    next =>
      cases round
      simp only [acceptHeader]
      split_ifs <;> simp
    next => cases round

theorem readPayload_eq {pkt : List Byte} {loop : RxLoop} (small : pkt.length < 2 ^ 16)
    (inside : loop.i ≤ pkt.length) (order : loop.ctx.offset ≤ loop.ctx.curMsg.size) :
    loop.readPayload pkt =
      let chunk := min (loop.ctx.curMsg.size - loop.ctx.offset) (pkt.length - loop.i)
      (loop.ctx.curMsg.copyPayload loop.ctx.offset ((pkt.drop loop.i).take chunk)).map
        fun msg => .again (loop.acceptPayload msg chunk) := by
  have size := loop.ctx.curMsg.size_lt
  have message := sub16_eq order (by omega)
  have packet := sub16_eq inside small
  have chunk (a b : Nat) : (if a < b then a else b) = min a b := by split <;> omega
  simp only [readPayload, message, packet, chunk, if_neg (Nat.not_lt.mpr order)]
  rw [Memory.read_inside (by omega), Option.bind_some]

theorem readPayload_again {pkt : List Byte} {loop next : RxLoop} (small : pkt.length < 2 ^ 16)
    (inside : loop.i < pkt.length) (round : loop.readPayload pkt = some (.again next)) :
    (next.i = loop.i ∧ next.ctx.state = .waitMagic) ∨ loop.i < next.i := by
  by_cases order : loop.ctx.offset ≤ loop.ctx.curMsg.size
  · rw [readPayload_eq small (Nat.le_of_lt inside) order] at round
    obtain ⟨msg, copy, same⟩ := Option.map_eq_some_iff.mp round
    obtain rfl := Flow.again.inj same
    have hdr := BleMsg.copyPayload_hdr copy
    by_cases finished : loop.ctx.offset = loop.ctx.curMsg.size
    · left
      simp [acceptPayload, finished, BleMsg.size, hdr]
    · right
      simp only [acceptPayload]
      split_ifs <;> simp <;> omega
  · rw [readPayload, if_pos (Nat.lt_of_not_le order)] at round
    cases round
    exact .inl ⟨rfl, rfl⟩

theorem body_decreasing {pkt : List Byte} (small : pkt.length < 2 ^ 16) (loop next : RxLoop)
    (round : loop.body pkt = some (.again next)) : next.measure pkt < loop.measure pkt := by
  simp only [body] at round
  split at round
  next inside =>
    simp only [measure]
    cases state : loop.ctx.state with
    | waitMagic =>
        have moved := waitMagic_again (by simpa only [state] using round)
        simp only [moved, reduceIte]
        split <;> omega
    | readHeader =>
        rcases readHeader_again (by simpa only [state] using round) with ⟨same, idle⟩ | moved
        · simp [same, idle]
        · simp only [moved, reduceCtorEq, reduceIte]
          split <;> omega
    | readPayload =>
        rcases readPayload_again small inside (by simpa only [state] using round) with
          ⟨same, idle⟩ | moved
        · simp [same, idle]
        · simp only [reduceCtorEq, reduceIte]
          split <;> omega
  next => cases round

theorem inside_of_drop {pkt bytes : List Byte} {i : Nat} (ahead : pkt.drop i = bytes)
    (some_left : bytes ≠ []) : i < pkt.length := by
  by_contra past
  exact some_left (ahead ▸ List.drop_eq_nil_of_le (Nat.not_lt.mp past))

theorem header_exits {pkt rest : List Byte} {loop after : RxLoop} {hdr : BleMsgHdr}
    (waiting : loop.ctx.state = .waitMagic)
    (ahead : pkt.drop loop.i = bleMagic :: hdr.opcode :: hdr.reqApp :: hdr.len :: rest)
    (exits : Exits (body pkt)
      (RxLoop.acceptHeader ⟨loop.i + 1, { loop.ctx with state := .readHeader }, loop.queued⟩ hdr) after) :
    Exits (body pkt) loop after := by
  have inside := inside_of_drop ahead (by simp)
  have length : loop.i + 4 ≤ pkt.length := by
    have := congrArg List.length ahead
    simp only [List.length_drop, List.length_cons] at this
    omega
  have byte (k : Nat) : pkt[loop.i + k]? =
      (bleMagic :: hdr.opcode :: hdr.reqApp :: hdr.len :: rest)[k]? := by
    rw [← ahead, List.getElem?_drop]
  have magic : loop.body pkt =
      some (.again ⟨loop.i + 1, { loop.ctx with state := .readHeader }, loop.queued⟩) := by
    have first := byte 0
    simp only [Nat.add_zero, List.getElem?_cons_zero] at first
    rw [body, if_pos inside, waiting]
    simp only [waitMagic, first, ne_eq, not_true_eq_false, if_false, Nat.not_lt.mpr length]
  refine .again magic (.again ?_ exits)
  have opcode := byte 1
  have reqApp := byte 2
  have len := byte 3
  simp only [List.getElem?_cons_succ, List.getElem?_cons_zero] at opcode reqApp len
  have further : loop.i + 1 < pkt.length := by omega
  rw [body, if_pos further]
  simp only [readHeader, Nat.add_assoc, Nat.reduceAdd, Nat.not_lt.mpr length, if_false, opcode, reqApp, len]

theorem payload_complete {pkt more rest got : List Byte} (loop : RxLoop) {hdr : BleMsgHdr}
    (small : pkt.length < 2 ^ 16) (receiving : Receiving loop.ctx hdr got)
    (ahead : pkt.drop loop.i = more ++ rest) (nonempty : more ≠ [])
    (full : got.length + more.length = hdr.len.toNat) :
    ∃ msg ctx, msg.view = (hdr, got ++ more) ∧ ctx.Idle ∧
      loop.body pkt = some (.again ⟨loop.i + more.length, ctx, loop.queued ++ [msg]⟩) := by
  have inside := inside_of_drop ahead (by simp [nonempty])
  have size : loop.ctx.curMsg.size = hdr.len.toNat := by rw [BleMsg.size, receiving.hdr_eq]
  have length := congrArg List.length ahead
  simp only [List.length_drop, List.length_append] at length
  have chunk : min (loop.ctx.curMsg.size - loop.ctx.offset) (pkt.length - loop.i) = more.length := by
    rw [size, receiving.offset_eq]
    omega
  have bytes : (pkt.drop loop.i).take more.length = more := by rw [ahead, List.take_left]
  have fits := receiving.fits
  obtain ⟨msg, copy, stored⟩ := loop.ctx.curMsg.copyPayload_inside loop.ctx.offset more (by rw [receiving.offset_eq]; omega)
  have same := BleMsg.copyPayload_hdr copy
  refine ⟨msg, ⟨.waitMagic, msg, loop.ctx.offset + more.length, false⟩, ?_, ⟨rfl, rfl⟩, ?_⟩
  · rw [receiving.offset_eq, full, receiving.bytes_eq] at stored
    rw [BleMsg.view, BleMsg.data, BleMsg.size, same, receiving.hdr_eq, stored]
  · have order : loop.ctx.offset ≤ loop.ctx.curMsg.size := by
      rw [size, receiving.offset_eq]
      omega
    have done : msg.size ≤ loop.ctx.offset + more.length := by
      rw [BleMsg.size, same, receiving.hdr_eq, receiving.offset_eq]
      omega
    rw [body, if_pos inside, receiving.state]
    simp only [readPayload_eq small (Nat.le_of_lt inside) order, chunk, bytes, copy, Option.map_some,
      acceptPayload, if_pos done]

theorem payload_partial {pkt more got : List Byte} (loop : RxLoop) {hdr : BleMsgHdr}
    (small : pkt.length < 2 ^ 16) (receiving : Receiving loop.ctx hdr got)
    (within : loop.i ≤ pkt.length) (ahead : pkt.drop loop.i = more)
    (short : got.length + more.length < hdr.len.toNat) :
    ∃ ctx, Receiving ctx hdr (got ++ more) ∧
      Exits (body pkt) loop ⟨pkt.length, ctx, loop.queued⟩ := by
  have length := congrArg List.length ahead
  simp only [List.length_drop] at length
  by_cases empty : more = []
  · subst empty
    have finished : loop.i = pkt.length := by simp at length; omega
    refine ⟨loop.ctx, by simpa using receiving, .exit ?_⟩
    rw [body, if_neg (by omega), ← finished]
  · have inside := inside_of_drop ahead empty
    have size : loop.ctx.curMsg.size = hdr.len.toNat := by rw [BleMsg.size, receiving.hdr_eq]
    have chunk : min (loop.ctx.curMsg.size - loop.ctx.offset) (pkt.length - loop.i) = more.length := by
      rw [size, receiving.offset_eq]
      omega
    have bytes : (pkt.drop loop.i).take more.length = more := by rw [ahead, List.take_length]
    have fits := receiving.fits
    obtain ⟨msg, copy, stored⟩ := loop.ctx.curMsg.copyPayload_inside loop.ctx.offset more (by rw [receiving.offset_eq]; omega)
    have same := BleMsg.copyPayload_hdr copy
    have order : loop.ctx.offset ≤ loop.ctx.curMsg.size := by
      rw [size, receiving.offset_eq]
      omega
    have unfinished : ¬ msg.size ≤ loop.ctx.offset + more.length := by
      rw [BleMsg.size, same, receiving.hdr_eq, receiving.offset_eq]
      omega
    let ctx : RxCtx := { loop.ctx with curMsg := msg, offset := loop.ctx.offset + more.length }
    have round : loop.body pkt = some (.again ⟨pkt.length, ctx, loop.queued⟩) := by
      have finish : loop.i + more.length = pkt.length := by omega
      rw [body, if_pos inside, receiving.state]
      simp only [readPayload_eq small within order, chunk, bytes, copy, Option.map_some,
        acceptPayload, if_neg unfinished, finish, ctx]
    refine ⟨ctx, ?_, .again round (.exit (by simp [body]))⟩
    rw [receiving.offset_eq, receiving.bytes_eq] at stored
    exact
      { state := receiving.state
        active := receiving.active
        hdr_eq := same.trans receiving.hdr_eq
        offset_eq := by simp [ctx, receiving.offset_eq]
        bytes_eq := by simpa [ctx] using stored
        fits := fits }

theorem receiving_start (loop : RxLoop) {hdr : BleMsgHdr} (fits : hdr.len.toNat ≤ bleMaxPayloadSize)
    (nonempty : hdr.len ≠ 0) :
    Receiving (loop.acceptHeader hdr).ctx hdr [] ∧ (loop.acceptHeader hdr).i = loop.i + 3 ∧
      (loop.acceptHeader hdr).queued = loop.queued := by
  rw [acceptHeader, if_neg (Nat.not_lt.mpr fits), if_neg nonempty]
  exact ⟨⟨rfl, rfl, rfl, rfl, rfl, fits⟩, rfl, rfl⟩

theorem frame_complete {pkt rest : List Byte} {loop : RxLoop} {msg : BleMsg}
    (small : pkt.length < 2 ^ 16) (fits : msg.Fits) (waiting : loop.ctx.state = .waitMagic)
    (ahead : pkt.drop loop.i = msg.frame ++ rest) :
    ∃ got ctx, got.view = msg.view ∧ ctx.Idle ∧
      ∀ after, Exits (body pkt) ⟨loop.i + msg.frame.length, ctx, loop.queued ++ [got]⟩ after →
        Exits (body pkt) loop after := by
  have start : pkt.drop loop.i = bleMagic :: msg.hdr.opcode :: msg.hdr.reqApp :: msg.hdr.len ::
      (msg.data ++ rest) := by
    rw [ahead]
    rfl
  let headed : RxLoop := ⟨loop.i + 1, { loop.ctx with state := .readHeader }, loop.queued⟩
  by_cases empty : msg.hdr.len = 0
  · have size : msg.size = 0 := by simp [BleMsg.size, empty]
    refine ⟨{ loop.ctx.curMsg with hdr := msg.hdr }, (headed.acceptHeader msg.hdr).ctx, ?_, ?_, ?_⟩
    · simp [BleMsg.view, BleMsg.data, BleMsg.size, empty]
    · simp [headed, acceptHeader, empty, RxCtx.Idle]
    · intro after exits
      apply header_exits waiting start
      rw [BleMsg.frame_length fits, size] at exits
      simpa [headed, acceptHeader, empty, Nat.add_assoc] using exits
  · obtain ⟨receiving, position, queued⟩ :=
      receiving_start headed (show msg.hdr.len.toNat ≤ _ from fits) empty
    have data : msg.data ≠ [] := by
      intro none
      have length := BleMsg.data_length fits
      rw [none] at length
      exact empty (UInt8.toNat_inj.mp (by simpa [BleMsg.size] using length.symm))
    have remaining : pkt.drop (headed.acceptHeader msg.hdr).i = msg.data ++ rest := by
      rw [position, show headed.i + 3 = loop.i + 4 from rfl, ← List.drop_drop, start]
      rfl
    obtain ⟨got, ctx, view, idle, round⟩ := payload_complete _ small receiving remaining data
      (by rw [List.length_nil, Nat.zero_add]; exact BleMsg.data_length fits)
    refine ⟨got, ctx, view, idle, fun after exits => header_exits waiting start (.again round ?_)⟩
    rw [position, queued]
    rw [BleMsg.frame_length fits] at exits
    rw [BleMsg.data_length fits]
    simpa [headed, Nat.add_assoc, Nat.add_comm, Nat.add_left_comm] using exits

theorem frame_partial {pkt more : List Byte} {loop : RxLoop} {msg : BleMsg}
    (small : pkt.length < 2 ^ 16) (fits : msg.Fits) (waiting : loop.ctx.state = .waitMagic)
    (ahead : pkt.drop loop.i = msg.header ++ more) (short : more.length < msg.size) :
    ∃ ctx, Receiving ctx msg.hdr more ∧ Exits (body pkt) loop ⟨pkt.length, ctx, loop.queued⟩ := by
  have start : pkt.drop loop.i = bleMagic :: msg.hdr.opcode :: msg.hdr.reqApp :: msg.hdr.len :: more := by
    rw [ahead]
    rfl
  let headed : RxLoop := ⟨loop.i + 1, { loop.ctx with state := .readHeader }, loop.queued⟩
  have nonempty : msg.hdr.len ≠ 0 := by
    intro zero
    simp [BleMsg.size, zero] at short
  obtain ⟨receiving, position, queued⟩ :=
    receiving_start headed (show msg.hdr.len.toNat ≤ _ from fits) nonempty
  have remaining : pkt.drop (headed.acceptHeader msg.hdr).i = more := by
    rw [position, show headed.i + 3 = loop.i + 4 from rfl, ← List.drop_drop, start]
    rfl
  have within : (headed.acceptHeader msg.hdr).i ≤ pkt.length := by
    have length := congrArg List.length start
    simp only [List.length_drop, List.length_cons] at length
    simp only [position, headed]
    omega
  obtain ⟨ctx, got, exits⟩ := payload_partial _ small receiving within remaining
    (by rw [List.length_nil, Nat.zero_add]; exact short)
  refine ⟨ctx, by simpa using got, header_exits waiting start ?_⟩
  rw [queued] at exits
  exact exits

end RxLoop

theorem bleRetrievePacket_exits {msgCont : Byte} {bytes : List Byte} {ctx : RxCtx} {done : RxLoop}
    (small : bytes.length + 1 < 2 ^ 16)
    (exits : Exits (RxLoop.body (msgCont :: bytes)) ⟨1, handleContinuation msgCont ctx, []⟩ done) :
    bleRetrievePacket (msgCont :: bytes) ctx = some (done.ctx, done.queued) := by
  have length : (msgCont :: bytes).length < 2 ^ 16 := by simpa using small
  have enough : RxLoop.measure (msgCont :: bytes) ⟨1, handleContinuation msgCont ctx, []⟩ <
      2 * (msgCont :: bytes).length + 2 := by
    simp only [RxLoop.measure, List.length_cons]
    split <;> omega
  simp only [bleRetrievePacket, loop_of_exits (RxLoop.body_decreasing length) exits enough,
    Option.map_some]

end WatchFirmware.Ble
