import WatchFirmware.Ble.PacketLayout
import WatchFirmware.Ble.PacketReceive

set_option autoImplicit false

namespace WatchFirmware.Ble

open Loop

namespace Sender

def queue (sender : Sender) : List BleMsg := sender.fifos.txFifo.contents

/-- The messages not sent in full, the one in `tx_ctx` first. -/
def pending (sender : Sender) : List BleMsg :=
  if sender.ctx.msgActive then sender.ctx.curMsg :: sender.queue else sender.queue

structure Wf (sender : Sender) : Prop where
  fits : sender.ctx.msgActive = true → sender.ctx.curMsg.Fits
  inside : sender.ctx.msgActive = true → 0 < sender.ctx.offset →
    sender.ctx.offset < sender.ctx.curMsg.size

def Fresh (sender : Sender) : Prop := sender.ctx.msgActive = true → sender.ctx.offset = 0

def layout (sender : Sender) : Layout :=
  if sender.ctx.msgActive ∧ 0 < sender.ctx.offset then
    ⟨sender.ctx.curMsg.size - sender.ctx.offset, sender.queue.map BleMsg.size⟩
  else ⟨0, sender.pending.map BleMsg.size⟩

theorem pending_same {one other : Sender} (ctx : one.ctx = other.ctx) (queue : one.queue = other.queue) :
    one.pending = other.pending := by
  rw [pending, pending, ctx, queue]

theorem layout_same {one other : Sender} (ctx : one.ctx = other.ctx) (queue : one.queue = other.queue) :
    one.layout = other.layout := by
  rw [layout, layout, pending_same ctx queue, ctx, queue]

theorem mem_pending {one other : Sender} {extra : BleMsg} (ctx : other.ctx = one.ctx)
    (queue : ∀ msg ∈ other.queue, msg ∈ one.queue ∨ msg = extra) :
    ∀ msg ∈ other.pending, msg ∈ one.pending ∨ msg = extra := by
  intro msg member
  rw [pending, ctx] at member
  rw [pending]
  cases active : one.ctx.msgActive with
  | false =>
      rw [active] at member
      exact queue msg member
  | true =>
      rw [active] at member
      rcases List.mem_cons.mp member with rfl | later
      · exact .inl List.mem_cons_self
      · exact (queue msg later).imp_left (List.mem_cons_of_mem _)

theorem pending_fits {sender : Sender} (wf : sender.Wf) : ∀ msg ∈ sender.pending, msg.Fits := by
  intro msg member
  simp only [pending] at member
  split at member
  next active =>
    rcases List.mem_cons.mp member with rfl | queued
    · exact wf.fits active
    · exact sender.fifos.txFifo.fits msg queued
  next => exact sender.fifos.txFifo.fits msg member

theorem layout_fresh {sender : Sender} (fresh : sender.Fresh) :
    sender.layout = ⟨0, sender.pending.map BleMsg.size⟩ := by
  rw [layout, if_neg]
  rintro ⟨active, positive⟩
  have := fresh active
  omega

end Sender

namespace TxLoop

def sender (loop : TxLoop) : Sender := ⟨loop.ctx, loop.fifos⟩

def measure (effectiveMtu : Nat) (loop : TxLoop) : Nat :=
  2 * (effectiveMtu - loop.buffer.length) + if loop.ctx.msgActive then 1 else 0

theorem writeChunk_eq {effectiveMtu : Nat} (loop : TxLoop) (small : effectiveMtu < 2 ^ 16)
    (room : loop.buffer.length ≤ effectiveMtu) (active : loop.ctx.msgActive = true)
    (fits : loop.ctx.curMsg.Fits) (order : loop.ctx.offset ≤ loop.ctx.curMsg.size) :
    loop.writeChunk effectiveMtu (loop.ctx.curMsg.size - loop.ctx.offset) =
      let chunk := min (loop.ctx.curMsg.size - loop.ctx.offset) (effectiveMtu - loop.buffer.length)
      some
        { buffer := loop.buffer ++ (loop.ctx.curMsg.data.drop loop.ctx.offset).take chunk
          ctx :=
            { curMsg := loop.ctx.curMsg
              offset := loop.ctx.offset + chunk
              msgActive := decide (loop.ctx.offset + chunk < loop.ctx.curMsg.size) }
          fifos := loop.fifos } := by
  have packet := sub16_eq room small
  have chunk (a b : Nat) : (if a < b then a else b) = min a b := by split <;> omega
  have size : loop.ctx.curMsg.size ≤ loop.ctx.curMsg.payload.length :=
    loop.ctx.curMsg.payload_length ▸ fits
  simp only [writeChunk, packet, chunk]
  rw [Memory.read_inside (by omega), Option.map_some, BleMsg.data_slice (by omega)]
  by_cases finished : loop.ctx.curMsg.size ≤ loop.ctx.offset +
      min (loop.ctx.curMsg.size - loop.ctx.offset) (effectiveMtu - loop.buffer.length)
  · simp [if_pos finished, Nat.not_lt.mpr finished]
  · simp [if_neg finished, Nat.lt_of_not_le finished, active]

def proceed (effectiveMtu : Nat) (loop : TxLoop) : Flow TxLoop :=
  if effectiveMtu ≤ loop.buffer.length then .exit loop else .again loop

theorem proceed_exits {effectiveMtu : Nat} {loop middle done : TxLoop}
    (round : loop.body effectiveMtu = some (middle.proceed effectiveMtu))
    (exits : Exits (body effectiveMtu) middle done) : Exits (body effectiveMtu) loop done := by
  rw [proceed] at round
  split at round
  next full =>
    have stop : middle.body effectiveMtu = some (.exit middle) := by
      rw [body, if_neg (Nat.not_lt.mpr full)]
    cases exits with
    | exit left =>
        rw [stop] at left
        cases left
        exact .exit round
    | again further _ =>
        rw [stop] at further
        cases further
  next => exact .again round exits

def started (effectiveMtu : Nat) (loop : TxLoop) : TxLoop :=
  let msg := loop.ctx.curMsg
  let chunk := min msg.size (effectiveMtu - loop.buffer.length - 4)
  { buffer := loop.buffer ++ msg.header ++ msg.data.take chunk
    ctx := { curMsg := msg, offset := chunk, msgActive := decide (chunk < msg.size) }
    fifos := loop.fifos }

theorem sendMessage_started {effectiveMtu : Nat} {loop : TxLoop} (small : effectiveMtu < 2 ^ 16)
    (room : loop.buffer.length + 4 ≤ effectiveMtu) (active : loop.ctx.msgActive = true)
    (fresh : loop.ctx.offset = 0) (fits : loop.ctx.curMsg.Fits) :
    loop.sendMessage effectiveMtu = some ((loop.started effectiveMtu).proceed effectiveMtu) := by
  have size := loop.ctx.curMsg.size_lt
  have packet : sub16 effectiveMtu loop.buffer.length = effectiveMtu - loop.buffer.length :=
    sub16_eq (by omega) small
  have message : sub16 loop.ctx.curMsg.size loop.ctx.offset =
      loop.ctx.curMsg.size - loop.ctx.offset := sub16_eq (by omega) (by omega)
  have wide : ¬ (loop.ctx.offset = 0 ∧ effectiveMtu - loop.buffer.length < 1 + bleHdrSize) := by
    simp only [bleHdrSize]
    omega
  have length : loop.writeHeader.buffer.length = loop.buffer.length + 4 := by
    simp [writeHeader]
  have written := writeChunk_eq loop.writeHeader small (by omega) active fits
    (show loop.ctx.offset ≤ loop.ctx.curMsg.size by omega)
  simp only [sendMessage, packet, message, if_neg wide, if_pos fresh]
  rw [show loop.ctx.curMsg = loop.writeHeader.ctx.curMsg from rfl,
    show loop.ctx.offset = loop.writeHeader.ctx.offset from rfl, written]
  simp only [Option.map_some, length]
  rw [show loop.writeHeader.ctx = loop.ctx from rfl, fresh]
  simp only [List.drop_zero, Nat.zero_add, Nat.sub_zero, ← Nat.sub_sub]
  rfl

def continued (effectiveMtu : Nat) (loop : TxLoop) : TxLoop :=
  let msg := loop.ctx.curMsg
  let chunk := min (msg.size - loop.ctx.offset) (effectiveMtu - loop.buffer.length)
  { buffer := loop.buffer ++ (msg.data.drop loop.ctx.offset).take chunk
    ctx :=
      { curMsg := msg
        offset := loop.ctx.offset + chunk
        msgActive := decide (loop.ctx.offset + chunk < msg.size) }
    fifos := loop.fifos }

theorem sendMessage_continued {effectiveMtu : Nat} {loop : TxLoop} (small : effectiveMtu < 2 ^ 16)
    (room : loop.buffer.length ≤ effectiveMtu) (active : loop.ctx.msgActive = true)
    (positive : 0 < loop.ctx.offset) (inside : loop.ctx.offset < loop.ctx.curMsg.size)
    (fits : loop.ctx.curMsg.Fits) :
    loop.sendMessage effectiveMtu = some ((loop.continued effectiveMtu).proceed effectiveMtu) := by
  have size := loop.ctx.curMsg.size_lt
  have message : sub16 loop.ctx.curMsg.size loop.ctx.offset =
      loop.ctx.curMsg.size - loop.ctx.offset := sub16_eq (by omega) (by omega)
  have notFresh : loop.ctx.offset ≠ 0 := by omega
  have written := writeChunk_eq loop small room active fits (Nat.le_of_lt inside)
  simp only [sendMessage, message, notFresh, false_and, if_false, written, Option.map_some]
  rfl

theorem pop_tx {fifos : BleFifos} {msg : BleMsg} {rest : List BleMsg}
    (waiting : fifos.txFifo.contents = msg :: rest) :
    ∃ after, getNextBleMsg fifos .tx = some (msg, after) ∧ after.txFifo.contents = rest ∧
      after.rxFifo = fifos.rxFifo := by
  obtain ⟨fifo, popped, left⟩ := BleFifo.pop_cons waiting
  exact ⟨setFifo fifos fifo .tx, by simp [getNextBleMsg, getFifo, popped], left, rfl⟩

theorem body_fresh {effectiveMtu : Nat} {loop : TxLoop} {msg : BleMsg} {rest : List BleMsg}
    (inside : loop.buffer.length < effectiveMtu) (fresh : loop.sender.Fresh)
    (waiting : loop.sender.pending = msg :: rest) :
    ∃ fifos : BleFifos, fifos.txFifo.contents = rest ∧ fifos.rxFifo = loop.fifos.rxFifo ∧
      loop.body effectiveMtu =
        TxLoop.sendMessage effectiveMtu ⟨loop.buffer, ⟨msg, 0, true⟩, fifos⟩ := by
  by_cases active : loop.ctx.msgActive = true
  · simp only [Sender.pending, sender, active, if_true, List.cons.injEq] at waiting
    refine ⟨loop.fifos, waiting.2, rfl, ?_⟩
    have same : loop.ctx = ⟨msg, 0, true⟩ := by
      rw [← waiting.1, ← active, ← fresh active]
      rfl
    rw [body, if_pos inside, if_pos active, ← same]
  · simp only [Sender.pending, sender, active] at waiting
    obtain ⟨fifos, popped, left, kept⟩ := pop_tx waiting
    refine ⟨fifos, left, kept, ?_⟩
    rw [body, if_pos inside, if_neg active]
    simp only [loadNext, popped, Option.map_some]

theorem body_idle {effectiveMtu : Nat} {loop : TxLoop} (empty : loop.sender.pending = []) :
    loop.body effectiveMtu = some (.exit loop) := by
  have inactive : loop.ctx.msgActive = false := by
    cases active : loop.ctx.msgActive with
    | false => rfl
    | true => simp [Sender.pending, sender, active] at empty
  have none : loop.loadNext = none := by
    simp only [Sender.pending, sender, inactive, Bool.false_eq_true, if_false] at empty
    simp only [loadNext, getNextBleMsg, getFifo, BleFifo.pop_none empty, Option.map_none]
  simp only [body, inactive, none, Bool.false_eq_true, if_false]
  split <;> rfl

theorem writeChunk_length {effectiveMtu remainingMsg : Nat} {loop next : TxLoop}
    (written : loop.writeChunk effectiveMtu remainingMsg = some next) :
    let chunk := min remainingMsg (sub16 effectiveMtu loop.buffer.length)
    next.buffer.length = loop.buffer.length + chunk ∧
      (loop.ctx.curMsg.size ≤ loop.ctx.offset + chunk → next.ctx.msgActive = false) := by
  have chunk (a b : Nat) : (if a < b then a else b) = min a b := by split <;> omega
  simp only [writeChunk, chunk] at written
  obtain ⟨bytes, found, rfl⟩ := Option.map_eq_some_iff.mp written
  obtain ⟨inside, rfl⟩ := Memory.read_some found
  refine ⟨?_, fun finished => if_pos finished⟩
  simp only [List.length_append, List.length_take, List.length_drop]
  omega

theorem sendMessage_again {effectiveMtu : Nat} {loop next : TxLoop} (small : effectiveMtu < 2 ^ 16)
    (inside : loop.buffer.length < effectiveMtu)
    (round : loop.sendMessage effectiveMtu = some (.again next)) :
    loop.buffer.length < next.buffer.length ∨
      (0 < loop.ctx.offset ∧ next.buffer.length = loop.buffer.length ∧ next.ctx.msgActive = false) := by
  have packet : sub16 effectiveMtu loop.buffer.length = effectiveMtu - loop.buffer.length :=
    sub16_eq (by omega) small
  simp only [sendMessage] at round
  split at round
  next => cases round
  next wide =>
    obtain ⟨written, chunk, same⟩ := Option.map_eq_some_iff.mp round
    have last : written = next := by
      split at same
      · cases same
      · exact Flow.again.inj same
    subst last
    have length := writeChunk_length chunk
    by_cases fresh : loop.ctx.offset = 0
    · left
      simp only [fresh, if_true, writeHeader, List.length_append, List.length_cons,
        List.length_nil] at length
      omega
    · simp only [fresh, if_false, packet] at length
      by_cases finished : sub16 loop.ctx.curMsg.size loop.ctx.offset = 0
      · -- Nothing remains of the message, so this pass only marks it complete.
        have size := loop.ctx.curMsg.size_lt
        have complete : loop.ctx.curMsg.size ≤ loop.ctx.offset := by
          simp only [sub16] at finished
          omega
        exact .inr ⟨by omega, by omega, length.2 (by omega)⟩
      · left
        omega

theorem body_decreasing {effectiveMtu : Nat} (small : effectiveMtu < 2 ^ 16) (loop next : TxLoop)
    (round : loop.body effectiveMtu = some (.again next)) :
    next.measure effectiveMtu < loop.measure effectiveMtu := by
  rw [body] at round
  split at round
  next inside =>
    split at round
    next active =>
      rw [measure, measure, if_pos active]
      rcases sendMessage_again small inside round with grown | ⟨_, same, idle⟩
      · split <;> omega
      · rw [if_neg (by simp [idle])]
        omega
    next inactive =>
      split at round
      next => cases round
      next loaded taken =>
        obtain ⟨⟨msg, fifos⟩, _, rfl⟩ := Option.map_eq_some_iff.mp taken
        let first : TxLoop := ⟨loop.buffer, ⟨msg, 0, true⟩, fifos⟩
        have sends : first.sendMessage effectiveMtu = some (.again next) := round
        rw [measure, measure, if_neg inactive]
        have room : first.buffer.length < effectiveMtu := inside
        rcases sendMessage_again small room sends with grown | ⟨positive, _⟩
        · simp only [first] at grown
          split <;> omega
        · cases positive
  next => cases round

end TxLoop

theorem bleBuildNextPacket_exits {effectiveMtu : Nat} {sender : Sender} {done : TxLoop}
    (small : effectiveMtu < 2 ^ 16)
    (exits : Exits (TxLoop.body effectiveMtu)
      ⟨[if sender.ctx.msgActive then 1 else 0], sender.ctx, sender.fifos⟩ done) :
    bleBuildNextPacket effectiveMtu sender =
      some (decide (1 < done.buffer.length), done.buffer, done.sender) := by
  have enough : TxLoop.measure effectiveMtu
      ⟨[if sender.ctx.msgActive then 1 else 0], sender.ctx, sender.fifos⟩ < 2 * effectiveMtu + 2 := by
    simp only [TxLoop.measure, List.length_singleton]
    split <;> omega
  simp only [bleBuildNextPacket,
    loop_of_exits (TxLoop.body_decreasing small) exits enough, Option.map_some, TxLoop.sender]

end WatchFirmware.Ble
