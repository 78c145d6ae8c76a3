import WatchFirmware.Ble.PacketSend

set_option autoImplicit false

namespace WatchFirmware.Ble

open Loop

def Sync (tx : TxCtx) (rx : RxCtx) : Prop :=
  if tx.msgActive = true ∧ 0 < tx.offset then Receiving rx tx.curMsg.hdr (tx.curMsg.data.take tx.offset)
  else rx.msgActive = false

/-- A header went out in the last bytes of a packet, and the sender has forgotten that it did. -/
structure Skewed (tx : TxCtx) (rx : RxCtx) : Prop where
  active : tx.msgActive = true
  offset_eq : tx.offset = 0
  nonempty : 0 < tx.curMsg.size
  receiving : Receiving rx tx.curMsg.hdr []

/-- What `done` makes of the messages pending at `loop`, by the sender and by a receiver that
reads the finished packet from the same byte on. -/
structure Filled (effectiveMtu : Nat) (loop done : TxLoop) (sent : List BleMsg) : Prop where
  exits : Exits (TxLoop.body effectiveMtu) loop done
  wf : done.sender.Wf
  bound : done.buffer.length ≤ effectiveMtu
  kept : done.fifos.rxFifo = loop.fifos.rxFifo
  grown : loop.buffer <+: done.buffer
  pending_eq : loop.sender.pending = sent ++ done.sender.pending
  layout_eq : headerEndsPacket (effectiveMtu - loop.buffer.length)
      (loop.sender.pending.map BleMsg.size) = false →
    done.sender.layout = fillPacket (effectiveMtu - loop.buffer.length)
      (loop.sender.pending.map BleMsg.size)
  received : ∀ rx : RxLoop, rx.i = loop.buffer.length → rx.ctx.Idle →
    ∃ ctx got, Exits (RxLoop.body done.buffer) rx ⟨done.buffer.length, ctx, rx.queued ++ got⟩ ∧
      got.map BleMsg.view = sent.map BleMsg.view ∧
      if headerEndsPacket (effectiveMtu - loop.buffer.length)
          (loop.sender.pending.map BleMsg.size) = true then Skewed done.ctx ctx
      else Sync done.ctx ctx

theorem receiver_stops (pkt : List Byte) (rx : RxLoop) (finished : rx.i = pkt.length) :
    Exits (RxLoop.body pkt) rx ⟨pkt.length, rx.ctx, rx.queued ++ []⟩ := by
  refine .exit ?_
  rw [RxLoop.body, if_neg (by omega), List.append_nil, ← finished]

theorem filled_stop {effectiveMtu : Nat} {loop done : TxLoop} (wf : done.sender.Wf)
    (fresh : done.sender.Fresh) (bound : loop.buffer.length ≤ effectiveMtu)
    (stop : loop.body effectiveMtu = some (.exit done)) (buffer : done.buffer = loop.buffer)
    (pending : done.sender.pending = loop.sender.pending) (kept : done.fifos.rxFifo = loop.fifos.rxFifo)
    (ends : headerEndsPacket (effectiveMtu - loop.buffer.length)
      (loop.sender.pending.map BleMsg.size) = false)
    (layout : fillPacket (effectiveMtu - loop.buffer.length)
      (loop.sender.pending.map BleMsg.size) = ⟨0, loop.sender.pending.map BleMsg.size⟩) :
    Filled effectiveMtu loop done [] where
  exits := .exit stop
  wf := wf
  bound := buffer ▸ bound
  kept := kept
  grown := buffer ▸ List.prefix_rfl
  pending_eq := pending.symm
  layout_eq := fun _ => by rw [layout, Sender.layout_fresh fresh, pending]
  received := by
    intro rx position idle
    refine ⟨rx.ctx, [], receiver_stops _ _ (buffer ▸ position), rfl, ?_⟩
    rw [ends, if_neg (by simp), Sync, if_neg]
    · exact idle.2
    · rintro ⟨active, positive⟩
      have := fresh active
      simp only [TxLoop.sender] at this
      omega

theorem filled_message {effectiveMtu : Nat} {loop middle done : TxLoop} {msg : BleMsg}
    {sent : List BleMsg} (small : effectiveMtu < 2 ^ 16) (fits : msg.Fits)
    (room : loop.buffer.length + 4 + msg.size ≤ effectiveMtu)
    (round : loop.body effectiveMtu = some (middle.proceed effectiveMtu))
    (buffer : middle.buffer = loop.buffer ++ msg.frame)
    (pending : loop.sender.pending = msg :: middle.sender.pending)
    (kept : middle.fifos.rxFifo = loop.fifos.rxFifo)
    (filled : Filled effectiveMtu middle done sent) : Filled effectiveMtu loop done (msg :: sent) := by
  have length : middle.buffer.length = loop.buffer.length + 4 + msg.size := by
    rw [buffer, List.length_append, BleMsg.frame_length fits, Nat.add_assoc]
  have rest : effectiveMtu - loop.buffer.length - 4 - msg.size = effectiveMtu - middle.buffer.length := by
    omega
  have ends : headerEndsPacket (effectiveMtu - loop.buffer.length)
      (loop.sender.pending.map BleMsg.size) =
        headerEndsPacket (effectiveMtu - middle.buffer.length)
          (middle.sender.pending.map BleMsg.size) := by
    rw [pending, List.map_cons, headerEndsPacket, if_neg (by omega), if_pos (by omega), rest]
  have layout : fillPacket (effectiveMtu - loop.buffer.length)
      (loop.sender.pending.map BleMsg.size) =
        fillPacket (effectiveMtu - middle.buffer.length) (middle.sender.pending.map BleMsg.size) := by
    rw [pending, List.map_cons, fillPacket, if_neg (by omega), if_pos (by omega), rest]
  exact
    { exits := TxLoop.proceed_exits round filled.exits
      wf := filled.wf
      bound := filled.bound
      kept := filled.kept.trans kept
      grown := (buffer ▸ List.prefix_append _ _).trans filled.grown
      pending_eq := by rw [pending, filled.pending_eq, List.cons_append]
      layout_eq := by rw [ends, layout]; exact filled.layout_eq
      received := by
        intro rx position idle
        obtain ⟨more, grown⟩ := filled.grown
        have ahead : done.buffer.drop rx.i = msg.frame ++ more := by
          rw [← grown, buffer, position, List.append_assoc, List.drop_left]
        obtain ⟨first, ctx, view, settled, forward⟩ := RxLoop.frame_complete
          (Nat.lt_of_le_of_lt filled.bound small) fits idle.1 ahead
        obtain ⟨after, got, exits, views, synced⟩ := filled.received
          ⟨rx.i + msg.frame.length, ctx, rx.queued ++ [first]⟩
          (by rw [position, buffer, List.length_append]) settled
        refine ⟨after, first :: got, forward _ ?_, ?_, ?_⟩
        · simpa using exits
        · rw [List.map_cons, List.map_cons, view, views]
        · rw [ends]
          exact synced }

theorem filled_partial {effectiveMtu : Nat} {loop done : TxLoop} {msg : BleMsg}
    (small : effectiveMtu < 2 ^ 16) (fits : msg.Fits)
    (header : loop.buffer.length + 4 ≤ effectiveMtu)
    (long : effectiveMtu < loop.buffer.length + 4 + msg.size)
    (stop : loop.body effectiveMtu = some (.exit done))
    (buffer : done.buffer = loop.buffer ++ msg.header ++
      msg.data.take (effectiveMtu - loop.buffer.length - 4))
    (ctx : done.ctx = ⟨msg, effectiveMtu - loop.buffer.length - 4, true⟩)
    (pending : loop.sender.pending = done.sender.pending)
    (kept : done.fifos.rxFifo = loop.fifos.rxFifo) : Filled effectiveMtu loop done [] := by
  have size := BleMsg.data_length fits
  have taken : (msg.data.take (effectiveMtu - loop.buffer.length - 4)).length =
      effectiveMtu - loop.buffer.length - 4 := by
    rw [List.length_take, size]
    omega
  have length : done.buffer.length = effectiveMtu := by
    rw [buffer, List.length_append, List.length_append, BleMsg.header_length, taken]
    omega
  have sizes : loop.sender.pending.map BleMsg.size = msg.size :: done.sender.queue.map BleMsg.size := by
    rw [pending]
    simp [Sender.pending, TxLoop.sender, ctx]
  have ends : headerEndsPacket (effectiveMtu - loop.buffer.length)
      (loop.sender.pending.map BleMsg.size) = (effectiveMtu - loop.buffer.length == 4) := by
    rw [sizes, headerEndsPacket, if_neg (by omega), if_neg (by omega)]
  refine
    { exits := .exit stop
      wf := ⟨fun _ => ?_, fun _ _ => ?_⟩
      bound := Nat.le_of_eq length
      kept := kept
      grown := ?_
      pending_eq := pending
      layout_eq := ?_
      received := ?_ }
  · simpa only [TxLoop.sender, ctx] using fits
  · simp only [TxLoop.sender, ctx]
    omega
  · rw [buffer, List.append_assoc]
    exact List.prefix_append _ _
  · intro inner
    rw [ends, beq_eq_false_iff_ne] at inner
    rw [sizes, fillPacket, if_neg (by omega), if_neg (by omega), Sender.layout, if_pos]
    · simp only [TxLoop.sender, ctx]
    · simp only [TxLoop.sender, ctx, true_and]
      omega
  · intro rx position idle
    have ahead : done.buffer.drop rx.i =
        msg.header ++ msg.data.take (effectiveMtu - loop.buffer.length - 4) := by
      rw [buffer, position, List.append_assoc, List.drop_left]
    obtain ⟨after, receiving, exits⟩ := RxLoop.frame_partial (by omega) fits idle.1 ahead (by omega)
    refine ⟨after, [], by simpa using exits, rfl, ?_⟩
    rw [ends]
    by_cases edge : effectiveMtu - loop.buffer.length = 4
    · rw [if_pos (by simp [edge])]
      have none : effectiveMtu - loop.buffer.length - 4 = 0 := by omega
      rw [none] at receiving ctx
      exact ⟨by rw [ctx], by rw [ctx], by rw [ctx]; show 0 < msg.size; omega,
        by rw [ctx]; simpa using receiving⟩
    · rw [if_neg (by simpa using edge), Sync, if_pos]
      · rw [ctx]
        exact receiving
      · rw [ctx]
        exact ⟨rfl, show 0 < effectiveMtu - loop.buffer.length - 4 by omega⟩

theorem fill {effectiveMtu : Nat} (small : effectiveMtu < 2 ^ 16) (msgs : List BleMsg) (loop : TxLoop)
    (pending : loop.sender.pending = msgs) (fresh : loop.sender.Fresh) (wf : loop.sender.Wf)
    (bound : loop.buffer.length ≤ effectiveMtu) :
    ∃ done sent, Filled effectiveMtu loop done sent := by
  induction msgs generalizing loop with
  | nil =>
      refine ⟨loop, [], filled_stop wf fresh bound (TxLoop.body_idle pending) rfl rfl rfl ?_ ?_⟩
      · rw [pending]
        rfl
      · rw [pending]
        rfl
  | cons msg rest ih =>
      have fits : msg.Fits := Sender.pending_fits wf msg (by simp [pending])
      by_cases full : loop.buffer.length = effectiveMtu
      · have stop : loop.body effectiveMtu = some (.exit loop) := by
          rw [TxLoop.body, if_neg (by omega)]
        refine ⟨loop, [], filled_stop wf fresh bound stop rfl rfl rfl ?_ ?_⟩
        · rw [full, Nat.sub_self, headerEndsPacket_full]
        · rw [full, Nat.sub_self, fillPacket_full]
      · have inside : loop.buffer.length < effectiveMtu := by omega
        obtain ⟨fifos, left, kept, round⟩ := TxLoop.body_fresh inside fresh pending
        let loaded : TxLoop := ⟨loop.buffer, ⟨msg, 0, true⟩, fifos⟩
        have held : loaded.sender.pending = loop.sender.pending := by
          rw [pending]
          simp [loaded, TxLoop.sender, Sender.pending, Sender.queue, left]
        by_cases header : loop.buffer.length + 4 ≤ effectiveMtu
        · have sends : loaded.sendMessage effectiveMtu =
              some ((loaded.started effectiveMtu).proceed effectiveMtu) :=
            TxLoop.sendMessage_started small header rfl rfl fits
          rw [sends] at round
          by_cases whole : loop.buffer.length + 4 + msg.size ≤ effectiveMtu
          · -- The message fits in whole, and the rest of the packet is the induction's.
            let middle := loaded.started effectiveMtu
            have chunk : min msg.size (effectiveMtu - loop.buffer.length - 4) = msg.size := by omega
            have buffer : middle.buffer = loop.buffer ++ msg.frame := by
              simp only [middle, loaded, TxLoop.started, chunk, BleMsg.frame, List.append_assoc]
              rw [List.take_of_length_le (Nat.le_of_eq (BleMsg.data_length fits))]
            have inactive : middle.ctx.msgActive = false := by
              simp [middle, loaded, TxLoop.started, chunk]
            have remaining : middle.sender.pending = rest := by
              rw [Sender.pending, if_neg (by simp [TxLoop.sender, inactive])]
              exact left
            obtain ⟨done, sent, filled⟩ := ih middle remaining
              (fun active => by simp [TxLoop.sender, inactive] at active)
              ⟨fun active => by simp [TxLoop.sender, inactive] at active,
                fun active => by simp [TxLoop.sender, inactive] at active⟩
              (by rw [buffer, List.length_append, BleMsg.frame_length fits]; omega)
            exact ⟨done, msg :: sent, filled_message small fits whole round buffer
              (by rw [pending, remaining]) kept filled⟩
          · have chunk : min msg.size (effectiveMtu - loop.buffer.length - 4) =
                effectiveMtu - loop.buffer.length - 4 := by omega
            have size := BleMsg.data_length fits
            have length : (loaded.started effectiveMtu).buffer.length = effectiveMtu := by
              simp only [loaded, TxLoop.started, chunk, List.length_append, BleMsg.header_length,
                List.length_take, size]
              omega
            have ctx : (loaded.started effectiveMtu).ctx =
                ⟨msg, effectiveMtu - loop.buffer.length - 4, true⟩ := by
              have short : effectiveMtu - loop.buffer.length - 4 < msg.size := by omega
              simp [loaded, TxLoop.started, chunk, short]
            rw [TxLoop.proceed, if_pos (Nat.le_of_eq length.symm)] at round
            have buffer : (loaded.started effectiveMtu).buffer = loop.buffer ++ msg.header ++
                msg.data.take (effectiveMtu - loop.buffer.length - 4) := by
              rw [← chunk]
              rfl
            have same : loaded.sender.pending = (loaded.started effectiveMtu).sender.pending := by
              simp only [Sender.pending, TxLoop.sender, ctx]
              rfl
            exact ⟨_, [], filled_partial small fits header (by omega) round buffer ctx
              (held.symm.trans same) kept⟩
        · have stop : loop.body effectiveMtu = some (.exit loaded) := by
            have packet : sub16 effectiveMtu loop.buffer.length =
                effectiveMtu - loop.buffer.length := sub16_eq bound small
            rw [round, TxLoop.sendMessage, if_pos]
            exact ⟨rfl, by rw [packet]; simp only [bleHdrSize]; omega⟩
          refine ⟨loaded, [], filled_stop ⟨fun _ => fits, fun _ positive => ?_⟩ (fun _ => rfl) bound stop
            rfl held kept ?_ ?_⟩
          · exact absurd positive (Nat.lt_irrefl 0)
          · rw [pending, List.map_cons, headerEndsPacket, if_pos (by omega)]
          · rw [pending, List.map_cons, fillPacket, if_pos (by omega)]

def continuation (tx : TxCtx) : Byte := if tx.msgActive then 1 else 0

/-- One call of `bleBuildNextPacket`, for the sender and for any receiver that was in step with it. -/
structure Packet (effectiveMtu : Nat) (sender after : Sender) (pkt : List Byte)
    (sent : List BleMsg) : Prop where
  built : bleBuildNextPacket effectiveMtu sender = some (decide (1 < pkt.length), pkt, after)
  start : [continuation sender.ctx] <+: pkt
  bound : pkt.length < 2 ^ 16
  wf : after.Wf
  kept : after.fifos.rxFifo = sender.fifos.rxFifo
  pending_eq : sender.pending = sent ++ after.pending
  layout_eq : sender.layout.headerEnds (effectiveMtu - 1) = false →
    after.layout = sender.layout.next (effectiveMtu - 1)
  received : ∀ rx : RxCtx, (sender.ctx.msgActive = true → Sync sender.ctx rx) →
    ∃ ctx got, bleRetrievePacket pkt rx = some (ctx, got) ∧
      got.map BleMsg.view = sent.map BleMsg.view ∧
      if sender.layout.headerEnds (effectiveMtu - 1) = true then Skewed after.ctx ctx
      else Sync after.ctx ctx

theorem retrieve_exits {pkt : List Byte} (flag : Byte) {ctx : RxCtx} {done : RxLoop}
    (start : [flag] <+: pkt) (small : pkt.length < 2 ^ 16)
    (exits : Exits (RxLoop.body pkt) ⟨1, handleContinuation flag ctx, []⟩ done) :
    bleRetrievePacket pkt ctx = some (done.ctx, done.queued) := by
  obtain ⟨bytes, rfl⟩ := start
  exact bleRetrievePacket_exits (by simpa using small) exits

theorem handleContinuation_idle {sender : Sender} {rx : RxCtx} (fresh : sender.Fresh)
    (synced : sender.ctx.msgActive = true → Sync sender.ctx rx) :
    (handleContinuation (continuation sender.ctx) rx).Idle := by
  cases active : sender.ctx.msgActive with
  | false => simp [continuation, active, handleContinuation, rxResetContext, RxCtx.Idle]
  | true =>
      have idle := synced active
      rw [Sync, if_neg (by simp [fresh active])] at idle
      simp [continuation, active, handleContinuation, idle, RxCtx.Idle]

theorem Receiving.continues {rx : RxCtx} {hdr : BleMsgHdr} {got : List Byte}
    (receiving : Receiving rx hdr got) : handleContinuation 1 rx = rx := by
  simp [handleContinuation, receiving.active]

theorem packet_narrow {effectiveMtu : Nat} {sender : Sender} (narrow : effectiveMtu ≤ 1)
    (wf : sender.Wf) : Packet effectiveMtu sender sender [continuation sender.ctx] [] := by
  have exits : Exits (TxLoop.body effectiveMtu)
      ⟨[continuation sender.ctx], sender.ctx, sender.fifos⟩
      ⟨[continuation sender.ctx], sender.ctx, sender.fifos⟩ := by
    refine .exit ?_
    rw [TxLoop.body, if_neg]
    simpa using narrow
  have room : effectiveMtu - 1 = 0 := by omega
  have ends : sender.layout.headerEnds (effectiveMtu - 1) = false := by
    rw [room, Layout.headerEnds]
    simp [headerEndsPacket_full]
  exact
    { built := bleBuildNextPacket_exits (by omega) exits
      start := List.prefix_rfl
      bound := by simp
      wf := wf
      kept := rfl
      pending_eq := rfl
      layout_eq := fun _ => by
        rw [room, Layout.next, Nat.sub_zero, Nat.zero_sub, fillPacket_full]
        split
        next none => rw [← Nat.le_zero.mp none]
        next => rfl
      received := by
        intro rx synced
        refine ⟨handleContinuation (continuation sender.ctx) rx, [],
          retrieve_exits _ List.prefix_rfl (by simp) (receiver_stops _ _ rfl), rfl, ?_⟩
        rw [if_neg (by simp [ends])]
        by_cases fresh : sender.Fresh
        · rw [Sync, if_neg]
          · exact (handleContinuation_idle fresh synced).2
          · rintro ⟨active, positive⟩
            have := fresh active
            omega
        · obtain ⟨active, started⟩ : sender.ctx.msgActive = true ∧ sender.ctx.offset ≠ 0 := by
            simpa [Sender.Fresh] using fresh
          have receiving := synced active
          have running : sender.ctx.msgActive = true ∧ 0 < sender.ctx.offset := ⟨active, by omega⟩
          rw [Sync, if_pos running] at receiving ⊢
          rw [continuation, if_pos active, receiving.continues]
          exact receiving }

theorem packet_fresh {effectiveMtu : Nat} {sender : Sender} (small : effectiveMtu < 2 ^ 16)
    (wide : 1 < effectiveMtu) (wf : sender.Wf) (fresh : sender.Fresh) :
    ∃ after pkt sent, Packet effectiveMtu sender after pkt sent := by
  let loop : TxLoop := ⟨[continuation sender.ctx], sender.ctx, sender.fifos⟩
  obtain ⟨done, sent, filled⟩ := fill small sender.pending loop rfl fresh wf
    (by simp [loop]; omega)
  have layout := Sender.layout_fresh fresh
  have ends : sender.layout.headerEnds (effectiveMtu - 1) =
      headerEndsPacket (effectiveMtu - loop.buffer.length) (loop.sender.pending.map BleMsg.size) := by
    rw [layout]
    simp [Layout.headerEnds, loop, TxLoop.sender]
  refine ⟨done.sender, done.buffer, sent, ?_⟩
  exact
    { built := bleBuildNextPacket_exits small filled.exits
      start := filled.grown
      bound := Nat.lt_of_le_of_lt filled.bound small
      wf := filled.wf
      kept := filled.kept
      pending_eq := filled.pending_eq
      layout_eq := fun inner => by
        rw [filled.layout_eq (ends ▸ inner), layout]
        simp [Layout.next, loop, TxLoop.sender]
      received := by
        intro rx synced
        obtain ⟨ctx, got, exits, views, settled⟩ := filled.received
          ⟨1, handleContinuation (continuation sender.ctx) rx, []⟩ rfl
          (handleContinuation_idle fresh synced)
        have length := filled.bound
        exact ⟨ctx, got, retrieve_exits _ filled.grown (by omega) exits, views, ends ▸ settled⟩ }


theorem packet_owing {effectiveMtu : Nat} {sender : Sender} (small : effectiveMtu < 2 ^ 16)
    (wide : 1 < effectiveMtu) (wf : sender.Wf) (active : sender.ctx.msgActive = true)
    (positive : 0 < sender.ctx.offset)
    (long : effectiveMtu - 1 < sender.ctx.curMsg.size - sender.ctx.offset) :
    ∃ after pkt sent, Packet effectiveMtu sender after pkt sent := by
  let loop : TxLoop := ⟨[continuation sender.ctx], sender.ctx, sender.fifos⟩
  let done := loop.continued effectiveMtu
  have fits := wf.fits active
  have size := BleMsg.data_length fits
  have flag : continuation sender.ctx = 1 := if_pos active
  have chunk : min (sender.ctx.curMsg.size - sender.ctx.offset) (effectiveMtu - loop.buffer.length) =
      effectiveMtu - 1 := by
    simp only [loop, List.length_singleton]
    omega
  have buffer : done.buffer =
      [1] ++ (sender.ctx.curMsg.data.drop sender.ctx.offset).take (effectiveMtu - 1) := by
    have filled : done.buffer = [continuation sender.ctx] ++
        (sender.ctx.curMsg.data.drop sender.ctx.offset).take
          (min (sender.ctx.curMsg.size - sender.ctx.offset) (effectiveMtu - loop.buffer.length)) := rfl
    rw [filled, chunk, flag]
  have ctx : done.ctx = ⟨sender.ctx.curMsg, sender.ctx.offset + (effectiveMtu - 1), true⟩ := by
    have short : sender.ctx.offset + (effectiveMtu - 1) < sender.ctx.curMsg.size := by omega
    simp only [done, TxLoop.continued, chunk, loop, short, decide_true]
  have length : done.buffer.length = effectiveMtu := by
    rw [buffer, List.length_append, List.length_take, List.length_drop, size, List.length_singleton]
    omega
  have sends : loop.body effectiveMtu = some (.exit done) := by
    have room : loop.buffer.length < effectiveMtu := by simpa [loop] using wide
    have continues : loop.sendMessage effectiveMtu = some (done.proceed effectiveMtu) :=
      TxLoop.sendMessage_continued small (Nat.le_of_lt room) active positive
        (wf.inside active positive) fits
    rw [TxLoop.body, if_pos room, if_pos (show loop.ctx.msgActive = true from active), continues,
      TxLoop.proceed, if_pos (Nat.le_of_eq length.symm)]
  have layout : sender.layout = ⟨sender.ctx.curMsg.size - sender.ctx.offset,
      sender.queue.map BleMsg.size⟩ := if_pos ⟨active, positive⟩
  have unfinished : ¬ sender.layout.owed ≤ effectiveMtu - 1 := by
    simp only [layout]
    omega
  have ends : sender.layout.headerEnds (effectiveMtu - 1) = false := if_neg unfinished
  refine ⟨done.sender, done.buffer, [], ?_⟩
  exact
    { built := bleBuildNextPacket_exits small (.exit sends)
      start := by rw [flag, buffer]; exact List.prefix_append _ _
      bound := length ▸ small
      wf := ⟨fun _ => by rw [TxLoop.sender, ctx]; exact fits, fun _ _ => by
        simp only [TxLoop.sender, ctx]
        omega⟩
      kept := rfl
      pending_eq := by
        simp only [Sender.pending, active, TxLoop.sender, ctx]
        rfl
      layout_eq := fun _ => by
        rw [Layout.next, if_neg unfinished, layout, Sender.layout, if_pos]
        · simp only [TxLoop.sender, ctx, Nat.sub_sub]
          rfl
        · simp only [TxLoop.sender, ctx, true_and]
          omega
      received := by
        intro rx synced
        have receiving := synced active
        rw [Sync, if_pos ⟨active, positive⟩] at receiving
        have started : (sender.ctx.curMsg.data.take sender.ctx.offset).length = sender.ctx.offset := by
          rw [List.length_take, size]
          omega
        have more : ((sender.ctx.curMsg.data.drop sender.ctx.offset).take (effectiveMtu - 1)).length =
            effectiveMtu - 1 := by
          rw [List.length_take, List.length_drop, size]
          omega
        have short : (sender.ctx.curMsg.data.take sender.ctx.offset).length +
            ((sender.ctx.curMsg.data.drop sender.ctx.offset).take (effectiveMtu - 1)).length <
              sender.ctx.curMsg.hdr.len.toNat := by
          rw [started, more, ← BleMsg.size]
          omega
        have ahead : done.buffer.drop 1 =
            (sender.ctx.curMsg.data.drop sender.ctx.offset).take (effectiveMtu - 1) := by
          rw [buffer]
          rfl
        have begins : [1] <+: done.buffer := by
          rw [buffer]
          exact List.prefix_append _ _
        have inside : done.buffer.length < 2 ^ 16 := length ▸ small
        obtain ⟨after, further, exits⟩ := RxLoop.payload_partial ⟨1, rx, []⟩ inside receiving
          (show 1 ≤ done.buffer.length by omega) ahead short
        refine ⟨after, [], retrieve_exits 1 begins inside (receiving.continues.symm ▸ exits), rfl, ?_⟩
        rw [if_neg (by simp [ends]), Sync, if_pos]
        · rw [TxLoop.sender, ctx, List.take_add]
          exact further
        · simp only [TxLoop.sender, ctx, true_and]
          omega }

theorem packet_settling {effectiveMtu : Nat} {sender : Sender} (small : effectiveMtu < 2 ^ 16)
    (wide : 1 < effectiveMtu) (wf : sender.Wf) (active : sender.ctx.msgActive = true)
    (positive : 0 < sender.ctx.offset)
    (short : sender.ctx.curMsg.size - sender.ctx.offset ≤ effectiveMtu - 1) :
    ∃ after pkt sent, Packet effectiveMtu sender after pkt sent := by
  let loop : TxLoop := ⟨[continuation sender.ctx], sender.ctx, sender.fifos⟩
  let middle := loop.continued effectiveMtu
  have fits := wf.fits active
  have inside := wf.inside active positive
  have size := BleMsg.data_length fits
  have flag : continuation sender.ctx = 1 := if_pos active
  have chunk : min (sender.ctx.curMsg.size - sender.ctx.offset) (effectiveMtu - loop.buffer.length) =
      sender.ctx.curMsg.size - sender.ctx.offset := by
    simp only [loop, List.length_singleton]
    omega
  have buffer : middle.buffer = [1] ++ sender.ctx.curMsg.data.drop sender.ctx.offset := by
    have all : (sender.ctx.curMsg.data.drop sender.ctx.offset).take
        (sender.ctx.curMsg.size - sender.ctx.offset) = sender.ctx.curMsg.data.drop sender.ctx.offset := by
      rw [List.take_of_length_le]
      rw [List.length_drop, size]
    have filled : middle.buffer = [continuation sender.ctx] ++
        (sender.ctx.curMsg.data.drop sender.ctx.offset).take
          (min (sender.ctx.curMsg.size - sender.ctx.offset) (effectiveMtu - loop.buffer.length)) := rfl
    rw [filled, chunk, flag, all]
  have length : middle.buffer.length = 1 + (sender.ctx.curMsg.size - sender.ctx.offset) := by
    rw [buffer, List.length_append, List.length_drop, size, List.length_singleton]
  have inactive : middle.ctx.msgActive = false := by
    have full : ¬ sender.ctx.offset + (sender.ctx.curMsg.size - sender.ctx.offset) <
        sender.ctx.curMsg.size := by omega
    simp only [middle, TxLoop.continued, chunk, loop, full, decide_false]
  have pending : middle.sender.pending = sender.queue := by
    rw [Sender.pending, if_neg (by simp [TxLoop.sender, inactive])]
    rfl
  have round : loop.body effectiveMtu = some (middle.proceed effectiveMtu) := by
    have room : loop.buffer.length < effectiveMtu := by simpa [loop] using wide
    have continues : loop.sendMessage effectiveMtu = some (middle.proceed effectiveMtu) :=
      TxLoop.sendMessage_continued small (Nat.le_of_lt room) active positive inside fits
    rw [TxLoop.body, if_pos room, if_pos (show loop.ctx.msgActive = true from active), continues]
  obtain ⟨done, sent, filled⟩ := fill small sender.queue middle pending
    (fun started => by simp [TxLoop.sender, inactive] at started)
    ⟨fun started => by simp [TxLoop.sender, inactive] at started,
      fun started => by simp [TxLoop.sender, inactive] at started⟩
    (by omega)
  have layout : sender.layout = ⟨sender.ctx.curMsg.size - sender.ctx.offset,
      sender.queue.map BleMsg.size⟩ := if_pos ⟨active, positive⟩
  have rest : effectiveMtu - 1 - sender.layout.owed = effectiveMtu - middle.buffer.length := by
    simp only [layout, length]
    omega
  have owed : sender.layout.owed ≤ effectiveMtu - 1 := by
    rw [layout]
    exact short
  have ends : sender.layout.headerEnds (effectiveMtu - 1) =
      headerEndsPacket (effectiveMtu - middle.buffer.length) (middle.sender.pending.map BleMsg.size) := by
    rw [Layout.headerEnds, if_pos owed, rest, pending, layout]
  obtain ⟨more, grown⟩ := filled.grown
  refine ⟨done.sender, done.buffer, sender.ctx.curMsg :: sent, ?_⟩
  exact
    { built := bleBuildNextPacket_exits small (TxLoop.proceed_exits round filled.exits)
      start := by
        rw [flag, ← grown, buffer, List.append_assoc]
        exact List.prefix_append _ _
      bound := Nat.lt_of_le_of_lt filled.bound small
      wf := filled.wf
      kept := filled.kept
      pending_eq := by
        rw [Sender.pending, if_pos active, ← pending, filled.pending_eq, List.cons_append]
      layout_eq := fun inner => by
        rw [filled.layout_eq (ends ▸ inner), Layout.next, if_pos owed, rest, pending, layout]
      received := by
        intro rx synced
        have receiving := synced active
        rw [Sync, if_pos ⟨active, positive⟩] at receiving
        have inside : done.buffer.length < 2 ^ 16 := Nat.lt_of_le_of_lt filled.bound small
        have begins : [1] <+: done.buffer := by
          rw [← grown, buffer, List.append_assoc]
          exact List.prefix_append _ _
        have ahead : done.buffer.drop 1 = sender.ctx.curMsg.data.drop sender.ctx.offset ++ more := by
          rw [← grown, buffer]
          rfl
        have nonempty : sender.ctx.curMsg.data.drop sender.ctx.offset ≠ [] := by
          intro none
          have empty := congrArg List.length none
          rw [List.length_drop, size, List.length_nil] at empty
          omega
        have full : (sender.ctx.curMsg.data.take sender.ctx.offset).length +
            (sender.ctx.curMsg.data.drop sender.ctx.offset).length =
              sender.ctx.curMsg.hdr.len.toNat := by
          rw [← List.length_append, List.take_append_drop, size, BleMsg.size]
        obtain ⟨msg, ctx, view, idle, step⟩ := RxLoop.payload_complete ⟨1, rx, []⟩ inside
          receiving ahead nonempty full
        rw [List.take_append_drop] at view
        obtain ⟨after, got, exits, views, settled⟩ := filled.received
          ⟨1 + (sender.ctx.curMsg.data.drop sender.ctx.offset).length, ctx, [msg]⟩
          (by rw [length, List.length_drop, size]) idle
        have whole : Exits (RxLoop.body done.buffer) ⟨1, handleContinuation 1 rx, []⟩
            ⟨done.buffer.length, after, msg :: got⟩ := by
          rw [receiving.continues]
          exact .again step exits
        refine ⟨after, msg :: got, retrieve_exits 1 begins inside whole, ?_, ends ▸ settled⟩
        · rw [List.map_cons, List.map_cons, view, views]
          rfl }

theorem packet {effectiveMtu : Nat} (small : effectiveMtu < 2 ^ 16) {sender : Sender}
    (wf : sender.Wf) : ∃ after pkt sent, Packet effectiveMtu sender after pkt sent := by
  by_cases narrow : effectiveMtu ≤ 1
  · exact ⟨_, _, _, packet_narrow narrow wf⟩
  have wide := Nat.lt_of_not_le narrow
  by_cases fresh : sender.Fresh
  · exact packet_fresh small wide wf fresh
  · obtain ⟨active, started⟩ : sender.ctx.msgActive = true ∧ sender.ctx.offset ≠ 0 := by
      simpa [Sender.Fresh] using fresh
    have positive : 0 < sender.ctx.offset := by omega
    by_cases short : sender.ctx.curMsg.size - sender.ctx.offset ≤ effectiveMtu - 1
    · exact packet_settling small wide wf active positive short
    · exact packet_owing small wide wf active positive (by omega)


theorem Sync.continues {sender : Sender} {rx : RxCtx} (wf : sender.Wf) (synced : Sync sender.ctx rx) :
    (handleContinuation (continuation sender.ctx) rx = rx ∧ 0 < rx.offset) ∨
      (rx.msgActive = false ∧ (handleContinuation (continuation sender.ctx) rx).msgActive = false) := by
  by_cases running : sender.ctx.msgActive = true ∧ 0 < sender.ctx.offset
  · left
    have size := BleMsg.data_length (wf.fits running.1)
    have inside := wf.inside running.1 running.2
    rw [Sync, if_pos running] at synced
    rw [continuation, if_pos running.1, synced.continues, synced.offset_eq, List.length_take, size]
    exact ⟨rfl, by omega⟩
  · right
    rw [Sync, if_neg running] at synced
    refine ⟨synced, ?_⟩
    simp only [handleContinuation, rxResetContext]
    split
    · rfl
    · simp [synced]

theorem Packet.empty {effectiveMtu : Nat} {sender after : Sender} {pkt : List Byte}
    {sent : List BleMsg} (packet : Packet effectiveMtu sender after pkt sent) (wf : sender.Wf)
    (alone : pkt.length ≤ 1) {rx : RxCtx} (synced : Sync sender.ctx rx) :
    sent = [] ∧ sender.layout.headerEnds (effectiveMtu - 1) = false ∧ Sync after.ctx rx := by
  have flag : [continuation sender.ctx] = pkt :=
    packet.start.eq_of_length_le (by simpa using alone)
  obtain ⟨ctx, got, retrieved, views, settled⟩ := packet.received rx fun _ => synced
  have nothing : bleRetrievePacket pkt rx = some (handleContinuation (continuation sender.ctx) rx, []) := by
    rw [← flag]
    exact retrieve_exits _ List.prefix_rfl (by simp) (receiver_stops _ _ rfl)
  obtain ⟨rfl, rfl⟩ := Prod.mk.inj (Option.some.inj (retrieved.symm.trans nothing))
  refine ⟨List.map_eq_nil_iff.mp views.symm, ?_⟩
  split at settled
  next =>
    -- No header was written, so the receiver cannot be right behind one.
    exfalso
    rcases synced.continues wf with ⟨same, positive⟩ | ⟨_, idle⟩
    · have zero := settled.receiving.offset_eq
      rw [same, List.length_nil] at zero
      omega
    · simp [settled.receiving.active] at idle
  next inner =>
    refine ⟨by simpa using inner, ?_⟩
    rcases synced.continues wf with ⟨same, _⟩ | ⟨idle, reset⟩
    · rwa [same] at settled
    · have stopped : ¬ (after.ctx.msgActive = true ∧ 0 < after.ctx.offset) := by
        intro running
        rw [Sync, if_pos running] at settled
        simp [settled.active] at reset
      rw [Sync, if_neg stopped]
      exact idle

end WatchFirmware.Ble
