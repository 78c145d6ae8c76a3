import WatchFirmware.Ble.Link

set_option autoImplicit false

namespace WatchFirmware.Ble

open Loop

namespace BleMsg

/-- Sent again behind its own header, the message reads the same. -/
def SelfRepeating (msg : BleMsg) : Prop := 0 < msg.size ∧ msg.frame.take msg.size = msg.data

instance (msg : BleMsg) : Decidable msg.SelfRepeating := inferInstanceAs (Decidable (_ ∧ _))

end BleMsg

namespace TxLoop

theorem writeChunk_grows {effectiveMtu remainingMsg : Nat} {loop next : TxLoop}
    (written : loop.writeChunk effectiveMtu remainingMsg = some next) : loop.buffer <+: next.buffer := by
  simp only [writeChunk] at written
  obtain ⟨bytes, _, rfl⟩ := Option.map_eq_some_iff.mp written
  exact List.prefix_append _ _

theorem sendMessage_grows {effectiveMtu : Nat} (loop : TxLoop) {flow : Flow TxLoop}
    (round : loop.sendMessage effectiveMtu = some flow) : loop.buffer <+: flow.state.buffer := by
  simp only [sendMessage] at round
  split at round
  next =>
    cases round
    exact List.prefix_rfl
  next =>
    obtain ⟨written, chunk, rfl⟩ := Option.map_eq_some_iff.mp round
    have headed : loop.buffer <+: (if loop.ctx.offset = 0 then loop.writeHeader else loop).buffer := by
      split
      · exact List.prefix_append _ _
      · exact List.prefix_rfl
    have grown := headed.trans (writeChunk_grows chunk)
    split
    · exact grown
    · exact grown

theorem body_grows {effectiveMtu : Nat} (loop : TxLoop) (flow : Flow TxLoop)
    (round : loop.body effectiveMtu = some flow) : loop.buffer <+: flow.state.buffer := by
  rw [body] at round
  split at round
  next =>
    split at round
    next => exact sendMessage_grows loop round
    next =>
      split at round
      next =>
        cases round
        exact List.prefix_rfl
      next loaded taken =>
        obtain ⟨⟨msg, fifos⟩, _, rfl⟩ := Option.map_eq_some_iff.mp taken
        exact sendMessage_grows ⟨loop.buffer, ⟨msg, 0, true⟩, fifos⟩ round
  next =>
    cases round
    exact List.prefix_rfl

theorem exits_grows {effectiveMtu : Nat} {loop done : TxLoop}
    (exits : Exits (body effectiveMtu) loop done) : loop.buffer <+: done.buffer :=
  exits.relates (fun first last => first.buffer <+: last.buffer)
    (fun _ _ _ => List.IsPrefix.trans) body_grows

end TxLoop

namespace RxLoop

theorem acceptPayload_grows (loop : RxLoop) (msg : BleMsg) (chunk : Nat) :
    loop.queued <+: (loop.acceptPayload msg chunk).queued := by
  simp only [acceptPayload]
  split
  · exact List.prefix_append _ _
  · exact List.prefix_rfl

theorem body_grows {pkt : List Byte} (loop : RxLoop) (flow : Flow RxLoop)
    (round : loop.body pkt = some flow) : loop.queued <+: flow.state.queued := by
  rw [body] at round
  split at round
  next =>
    split at round
    next =>
      simp only [waitMagic] at round
      split at round
      next => cases round
      next => split_ifs at round <;> (cases round; exact List.prefix_rfl)
    next =>
      simp only [readHeader] at round
      split at round
      next =>
        cases round
        exact List.prefix_rfl
      next =>
        split at round
        next =>
          cases round
          simp only [Flow.state, acceptHeader]
          split_ifs
          · exact List.prefix_rfl
          · exact List.prefix_append _ _
          · exact List.prefix_rfl
        next => cases round
    next =>
      simp only [readPayload] at round
      split at round
      next =>
        cases round
        exact List.prefix_rfl
      next =>
        obtain ⟨bytes, _, copied⟩ := Option.bind_eq_some_iff.mp round
        obtain ⟨msg, _, rfl⟩ := Option.map_eq_some_iff.mp copied
        exact acceptPayload_grows _ _ _
  next =>
    cases round
    exact List.prefix_rfl

theorem exits_grows {pkt : List Byte} {loop done : RxLoop} (exits : Exits (body pkt) loop done) :
    loop.queued <+: done.queued :=
  exits.relates (fun first last => first.queued <+: last.queued)
    (fun _ _ _ => List.IsPrefix.trans) body_grows

end RxLoop

theorem TxLoop.exits_proceed {effectiveMtu : Nat} {loop middle done : TxLoop}
    (round : loop.body effectiveMtu = some (middle.proceed effectiveMtu))
    (exits : Exits (TxLoop.body effectiveMtu) loop done) :
    (effectiveMtu ≤ middle.buffer.length ∧ done = middle) ∨
      (middle.buffer.length < effectiveMtu ∧ middle.buffer <+: done.buffer) := by
  rw [TxLoop.proceed] at round
  split at round
  next full =>
    left
    cases exits with
    | exit left =>
        rw [round] at left
        cases left
        exact ⟨full, rfl⟩
    | again further _ =>
        rw [round] at further
        cases further
  next room =>
    right
    cases exits with
    | exit left =>
        rw [round] at left
        cases left
    | again further rest =>
        rw [round] at further
        cases further
        refine ⟨Nat.lt_of_not_le room, ?_⟩
        exact TxLoop.exits_grows rest

/-- The receiver takes the sender's repeated header for payload: it has `sent` bytes of the frame
in the place of the payload. -/
structure Lagging (tx : TxCtx) (rx : RxCtx) (sent : Nat) : Prop where
  active : tx.msgActive = true
  fits : tx.curMsg.Fits
  position : if tx.offset = 0 then sent = 0 else sent = tx.offset + 4
  short : sent < tx.curMsg.size
  receiving : Receiving rx tx.curMsg.hdr (tx.curMsg.frame.take sent)

namespace Lagging

variable {tx : TxCtx} {rx : RxCtx} {sent : Nat}

theorem wf (lagging : Lagging tx rx sent) (fifos : BleFifos) : Sender.Wf ⟨tx, fifos⟩ := by
  refine ⟨fun _ => lagging.fits, fun _ positive => ?_⟩
  have position := lagging.position
  have short := lagging.short
  simp only at positive ⊢
  rw [if_neg (by omega)] at position
  omega

theorem first_pass {effectiveMtu : Nat} (lagging : Lagging tx rx sent) (fifos : BleFifos)
    (small : effectiveMtu < 2 ^ 16) (wide : 6 ≤ effectiveMtu) :
    ∃ middle : TxLoop, TxLoop.body effectiveMtu ⟨[1], tx, fifos⟩ =
        some (middle.proceed effectiveMtu) ∧
      middle.buffer = [1] ++ (tx.curMsg.frame.drop sent).take (effectiveMtu - 1) ∧
      (sent + (effectiveMtu - 1) < tx.curMsg.size →
        middle.ctx = ⟨tx.curMsg, sent + (effectiveMtu - 1) - 4, true⟩) := by
  let loop : TxLoop := ⟨[1], tx, fifos⟩
  have active := lagging.active
  have fits := lagging.fits
  have position := lagging.position
  have size := BleMsg.data_length fits
  have body : loop.body effectiveMtu = loop.sendMessage effectiveMtu := by
    rw [TxLoop.body, if_pos (by simp [loop]; omega), if_pos (show loop.ctx.msgActive = true from active)]
  have room : loop.buffer.length = 1 := rfl
  by_cases fresh : tx.offset = 0
  · rw [if_pos fresh] at position
    subst position
    refine ⟨loop.started effectiveMtu, ?_, ?_, ?_⟩
    · rw [body]
      exact TxLoop.sendMessage_started small (by omega) active fresh fits
    · have payload : tx.curMsg.data.take (min tx.curMsg.size (effectiveMtu - loop.buffer.length - 4)) =
          tx.curMsg.data.take (effectiveMtu - 1 - 4) := by
        rw [room, ← size, Nat.min_comm, ← List.take_eq_take_min]
      have header : tx.curMsg.header.take (effectiveMtu - 1) = tx.curMsg.header := by
        rw [List.take_of_length_le]
        rw [BleMsg.header_length]
        omega
      simp only [TxLoop.started, loop] at payload ⊢
      rw [payload, List.drop_zero, BleMsg.frame, List.take_append, header, BleMsg.header_length,
        List.append_assoc]
    · intro unfinished
      have chunk : min tx.curMsg.size (effectiveMtu - loop.buffer.length - 4) = effectiveMtu - 1 - 4 := by
        omega
      have below : effectiveMtu - 1 - 4 < tx.curMsg.size := by omega
      simp only [TxLoop.started, loop] at chunk ⊢
      simp only [chunk, below, decide_true, Nat.zero_add]
  · rw [if_neg fresh] at position
    have short := lagging.short
    refine ⟨loop.continued effectiveMtu, ?_, ?_, ?_⟩
    · rw [body]
      exact TxLoop.sendMessage_continued small (by omega) active (Nat.pos_of_ne_zero fresh)
        (show tx.offset < tx.curMsg.size by omega) fits
    · have rest : tx.curMsg.frame.drop sent = tx.curMsg.data.drop tx.offset := by
        rw [BleMsg.frame, position, Nat.add_comm, ← List.drop_drop]
        rfl
      have payload : (tx.curMsg.data.drop tx.offset).take
          (min (tx.curMsg.size - tx.offset) (effectiveMtu - loop.buffer.length)) =
            (tx.curMsg.data.drop tx.offset).take (effectiveMtu - 1) := by
        rw [room, ← size, ← List.length_drop, Nat.min_comm, ← List.take_eq_take_min]
      simp only [TxLoop.continued, loop] at payload ⊢
      rw [payload, rest]
    · intro unfinished
      have chunk : min (tx.curMsg.size - tx.offset) (effectiveMtu - loop.buffer.length) =
          effectiveMtu - 1 := by omega
      have below : tx.offset + (effectiveMtu - 1) < tx.curMsg.size := by omega
      have offset : sent + (effectiveMtu - 1) - 4 = tx.offset + (effectiveMtu - 1) := by omega
      simp only [TxLoop.continued, loop] at chunk ⊢
      simp only [chunk, below, decide_true, offset]

theorem packet {effectiveMtu : Nat} (lagging : Lagging tx rx sent) {fifos : BleFifos}
    (small : effectiveMtu < 2 ^ 16) (wide : 6 ≤ effectiveMtu) {ready : Bool} {pkt : List Byte}
    {after : Sender} (built : bleBuildNextPacket effectiveMtu ⟨tx, fifos⟩ = some (ready, pkt, after)) :
    ready = true ∧ ∀ ctx got, bleRetrievePacket pkt rx = some (ctx, got) →
      (got = [] ∧ after.ctx.curMsg = tx.curMsg ∧ Lagging after.ctx ctx (sent + (effectiveMtu - 1))) ∨
        ∃ bad more, got = bad :: more ∧
          bad.view = (tx.curMsg.hdr, tx.curMsg.frame.take tx.curMsg.size) := by
  have short := lagging.short
  have receiving := lagging.receiving
  have flag : (if tx.msgActive then 1 else 0 : Byte) = 1 := if_pos lagging.active
  obtain ⟨done, ran, same⟩ := Option.map_eq_some_iff.mp built
  obtain ⟨rfl, rfl, rfl⟩ : decide (1 < done.buffer.length) = ready ∧ done.buffer = pkt ∧
      done.sender = after := by simpa [TxLoop.sender] using same
  have exits := exits_of_loop ran
  simp only [flag] at exits
  obtain ⟨middle, round, buffer, ctx⟩ := lagging.first_pass fifos small wide
  have frame := BleMsg.frame_length lagging.fits
  have length : middle.buffer.length = 1 + min (effectiveMtu - 1) (4 + tx.curMsg.size - sent) := by
    rw [buffer, List.length_append, List.length_take, List.length_drop, frame, List.length_singleton]
  have bound : done.buffer.length < 2 ^ 16 := by
    obtain ⟨_, _, _, whole⟩ := Ble.packet small (lagging.wf fifos)
    have one := whole.built.symm.trans built
    simp only [Option.some.injEq, Prod.mk.injEq] at one
    rw [← one.2.1]
    exact whole.bound
  have grown : middle.buffer <+: done.buffer := by
    rcases TxLoop.exits_proceed round exits with ⟨_, rfl⟩ | ⟨_, grown⟩
    · exact List.prefix_rfl
    · exact grown
  have begins : [1] <+: done.buffer := (buffer ▸ List.prefix_append _ _).trans grown
  refine ⟨decide_eq_true ?_, fun rxAfter got retrieved => ?_⟩
  · have := grown.length_le
    omega
  by_cases unfinished : sent + (effectiveMtu - 1) < tx.curMsg.size
  · -- The whole packet is payload to the receiver, and it wants more.
    left
    have full : done = middle := by
      rcases TxLoop.exits_proceed round exits with ⟨_, same⟩ | ⟨room, _⟩
      · exact same
      · omega
    subst full
    have ahead : done.buffer.drop 1 = (tx.curMsg.frame.drop sent).take (effectiveMtu - 1) := by
      rw [buffer]
      rfl
    have total : (tx.curMsg.frame.take sent).length +
        ((tx.curMsg.frame.drop sent).take (effectiveMtu - 1)).length < tx.curMsg.hdr.len.toNat := by
      rw [List.length_take, List.length_take, List.length_drop, frame, ← BleMsg.size]
      omega
    obtain ⟨next, further, passes⟩ := RxLoop.payload_partial ⟨1, rx, []⟩ bound receiving
      (show 1 ≤ done.buffer.length by omega) ahead total
    have result := retrieve_exits 1 begins bound (receiving.continues.symm ▸ passes)
    obtain ⟨rfl, rfl⟩ := Prod.mk.inj (Option.some.inj (retrieved.symm.trans result))
    have held : done.sender.ctx = ⟨tx.curMsg, sent + (effectiveMtu - 1) - 4, true⟩ := ctx unfinished
    refine ⟨rfl, by rw [held], ?_⟩
    exact
      { active := by rw [held]
        fits := by rw [held]; exact lagging.fits
        position := by
          rw [held, if_neg (by simp only; omega)]
          simp only
          omega
        short := by rw [held]; exact unfinished
        receiving := by
          rw [held, List.take_add]
          exact further }
  · -- The frame's first bytes complete the payload the receiver is waiting for.
    right
    obtain ⟨rest, extended⟩ := grown
    have remaining : ((tx.curMsg.frame.drop sent).take (tx.curMsg.size - sent)).length =
        tx.curMsg.size - sent := by
      rw [List.length_take, List.length_drop, frame]
      omega
    have nonempty : (tx.curMsg.frame.drop sent).take (tx.curMsg.size - sent) ≠ [] := by
      intro none
      rw [none, List.length_nil] at remaining
      omega
    have ahead : done.buffer.drop 1 = (tx.curMsg.frame.drop sent).take (tx.curMsg.size - sent) ++
        (((tx.curMsg.frame.drop sent).take (effectiveMtu - 1)).drop (tx.curMsg.size - sent) ++ rest) := by
      have cut : (tx.curMsg.frame.drop sent).take (tx.curMsg.size - sent) =
          ((tx.curMsg.frame.drop sent).take (effectiveMtu - 1)).take (tx.curMsg.size - sent) := by
        rw [List.take_take, Nat.min_eq_left (by omega)]
      rw [← extended, buffer, cut, ← List.append_assoc, List.take_append_drop]
      rfl
    have total : (tx.curMsg.frame.take sent).length +
        ((tx.curMsg.frame.drop sent).take (tx.curMsg.size - sent)).length = tx.curMsg.hdr.len.toNat := by
      rw [remaining, List.length_take, frame, ← BleMsg.size]
      omega
    obtain ⟨bad, next, view, _, step⟩ := RxLoop.payload_complete ⟨1, rx, []⟩ bound receiving ahead
      nonempty total
    have pushed : bad.view = (tx.curMsg.hdr, tx.curMsg.frame.take tx.curMsg.size) := by
      rw [view, ← List.take_add, Nat.add_sub_cancel' (Nat.le_of_lt short)]
    have passes : ∃ last, Exits (RxLoop.body done.buffer) ⟨1, rx, []⟩ last ∧ last.queued = got := by
      obtain ⟨bytes, whole⟩ := begins
      rw [← whole] at retrieved ⊢
      obtain ⟨last, ran, same⟩ := Option.map_eq_some_iff.mp retrieved
      have passes := exits_of_loop ran
      rw [receiving.continues] at passes
      exact ⟨last, passes, congrArg Prod.snd same⟩
    obtain ⟨last, passes, rfl⟩ := passes
    cases passes with
    | exit left =>
        rw [step] at left
        cases left
    | again round later =>
        rw [step] at round
        cases round
        obtain ⟨more, grows⟩ := RxLoop.exits_grows later
        exact ⟨bad, more, grows.symm, pushed⟩

end Lagging

/-- The link can no longer have pushed exactly `msgs`. -/
inductive Broken (msgs : List BleMsg) (link : Link) : Prop where
  | lagging {sent : Nat} (behind : Lagging link.tx link.rx sent)
      (unlike : ¬ link.tx.curMsg.SelfRepeating)
      (next : link.pushed.map BleMsg.view ++ [link.tx.curMsg.view] <+: msgs.map BleMsg.view)
  | spoiled {good more : List BleMsg} {bad msg : BleMsg} (differs : bad.view ≠ msg.view)
      (pushed : link.pushed = good ++ bad :: more)
      (next : good.map BleMsg.view ++ [msg.view] <+: msgs.map BleMsg.view)

namespace Broken

theorem unequal {msgs : List BleMsg} {link : Link} (broken : Broken msgs link) :
    link.pushed.map BleMsg.view ≠ msgs.map BleMsg.view := by
  intro same
  cases broken with
  | lagging _ _ next =>
      have length := next.length_le
      rw [same, List.length_append] at length
      exact absurd length (Nat.not_succ_le_self _)
  | spoiled differs pushed next =>
      rw [← same, pushed, List.map_append, List.prefix_append_right_inj] at next
      obtain ⟨_, equal⟩ := next
      exact differs (List.cons.inj equal).1.symm

theorem transfer {effectiveMtu : Nat} {msgs : List BleMsg} {link after : Link}
    (broken : Broken msgs link) (small : effectiveMtu < 2 ^ 16) (wide : 6 ≤ effectiveMtu)
    (taken : link.transfer effectiveMtu = some after) : Broken msgs after := by
  obtain ⟨⟨ready, pkt, sender⟩, built, moved⟩ := Option.bind_eq_some_iff.mp taken
  cases broken with
  | lagging behind unlike next =>
      obtain ⟨rfl, outcome⟩ := behind.packet small wide built
      obtain ⟨⟨rx, got⟩, retrieved, rfl⟩ := Option.map_eq_some_iff.mp moved
      rcases outcome rx got retrieved with ⟨rfl, same, still⟩ | ⟨bad, more, rfl, view⟩
      · refine .lagging still ?_ ?_
        · show ¬ sender.ctx.curMsg.SelfRepeating
          rwa [same]
        · simp only [Link.receive, Link.built, List.append_nil, same]
          exact next
      · refine .spoiled ?_ rfl next
        rw [view]
        intro equal
        exact unlike ⟨Nat.lt_of_le_of_lt (Nat.zero_le _) behind.short, congrArg Prod.snd equal⟩
  | @spoiled good more bad msg differs pushed next =>
      cases ready with
      | true =>
          obtain ⟨⟨rx, got⟩, _, rfl⟩ := Option.map_eq_some_iff.mp moved
          have grown : ((link.built sender).receive rx got).pushed =
              good ++ bad :: (more ++ got) := by
            simp only [Link.receive, Link.built, pushed, List.append_assoc, List.cons_append]
          exact .spoiled differs grown next
      | false =>
          cases moved
          exact .spoiled differs pushed next

theorem of_headerEnds {effectiveMtu : Nat} {msgs : List BleMsg} {link after : Link}
    (inStep : link.InStep msgs) (unlike : ∀ msg ∈ msgs, ¬ msg.SelfRepeating)
    (small : effectiveMtu < 2 ^ 16) (ends : link.sender.layout.headerEnds (effectiveMtu - 1) = true)
    (taken : link.transfer effectiveMtu = some after) : Broken msgs after := by
  obtain ⟨sender, pkt, sent, packet⟩ := packet small inStep.wf
  have ready : 1 < pkt.length := by
    by_contra alone
    have inner := (packet.empty inStep.wf (by omega) inStep.synced).2.1
    simp [ends] at inner
  obtain ⟨rx, got, retrieved, views, skewed⟩ := packet.received link.rx fun _ => inStep.synced
  rw [if_pos ends] at skewed
  have moved : link.transfer effectiveMtu = some ((link.built sender).receive rx got) := by
    rw [Link.transfer, packet.built, Option.bind_some, decide_eq_true ready]
    simp only [if_true, retrieved, Option.map_some]
  obtain rfl := Option.some.inj (taken.symm.trans moved)
  have pending : sender.pending = sender.ctx.curMsg :: sender.queue := by
    rw [Sender.pending, if_pos skewed.active]
  have whole : msgs.map BleMsg.view = link.pushed.map BleMsg.view ++ got.map BleMsg.view ++
      sender.ctx.curMsg.view :: sender.queue.map BleMsg.view := by
    rw [inStep.split, packet.pending_eq, pending, views]
    simp
  refine .lagging
    (show Lagging sender.ctx rx 0 from
      { active := skewed.active
        fits := packet.wf.fits skewed.active
        position := by rw [if_pos skewed.offset_eq]
        short := skewed.nonempty
        receiving := by simpa using skewed.receiving }) ?_ ?_
  · -- The message being sent is one of the queued ones, byte for byte where bytes count.
    have member : sender.ctx.curMsg.view ∈ msgs.map BleMsg.view := by
      rw [whole]
      simp
    obtain ⟨origin, among, same⟩ := List.mem_map.mp member
    have hdr : origin.hdr = sender.ctx.curMsg.hdr := congrArg Prod.fst same
    have data : origin.data = sender.ctx.curMsg.data := congrArg Prod.snd same
    have original := unlike origin among
    rw [BleMsg.SelfRepeating, BleMsg.frame, BleMsg.header, BleMsg.size, hdr, data] at original
    exact original
  · rw [whole]
    refine ⟨sender.queue.map BleMsg.view, ?_⟩
    simp [Link.receive, Link.built]

end Broken

end WatchFirmware.Ble
