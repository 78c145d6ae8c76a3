import WatchFirmware.Shared.Transition
import WatchFirmware.Ble.RoundTrip

set_option autoImplicit false

namespace WatchFirmware.Ble

open Loop Transition

namespace Sender

/-- The bytes still to be sent, with a header for every message that has sent none of its payload. -/
def load (sender : Sender) : Nat := sender.layout.load

inductive Action where
  | build (effectiveMtu : UInt16)
  | queue (msg : BleMsg)
  | reset
  deriving DecidableEq

def step (sender : Sender) : Action → Option Sender
  | .build effectiveMtu => (bleBuildNextPacket effectiveMtu.toNat sender).map fun built => built.2.2
  | .queue msg => some { sender with fifos := (addBleMsgToQueue sender.fifos msg .tx).2 }
  | .reset => some { sender with ctx := txResetContext sender.ctx }

def Initial (sender : Sender) : Prop := sender.ctx.msgActive = false

theorem wf_step {sender after : Sender} {action : Action} (wf : sender.Wf)
    (taken : sender.step action = some after) : after.Wf := by
  cases action with
  | build effectiveMtu =>
      obtain ⟨next, pkt, sent, packet⟩ := packet effectiveMtu.toNat_lt wf
      simp only [step, packet.built, Option.map_some] at taken
      cases taken
      exact packet.wf
  | queue msg =>
      cases taken
      exact ⟨wf.fits, wf.inside⟩
  | reset =>
      cases taken
      exact ⟨fun active => absurd active Bool.false_ne_true, fun active => absurd active Bool.false_ne_true⟩

theorem wf_of_reach {sender : Sender} (reached : Reach step Initial Unguarded sender) : sender.Wf := by
  refine reached.invariant ?_ fun _ _ _ wf _ taken => wf_step wf taken
  intro start idle
  rw [Initial] at idle
  exact ⟨fun active => by simp [idle] at active, fun active => by simp [idle] at active⟩

theorem load_of {sender : Sender} {owed : Nat} {sizes : List Nat} (layout : sender.layout = ⟨owed, sizes⟩) :
    sender.load = owed + (sizes.map (4 + ·)).sum := by
  rw [load, layout]
  rfl

end Sender

namespace TxLoop

def loaded (loop : TxLoop) : Option TxLoop := if loop.ctx.msgActive then some loop else loop.loadNext

def headed (loop : TxLoop) : TxLoop := if loop.ctx.offset = 0 then loop.writeHeader else loop

def chunk (effectiveMtu : Nat) (loop : TxLoop) : Nat :=
  let remainingMsg := sub16 loop.ctx.curMsg.size loop.ctx.offset
  let remainingPkt := sub16 effectiveMtu loop.headed.buffer.length
  if remainingMsg < remainingPkt then remainingMsg else remainingPkt

/-- No subtraction of a pass goes below zero, and its read stays inside the message. -/
structure InBounds (effectiveMtu : Nat) (loop : TxLoop) : Prop where
  message : loop.ctx.offset ≤ loop.ctx.curMsg.size
  packet : loop.buffer.length ≤ effectiveMtu
  payload : ¬ (loop.ctx.offset = 0 ∧ effectiveMtu - loop.buffer.length < 1 + bleHdrSize) →
    loop.headed.buffer.length ≤ effectiveMtu ∧
      loop.ctx.offset + loop.chunk effectiveMtu ≤ loop.ctx.curMsg.size

structure Sound (effectiveMtu : Nat) (loop : TxLoop) : Prop where
  wf : loop.sender.Wf
  bound : loop.buffer.length ≤ effectiveMtu

variable {effectiveMtu : Nat} {loop first : TxLoop}

theorem body_loaded (inside : loop.buffer.length < effectiveMtu) : loop.body effectiveMtu =
    match loop.loaded with
    | none => some (.exit loop)
    | some first => first.sendMessage effectiveMtu := by
  rw [body, if_pos inside, loaded]
  split
  next => rfl
  next => rfl

structure Loads (loop first : TxLoop) : Prop where
  wf : first.sender.Wf
  active : first.ctx.msgActive = true
  buffer : first.buffer = loop.buffer
  load : first.sender.load = loop.sender.load
  pending : loop.sender.pending ≠ []

theorem loaded_loads (wf : loop.sender.Wf) (loads : loop.loaded = some first) : Loads loop first := by
  unfold loaded at loads
  split at loads
  next active =>
    cases loads
    have pending : loop.sender.pending ≠ [] := by
      rw [Sender.pending, if_pos (show loop.sender.ctx.msgActive = true from active)]
      exact List.cons_ne_nil _ _
    exact ⟨wf, active, rfl, rfl, pending⟩
  next inactive =>
    have idle : loop.sender.pending = loop.sender.queue := if_neg inactive
    cases waiting : loop.fifos.txFifo.contents with
    | nil =>
        rw [loadNext, getNextBleMsg, getFifo, BleFifo.pop_none waiting] at loads
        cases loads
    | cons msg rest =>
        obtain ⟨fifos, popped, left, _⟩ := pop_tx waiting
        rw [loadNext, popped, Option.map_some, Option.some.injEq] at loads
        subst loads
        have fits : msg.Fits := loop.fifos.txFifo.fits msg (by rw [← BleFifo.contents, waiting]; simp)
        refine ⟨⟨fun _ => fits, fun _ positive => absurd positive (Nat.lt_irrefl 0)⟩, rfl, rfl, ?_, ?_⟩
        · rw [Sender.load, Sender.load, Sender.layout_fresh fun _ => rfl,
            Sender.layout_fresh fun active => absurd active inactive, idle, Sender.queue]
          simp [sender, Sender.pending, Sender.queue, left, waiting]
        · rw [idle, Sender.queue]
          simp [sender, waiting]

theorem not_loaded (nothing : loop.loaded = none) : loop.sender.pending = [] := by
  unfold loaded at nothing
  split at nothing
  next => cases nothing
  next inactive =>
    rw [Sender.pending, if_neg (show ¬ loop.sender.ctx.msgActive = true from inactive)]
    cases waiting : loop.fifos.txFifo.contents with
    | nil => exact waiting
    | cons msg rest =>
        obtain ⟨fifos, popped, _, _⟩ := pop_tx waiting
        rw [loadNext, popped] at nothing
        cases nothing

theorem load_active {loop : TxLoop} (active : loop.ctx.msgActive = true) :
    loop.sender.load =
      (if loop.ctx.offset = 0 then 4 + loop.ctx.curMsg.size else loop.ctx.curMsg.size - loop.ctx.offset) +
        ((loop.sender.queue.map BleMsg.size).map (4 + ·)).sum := by
  by_cases fresh : loop.ctx.offset = 0
  next =>
    have layout : loop.sender.layout = ⟨0, loop.sender.pending.map BleMsg.size⟩ := Sender.layout_fresh fun _ => fresh
    rw [Sender.load_of layout, if_pos fresh, Sender.pending, if_pos (show loop.sender.ctx.msgActive = true from active)]
    simp [sender]
  next =>
    have layout : loop.sender.layout = ⟨loop.ctx.curMsg.size - loop.ctx.offset, loop.sender.queue.map BleMsg.size⟩ :=
      if_pos ⟨active, Nat.pos_of_ne_zero fresh⟩
    rw [Sender.load_of layout, if_neg fresh]

theorem load_idle {loop : TxLoop} (inactive : loop.ctx.msgActive = false) :
    loop.sender.load = ((loop.sender.queue.map BleMsg.size).map (4 + ·)).sum := by
  have idle : ¬ loop.sender.ctx.msgActive = true := by simp [sender, inactive]
  have layout : loop.sender.layout = ⟨0, loop.sender.pending.map BleMsg.size⟩ :=
    Sender.layout_fresh fun active => absurd active idle
  rw [Sender.load_of layout, Sender.pending, if_neg idle, Nat.zero_add]

structure Sends (effectiveMtu : Nat) (first next : TxLoop) : Prop where
  sound : next.Sound effectiveMtu
  buffer : first.buffer.length < next.buffer.length
  load : next.sender.load ≤ first.sender.load
  progress : first.buffer.length + 4 < effectiveMtu → next.sender.load < first.sender.load

theorem load_sent (first next : TxLoop) {offset : Nat} (fifos : next.fifos = first.fifos)
    (ctx : next.ctx = ⟨first.ctx.curMsg, offset, decide (offset < first.ctx.curMsg.size)⟩) :
    next.sender.load =
      (if offset < first.ctx.curMsg.size then
        if offset = 0 then 4 + first.ctx.curMsg.size else first.ctx.curMsg.size - offset
      else 0) + ((first.sender.queue.map BleMsg.size).map (4 + ·)).sum := by
  have queue : next.sender.queue = first.sender.queue := by
    simp only [sender, Sender.queue, fifos]
  by_cases unfinished : offset < first.ctx.curMsg.size
  next => rw [load_active (by rw [ctx]; exact decide_eq_true unfinished), queue, ctx, if_pos unfinished]
  next => rw [load_idle (by rw [ctx]; exact decide_eq_false unfinished), queue, if_neg unfinished, Nat.zero_add]

theorem wf_sent {next : TxLoop} {offset : Nat} (fits : first.ctx.curMsg.Fits)
    (ctx : next.ctx = ⟨first.ctx.curMsg, offset, decide (offset < first.ctx.curMsg.size)⟩) : next.sender.Wf := by
  refine ⟨fun _ => ?_, fun active _ => ?_⟩
  · simpa only [sender, ctx] using fits
  · simpa only [sender, ctx, decide_eq_true_eq] using active

theorem started_sends (sound : first.Sound effectiveMtu) (active : first.ctx.msgActive = true)
    (fresh : first.ctx.offset = 0) (room : first.buffer.length + 4 ≤ effectiveMtu) :
    Sends effectiveMtu first (first.started effectiveMtu) := by
  have fits : first.ctx.curMsg.Fits := sound.wf.fits active
  let sent := min first.ctx.curMsg.size (effectiveMtu - first.buffer.length - 4)
  have ctx : (first.started effectiveMtu).ctx =
      ⟨first.ctx.curMsg, sent, decide (sent < first.ctx.curMsg.size)⟩ := rfl
  have buffer : (first.started effectiveMtu).buffer =
      first.buffer ++ first.ctx.curMsg.header ++ first.ctx.curMsg.data.take sent := rfl
  have length : (first.started effectiveMtu).buffer.length = first.buffer.length + 4 + sent := by
    rw [buffer, List.length_append, List.length_append, BleMsg.header_length, List.length_take,
      BleMsg.data_length fits]
    omega
  have before := load_active active
  have after := load_sent first (first.started effectiveMtu) rfl ctx
  rw [if_pos fresh] at before
  refine ⟨⟨wf_sent fits ctx, by omega⟩, by omega, ?_, fun wide => ?_⟩
  · rw [after, before]
    split_ifs <;> omega
  · rw [after, before]
    split_ifs <;> omega

theorem continued_sends (sound : first.Sound effectiveMtu) (active : first.ctx.msgActive = true)
    (positive : 0 < first.ctx.offset) (room : first.buffer.length < effectiveMtu) :
    Sends effectiveMtu first (first.continued effectiveMtu) := by
  have fits : first.ctx.curMsg.Fits := sound.wf.fits active
  have inside : first.ctx.offset < first.ctx.curMsg.size := sound.wf.inside active positive
  let more := min (first.ctx.curMsg.size - first.ctx.offset) (effectiveMtu - first.buffer.length)
  have ctx : (first.continued effectiveMtu).ctx =
      ⟨first.ctx.curMsg, first.ctx.offset + more, decide (first.ctx.offset + more < first.ctx.curMsg.size)⟩ := rfl
  have buffer : (first.continued effectiveMtu).buffer =
      first.buffer ++ (first.ctx.curMsg.data.drop first.ctx.offset).take more := rfl
  have length : (first.continued effectiveMtu).buffer.length = first.buffer.length + more := by
    rw [buffer, List.length_append, List.length_take, List.length_drop, BleMsg.data_length fits]
    omega
  have before := load_active active
  have after := load_sent first (first.continued effectiveMtu) rfl ctx
  rw [if_neg (by omega)] at before
  have less : (first.continued effectiveMtu).sender.load < first.sender.load := by
    rw [after, before]
    split_ifs <;> omega
  exact ⟨⟨wf_sent fits ctx, by omega⟩, by omega, Nat.le_of_lt less, fun _ => less⟩

inductive Pass (effectiveMtu : Nat) (loop : TxLoop) : Prop where
  | full (packet : effectiveMtu ≤ loop.buffer.length) (left : loop.body effectiveMtu = some (.exit loop))
  | empty (nothing : loop.sender.pending = []) (left : loop.body effectiveMtu = some (.exit loop))
  | narrow (first : TxLoop) (loads : Loads loop first) (fresh : first.ctx.offset = 0)
      (room : effectiveMtu < first.buffer.length + 4) (left : loop.body effectiveMtu = some (.exit first))
  | sent (first next : TxLoop) (loads : Loads loop first) (sends : Sends effectiveMtu first next)
      (round : loop.body effectiveMtu = some (next.proceed effectiveMtu))

theorem body_pass (small : effectiveMtu < 2 ^ 16) (sound : loop.Sound effectiveMtu) : loop.Pass effectiveMtu := by
  by_cases inside : loop.buffer.length < effectiveMtu
  next =>
    have round := body_loaded inside
    cases loading : loop.loaded with
    | none =>
        rw [loading] at round
        exact .empty (not_loaded loading) round
    | some first =>
        rw [loading] at round
        have loads := loaded_loads sound.wf loading
        have firstSound : first.Sound effectiveMtu := ⟨loads.wf, loads.buffer ▸ sound.bound⟩
        have room : first.buffer.length < effectiveMtu := loads.buffer ▸ inside
        have fits : first.ctx.curMsg.Fits := loads.wf.fits loads.active
        by_cases fresh : first.ctx.offset = 0
        next =>
          by_cases wide : first.buffer.length + 4 ≤ effectiveMtu
          next =>
            exact .sent first _ loads (started_sends firstSound loads.active fresh wide)
              (round.trans (sendMessage_started small wide loads.active fresh fits))
          next =>
            refine .narrow first loads fresh (Nat.lt_of_not_le wide) (round.trans ?_)
            have packet : sub16 effectiveMtu first.buffer.length = effectiveMtu - first.buffer.length :=
              sub16_eq (Nat.le_of_lt room) small
            show first.sendMessage effectiveMtu = _
            rw [sendMessage, if_pos]
            exact ⟨fresh, by rw [packet]; simp only [bleHdrSize]; omega⟩
        next =>
          have positive := Nat.pos_of_ne_zero fresh
          exact .sent first _ loads (continued_sends firstSound loads.active positive room)
            (round.trans (sendMessage_continued small (Nat.le_of_lt room) loads.active positive
              (loads.wf.inside loads.active positive) fits))
  next => exact .full (Nat.le_of_not_lt inside) (by rw [body, if_neg inside])

theorem proceed_state (next : TxLoop) : (next.proceed effectiveMtu).state = next := by
  unfold proceed
  split <;> rfl

structure Kept (effectiveMtu : Nat) (loop after : TxLoop) : Prop where
  sound : after.Sound effectiveMtu
  buffer : loop.buffer.length ≤ after.buffer.length
  load : after.sender.load ≤ loop.sender.load
  progress : loop.sender.pending ≠ [] → loop.buffer.length + 4 < effectiveMtu →
    loop.buffer.length < after.buffer.length ∧ after.sender.load < loop.sender.load

theorem Pass.kept (sound : loop.Sound effectiveMtu) (pass : loop.Pass effectiveMtu) :
    ∃ flow, loop.body effectiveMtu = some flow ∧ Kept effectiveMtu loop flow.state := by
  cases pass with
  | full packet left =>
      refine ⟨_, left, sound, Nat.le_refl _, Nat.le_refl _, fun _ room => ?_⟩
      exact absurd packet (by omega)
  | empty nothing left => exact ⟨_, left, sound, Nat.le_refl _, Nat.le_refl _, fun waiting => absurd nothing waiting⟩
  | narrow first loads fresh room left =>
      refine ⟨_, left, ⟨loads.wf, loads.buffer ▸ sound.bound⟩, Nat.le_of_eq (congrArg List.length loads.buffer.symm),
        Nat.le_of_eq loads.load, fun _ wide => ?_⟩
      rw [loads.buffer] at room
      exact absurd room (by omega)
  | sent first next loads sends round =>
      refine ⟨_, round, ?_⟩
      rw [proceed_state]
      have grown := loads.buffer ▸ sends.buffer
      exact ⟨sends.sound, Nat.le_of_lt grown, loads.load ▸ sends.load,
        fun _ wide => ⟨grown, loads.load ▸ sends.progress (loads.buffer ▸ wide)⟩⟩

theorem body_kept (small : effectiveMtu < 2 ^ 16) (sound : loop.Sound effectiveMtu) {flow : Flow TxLoop}
    (round : loop.body effectiveMtu = some flow) : Kept effectiveMtu loop flow.state := by
  obtain ⟨same, found, kept⟩ := (body_pass small sound).kept sound
  obtain rfl := Option.some.inj (round.symm.trans found)
  exact kept

theorem exits_kept (small : effectiveMtu < 2 ^ 16) (sound : loop.Sound effectiveMtu) {done : TxLoop}
    (exits : Exits (body effectiveMtu) loop done) : Kept effectiveMtu loop done := by
  induction exits with
  | exit left => exact body_kept small sound left
  | again round rest ih =>
      have first := body_kept small sound round
      have later := ih first.sound
      refine ⟨later.sound, Nat.le_trans first.buffer later.buffer, Nat.le_trans later.load first.load, ?_⟩
      intro waiting wide
      obtain ⟨grown, less⟩ := first.progress waiting wide
      exact ⟨Nat.lt_of_lt_of_le grown later.buffer, Nat.lt_of_le_of_lt later.load less⟩

theorem exits (small : effectiveMtu < 2 ^ 16) (sound : loop.Sound effectiveMtu) :
    ∃ done, Exits (body effectiveMtu) loop done := by
  have runs (state : TxLoop) (sound : state.Sound effectiveMtu) :
      (∃ next, state.body effectiveMtu = some (.again next) ∧ next.Sound effectiveMtu) ∨
        ∃ after, state.body effectiveMtu = some (.exit after) ∧ after.Sound effectiveMtu := by
    obtain ⟨flow, round, kept⟩ := (body_pass small sound).kept sound
    cases flow with
    | again next => exact .inl ⟨next, round, kept.sound⟩
    | exit after => exact .inr ⟨after, round, kept.sound⟩
  obtain ⟨done, exits, _⟩ := exists_exits (body_decreasing small) runs sound
  exact ⟨done, exits⟩

theorem loads_inBounds (sound : loop.Sound effectiveMtu)
    (loads : Loads loop first) : first.InBounds effectiveMtu := by
  have message : first.ctx.offset ≤ first.ctx.curMsg.size := by
    by_cases fresh : first.ctx.offset = 0
    next => omega
    next => exact Nat.le_of_lt (loads.wf.inside loads.active (Nat.pos_of_ne_zero fresh))
  have packet : first.buffer.length ≤ effectiveMtu := loads.buffer ▸ sound.bound
  have size := first.ctx.curMsg.size_lt
  refine ⟨message, packet, fun room => ⟨?_, ?_⟩⟩
  · unfold headed
    split
    next fresh =>
      simp only [fresh, true_and, bleHdrSize] at room
      simp only [writeHeader, List.length_append, List.length_cons, List.length_nil]
      omega
    next => exact packet
  · unfold chunk
    rw [sub16_eq message (by omega)]
    dsimp only
    split <;> omega

end TxLoop

namespace Sender

def startLoop (sender : Sender) : TxLoop :=
  ⟨[if sender.ctx.msgActive then 1 else 0], sender.ctx, sender.fifos⟩

variable {effectiveMtu : Nat} {sender : Sender}

theorem startLoop_sound (wide : 20 ≤ effectiveMtu) (wf : sender.Wf) : sender.startLoop.Sound effectiveMtu :=
  ⟨wf, by simp only [startLoop, List.length_singleton]; omega⟩

/-- One call of `bleBuildNextPacket`. -/
structure Built (effectiveMtu : Nat) (sender : Sender) (ready : Bool) (pkt : List Byte) (after : Sender) : Prop where
  built : bleBuildNextPacket effectiveMtu sender = some (ready, pkt, after)
  bound : pkt.length ≤ effectiveMtu
  wf : after.Wf
  empty : ready = false → after.queue = [] ∧ after.ctx.msgActive = false
  load : ready = true → after.load < sender.load

theorem finished_of_pending (none : sender.pending = []) : sender.queue = [] ∧ sender.ctx.msgActive = false := by
  unfold pending at none
  split at none
  next => cases none
  next inactive => exact ⟨none, Bool.eq_false_of_not_eq_true inactive⟩

theorem build_spec (wide : 20 ≤ effectiveMtu) (small : effectiveMtu < 2 ^ 16) (wf : sender.Wf) :
    ∃ ready pkt after, Built effectiveMtu sender ready pkt after := by
  have sound := startLoop_sound wide wf
  obtain ⟨done, exits⟩ := TxLoop.exits small sound
  have kept := TxLoop.exits_kept small sound exits
  refine ⟨_, _, _, bleBuildNextPacket_exits small exits, kept.sound.bound, kept.sound.wf, ?_, ?_⟩
  · intro short
    -- With a message to send, the first pass writes at least its header.
    have none : sender.pending = [] := by
      by_contra waiting
      have grown := (kept.progress waiting (by simp only [startLoop, List.length_singleton]; omega)).1
      simp only [startLoop, List.length_singleton] at grown
      exact absurd grown (of_decide_eq_false short)
    have idle : sender.startLoop.body effectiveMtu = some (.exit sender.startLoop) := TxLoop.body_idle none
    cases exits with
    | exit left =>
        obtain rfl : sender.startLoop = done := by
          rw [idle] at left
          cases left
          rfl
        exact finished_of_pending none
    | again round _ =>
        rw [idle] at round
        cases round
  · intro ready
    have waiting : sender.pending ≠ [] := by
      intro none
      have idle : sender.startLoop.body effectiveMtu = some (.exit sender.startLoop) := TxLoop.body_idle none
      have long := of_decide_eq_true ready
      cases exits with
      | exit left =>
          rw [idle] at left
          cases left
          exact absurd long (by simp [startLoop])
      | again round _ =>
          rw [idle] at round
          cases round
    exact (kept.progress waiting (by simp only [startLoop, List.length_singleton]; omega)).2

/-- The loop of `populate_tx_buffers`: the sender, and the packets it has handed over. -/
structure Drain where
  sender : Sender
  packets : List (List Byte)

-- A packet that cannot be notified is dropped, and the loop goes on. mtus has the MTU of each call.
def populateTxBuffers (mtus : Nat → UInt16) (drain : Drain) : Option (Flow Drain) :=
  (bleBuildNextPacket (mtus drain.packets.length).toNat drain.sender).map fun (ready, pkt, after) =>
    if ready then .again ⟨after, drain.packets ++ [pkt]⟩ else .exit ⟨after, drain.packets⟩

theorem populateTxBuffers_exits {mtus : Nat → UInt16} (wide : ∀ k, 20 ≤ (mtus k).toNat) (drain : Drain)
    (wf : drain.sender.Wf) : ∃ done, Exits (populateTxBuffers mtus) drain done ∧
      done.packets.length ≤ drain.packets.length + drain.sender.load ∧
      done.sender.queue = [] ∧ done.sender.ctx.msgActive = false := by
  generalize bound : drain.sender.load = load
  induction load using Nat.strongRecOn generalizing drain with
  | _ load ih =>
      obtain ⟨ready, pkt, after, built⟩ := build_spec (wide drain.packets.length) (mtus _).toNat_lt wf
      have round : populateTxBuffers mtus drain = some
          (if ready then .again ⟨after, drain.packets ++ [pkt]⟩ else .exit ⟨after, drain.packets⟩) := by
        rw [populateTxBuffers, built.built]
        rfl
      cases ready with
      | false => exact ⟨⟨after, drain.packets⟩, .exit round, Nat.le_add_right _ _, built.empty rfl⟩
      | true =>
          have less := built.load rfl
          obtain ⟨done, exits, count, finished⟩ := ih after.load (by omega) ⟨after, drain.packets ++ [pkt]⟩ built.wf rfl
          rw [List.length_append, List.length_singleton] at count
          exact ⟨done, .again round exits, by omega, finished⟩

theorem visits_sound {loop : TxLoop} (small : effectiveMtu < 2 ^ 16) (sound : sender.startLoop.Sound effectiveMtu)
    (visited : Visits (TxLoop.body effectiveMtu) sender.startLoop loop) : loop.Sound effectiveMtu :=
  visited.invariant sound fun _ _ sound round => (TxLoop.body_kept small sound round).sound

/-- Each packet is built in bounds, and after finitely many of them nothing is left to send. -/
theorem tx_drains {origin : Sender} (reached : Reach step Initial Unguarded origin) (fifos : BleFifos)
    {mtus : Nat → UInt16} (wide : ∀ k, 20 ≤ (mtus k).toNat) :
    (∀ k, (∃ ready pkt after, bleBuildNextPacket (mtus k).toNat ⟨origin.ctx, fifos⟩ = some (ready, pkt, after) ∧
          pkt.length ≤ (mtus k).toNat ∧ (ready = false → after.queue = [] ∧ after.ctx.msgActive = false)) ∧
        ∀ loop first, Visits (TxLoop.body (mtus k).toNat) (startLoop ⟨origin.ctx, fifos⟩) loop →
          loop.loaded = some first → first.InBounds (mtus k).toNat) ∧
      ∃ done, Exits (populateTxBuffers mtus) ⟨⟨origin.ctx, fifos⟩, []⟩ done ∧
        done.packets.length ≤ load ⟨origin.ctx, fifos⟩ ∧ done.sender.queue = [] ∧
        done.sender.ctx.msgActive = false := by
  have wf : Wf ⟨origin.ctx, fifos⟩ := ⟨(wf_of_reach reached).fits, (wf_of_reach reached).inside⟩
  refine ⟨fun k => ⟨?_, ?_⟩, ?_⟩
  · obtain ⟨ready, pkt, after, built⟩ := build_spec (wide k) (mtus k).toNat_lt wf
    exact ⟨ready, pkt, after, built.built, built.bound, built.empty⟩
  · intro loop first visited loading
    have sound := visits_sound (mtus k).toNat_lt (startLoop_sound (wide k) wf) visited
    exact TxLoop.loads_inBounds sound (TxLoop.loaded_loads sound.wf loading)
  · obtain ⟨done, exits, count, finished⟩ := populateTxBuffers_exits wide ⟨⟨origin.ctx, fifos⟩, []⟩ wf
    exact ⟨done, exits, by simpa using count, finished⟩

def twoQueued : BleFifos := (Link.initial.enqueue Link.splitMsgs).fifos

theorem tx_drains_two :
    ∃ done, Exits (populateTxBuffers fun _ => 20) ⟨⟨⟨emptyMsg, 0, false⟩, twoQueued⟩, []⟩ done ∧
      done.sender.queue = [] ∧ done.sender.ctx.msgActive = false := by
  have reached : Reach step Initial Unguarded ⟨⟨emptyMsg, 0, false⟩, ⟨emptyFifo, emptyFifo⟩⟩ := .start rfl
  have wide : ∀ _ : Nat, 20 ≤ (20 : UInt16).toNat := fun _ => by decide
  obtain ⟨done, exits, _, finished⟩ := (tx_drains reached twoQueued wide).2
  exact ⟨done, exits, finished⟩

end Sender

end WatchFirmware.Ble
