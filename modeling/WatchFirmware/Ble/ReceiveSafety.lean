import WatchFirmware.Shared.Transition
import WatchFirmware.Ble.PacketReceive

set_option autoImplicit false

namespace WatchFirmware.Ble

open Loop Transition

-- What happens to rx_ctx: a packet of a 16-bit length comes in, or the GAP handler resets it.
inductive RxAction where
  | packet (pkt : List Byte)
  | reset
  deriving DecidableEq

namespace RxCtx

def step (ctx : RxCtx) : RxAction → Option RxCtx
  | .packet pkt => if pkt.length < 2 ^ 16 then (bleRetrievePacket pkt ctx).map Prod.fst else none
  | .reset => some (rxResetContext ctx)

def Initial (ctx : RxCtx) : Prop := ctx.Idle ∧ ctx.offset = 0

structure Settled (ctx : RxCtx) : Prop where
  state : ctx.state = .waitMagic ∨ ctx.state = .readPayload
  active : ctx.state = .readPayload ↔ ctx.msgActive = true
  inside : ctx.state = .readPayload → ctx.offset < ctx.curMsg.size ∧ ctx.curMsg.size ≤ bleMaxPayloadSize

theorem Settled.of_idle {ctx : RxCtx} (idle : ctx.Idle) : ctx.Settled where
  state := .inl idle.1
  active := by simp [idle.1, idle.2]
  inside := by simp [idle.1]

theorem Settled.continuation {ctx : RxCtx} (settled : ctx.Settled) (flag : Byte) :
    (handleContinuation flag ctx).Settled := by
  unfold handleContinuation
  split
  next => exact .of_idle ⟨rfl, rfl⟩
  next =>
    split
    next => exact settled
    next idle => exact .of_idle ⟨rfl, Bool.eq_false_of_not_eq_true idle⟩

end RxCtx

namespace RxLoop

structure Sound (pkt : List Byte) (loop : RxLoop) : Prop where
  position : loop.i ≤ pkt.length
  header : loop.ctx.state = .readHeader → loop.i + 3 ≤ pkt.length
  active : loop.ctx.state = .readPayload ↔ loop.ctx.msgActive = true
  inside : loop.ctx.state = .readPayload →
    loop.ctx.offset < loop.ctx.curMsg.size ∧ loop.ctx.curMsg.size ≤ bleMaxPayloadSize
  queued : ∀ msg ∈ loop.queued, msg.Fits

variable {pkt : List Byte} {loop : RxLoop}

def Done (loop : RxLoop) : Prop := loop.ctx.Settled ∧ ∀ msg ∈ loop.queued, msg.Fits

theorem Sound.done (sound : loop.Sound pkt) (notHeader : loop.ctx.state ≠ .readHeader) : loop.Done := by
  refine ⟨⟨?_, sound.active, sound.inside⟩, sound.queued⟩
  cases state : loop.ctx.state with
  | waitMagic => exact .inl rfl
  | readHeader => exact absurd state notHeader
  | readPayload => exact .inr rfl

def Passes (pkt : List Byte) (result : Option (Flow RxLoop)) : Prop :=
  (∃ next, result = some (.again next) ∧ next.Sound pkt) ∨ ∃ after, result = some (.exit after) ∧ after.Done

theorem waitMagic_passes (sound : loop.Sound pkt) (inside : loop.i < pkt.length)
    (state : loop.ctx.state = .waitMagic) : Passes pkt (loop.waitMagic pkt) := by
  have inactive : ¬ loop.ctx.msgActive = true := by simp [← sound.active, state]
  simp only [waitMagic, List.getElem?_eq_getElem inside]
  split
  next =>
    refine .inl ⟨_, rfl, inside, ?_, ?_, ?_, sound.queued⟩
    · simp [state]
    · simpa [state] using inactive
    · simp [state]
  next =>
    split
    next => exact .inr ⟨loop, rfl, sound.done (by simp [state])⟩
    next whole =>
      refine .inl ⟨_, rfl, inside, fun _ => ?_, ?_, ?_, sound.queued⟩
      · show loop.i + 1 + 3 ≤ pkt.length
        omega
      · simpa using inactive
      · simp

theorem acceptHeader_sound (sound : loop.Sound pkt) (room : loop.i + 3 ≤ pkt.length) (hdr : BleMsgHdr) :
    (loop.acceptHeader hdr).Sound pkt := by
  have position := sound.position
  unfold acceptHeader
  dsimp only
  split
  next =>
    -- The rewind: the position is the one before the header again.
    exact ⟨by simpa using position, by simp, by simp, by simp, sound.queued⟩
  next valid =>
    split
    next empty =>
      refine ⟨room, by simp, by simp, by simp, ?_⟩
      intro msg member
      rcases List.mem_append.mp member with old | new
      · exact sound.queued msg old
      · rw [List.mem_singleton.mp new]
        exact Nat.le_of_not_lt valid
    next nonempty =>
      refine ⟨room, by simp, by simp, fun _ => ⟨?_, Nat.le_of_not_lt valid⟩, sound.queued⟩
      exact Nat.pos_of_ne_zero fun zero => nonempty (UInt8.toNat_inj.mp zero)

theorem readHeader_passes (sound : loop.Sound pkt) (state : loop.ctx.state = .readHeader) :
    Passes pkt (loop.readHeader pkt) := by
  have room := sound.header state
  have first : loop.i < pkt.length := by omega
  have second : loop.i + 1 < pkt.length := by omega
  have third : loop.i + 2 < pkt.length := by omega
  simp only [readHeader, if_neg (Nat.not_lt.mpr room), List.getElem?_eq_getElem first,
    List.getElem?_eq_getElem second, List.getElem?_eq_getElem third]
  exact .inl ⟨_, rfl, acceptHeader_sound sound room _⟩

theorem readPayload_passes (small : pkt.length < 2 ^ 16) (sound : loop.Sound pkt)
    (inside : loop.i < pkt.length) (state : loop.ctx.state = .readPayload) :
    Passes pkt (loop.readPayload pkt) := by
  obtain ⟨order, fits⟩ := sound.inside state
  rw [readPayload_eq small (Nat.le_of_lt inside) (Nat.le_of_lt order)]
  dsimp only
  generalize chunked : min (loop.ctx.curMsg.size - loop.ctx.offset) (pkt.length - loop.i) = chunk
  have taken : ((pkt.drop loop.i).take chunk).length = chunk := by
    rw [List.length_take, List.length_drop]
    omega
  obtain ⟨msg, copy, _⟩ := loop.ctx.curMsg.copyPayload_inside loop.ctx.offset ((pkt.drop loop.i).take chunk)
    (by rw [taken]; omega)
  have size : msg.size = loop.ctx.curMsg.size := by
    rw [BleMsg.size, BleMsg.copyPayload_hdr copy, BleMsg.size]
  rw [copy, Option.map_some]
  refine .inl ⟨_, rfl, ?_⟩
  unfold acceptPayload
  dsimp only
  split
  next =>
    refine ⟨?_, by simp, by simp, by simp, ?_⟩
    · show loop.i + chunk ≤ pkt.length
      omega
    · intro other member
      rcases List.mem_append.mp member with old | new
      · exact sound.queued other old
      · rw [List.mem_singleton.mp new, BleMsg.Fits, size]
        exact fits
  next unfinished =>
    refine ⟨?_, by simp [state], by simpa [state] using sound.active.mp state, fun _ => ?_, sound.queued⟩
    · show loop.i + chunk ≤ pkt.length
      omega
    · show loop.ctx.offset + chunk < msg.size ∧ msg.size ≤ bleMaxPayloadSize
      omega

theorem body_passes (small : pkt.length < 2 ^ 16) (sound : loop.Sound pkt) : Passes pkt (loop.body pkt) := by
  unfold body
  split
  next inside =>
    cases state : loop.ctx.state with
    | waitMagic => exact waitMagic_passes sound inside state
    | readHeader => exact readHeader_passes sound state
    | readPayload => exact readPayload_passes small sound inside state
  next outside =>
    refine .inr ⟨loop, rfl, sound.done fun state => ?_⟩
    have room := sound.header state
    omega

theorem exits (small : pkt.length < 2 ^ 16) (sound : loop.Sound pkt) :
    ∃ done, Exits (body pkt) loop done ∧ done.Done :=
  exists_exits (body_decreasing small) (fun _ held => body_passes small held) sound

end RxLoop

/-- `none` would be a read past the packet, a write past the payload or a loop that never ends. -/
theorem bleRetrievePacket_safe {pkt : List Byte} {ctx : RxCtx} (nonempty : pkt ≠ [])
    (small : pkt.length < 2 ^ 16) (settled : ctx.Settled) :
    ∃ after queued, bleRetrievePacket pkt ctx = some (after, queued) ∧ after.Settled ∧
      ∀ msg ∈ queued, msg.Fits := by
  cases pkt with
  | nil => exact absurd rfl nonempty
  | cons flag bytes =>
      have kept := settled.continuation flag
      have sound : RxLoop.Sound (flag :: bytes) ⟨1, handleContinuation flag ctx, []⟩ :=
        { position := by simp
          header := fun state => by rcases kept.state with idle | payload <;> simp_all
          active := kept.active
          inside := kept.inside
          queued := by simp }
      obtain ⟨done, exits, final⟩ := RxLoop.exits small sound
      exact ⟨done.ctx, done.queued, bleRetrievePacket_exits (by simpa using small) exits, final.1, final.2⟩

theorem RxCtx.Settled.step {ctx after : RxCtx} {action : RxAction} (settled : ctx.Settled)
    (taken : ctx.step action = some after) : after.Settled := by
  cases action with
  | reset =>
      cases taken
      exact .of_idle ⟨rfl, rfl⟩
  | packet pkt =>
      simp only [RxCtx.step, Option.ite_none_right_eq_some] at taken
      obtain ⟨small, retrieved⟩ := taken
      by_cases empty : pkt = []
      next =>
        rw [empty] at retrieved
        cases retrieved
        exact settled
      next =>
        obtain ⟨next, queued, same, kept, _⟩ := bleRetrievePacket_safe empty small settled
        rw [same] at retrieved
        cases retrieved
        exact kept

theorem RxCtx.settled_of_reach {ctx : RxCtx} (reached : Reach RxCtx.step Initial Unguarded ctx) :
    ctx.Settled :=
  reached.invariant (fun _ initial => .of_idle initial.1) fun _ _ _ settled _ taken => settled.step taken

/-- Every packet is parsed to its end without a fault, whatever came before it. -/
theorem retrieve_packet_safe {ctx : RxCtx} (reached : Reach RxCtx.step RxCtx.Initial Unguarded ctx)
    {pkt : List Byte} (nonempty : 1 ≤ pkt.length) (small : pkt.length ≤ 65535) :
    ctx.Settled ∧ ∃ after queued, bleRetrievePacket pkt ctx = some (after, queued) ∧ after.Settled ∧
      ∀ msg ∈ queued, msg.size ≤ bleMaxPayloadSize := by
  have settled := RxCtx.settled_of_reach reached
  refine ⟨settled, bleRetrievePacket_safe ?_ (by omega) settled⟩
  exact List.ne_nil_of_length_pos nonempty

theorem retrieve_packet_safe_rewinding :
    ∃ after queued, bleRetrievePacket [1, 0xA5, 0xA5, 7, 0xFF, 0xFE, 0xA5, 1, 2, 0] ⟨.waitMagic, emptyMsg, 0, false⟩ =
      some (after, queued) ∧ after.Settled ∧ ∀ msg ∈ queued, msg.size ≤ bleMaxPayloadSize :=
  have reached : Reach RxCtx.step RxCtx.Initial Unguarded ⟨.waitMagic, emptyMsg, 0, false⟩ :=
    .start ⟨⟨rfl, rfl⟩, rfl⟩
  (retrieve_packet_safe reached (by decide) (by decide)).2

end WatchFirmware.Ble
