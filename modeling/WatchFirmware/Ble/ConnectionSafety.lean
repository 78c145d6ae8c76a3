import WatchFirmware.Ble.Connection

set_option autoImplicit false

namespace WatchFirmware.Ble

open Transition

def drain : List (List Byte) → RxCtx → Option (RxCtx × List BleMsg)
  | [], rx => some (rx, [])
  | pkt :: rest, rx =>
      (bleRetrievePacket pkt rx).bind fun (middle, got) =>
        (drain rest middle).map fun (after, more) => (after, got ++ more)

theorem drain_cons {pkt : List Byte} {rest : List (List Byte)} {rx after : RxCtx} {got : List BleMsg}
    (drained : drain (pkt :: rest) rx = some (after, got)) :
    ∃ middle first more, bleRetrievePacket pkt rx = some (middle, first) ∧
      drain rest middle = some (after, more) ∧ got = first ++ more := by
  obtain ⟨⟨middle, first⟩, retrieved, remaining⟩ := Option.bind_eq_some_iff.mp drained
  obtain ⟨⟨last, more⟩, further, same⟩ := Option.map_eq_some_iff.mp remaining
  obtain ⟨rfl, rfl⟩ := Prod.mk.inj same
  exact ⟨middle, first, more, retrieved, further, rfl⟩

theorem drain_append {packets : List (List Byte)} {pkt : List Byte} {rx middle after : RxCtx}
    {got more : List BleMsg} (drained : drain packets rx = some (middle, got))
    (retrieved : bleRetrievePacket pkt middle = some (after, more)) :
    drain (packets ++ [pkt]) rx = some (after, got ++ more) := by
  induction packets generalizing rx got with
  | nil =>
      cases drained
      simp [drain, retrieved]
  | cons head rest ih =>
      obtain ⟨between, first, later, taken, remaining, rfl⟩ := drain_cons drained
      simp [drain, taken, ih remaining, List.append_assoc]

def Queued (queued : List BleMsg) (msg : BleMsg) : Prop := msg.view ∈ queued.map BleMsg.view

theorem Queued.of_mem {queued : List BleMsg} {msg : BleMsg} (member : msg ∈ queued) : Queued queued msg :=
  List.mem_map_of_mem member

theorem Queued.mono {queued : List BleMsg} {msg : BleMsg} (known : Queued queued msg)
    (more : List BleMsg) : Queued (queued ++ more) msg := by
  rw [Queued, List.map_append]
  exact List.mem_append_left _ known

theorem Queued.of_views {queued got sent : List BleMsg} (views : got.map BleMsg.view = sent.map BleMsg.view)
    (known : ∀ msg ∈ sent, Queued queued msg) : ∀ msg ∈ got, Queued queued msg := by
  intro msg member
  have seen : msg.view ∈ sent.map BleMsg.view := views ▸ List.mem_map_of_mem member
  obtain ⟨origin, among, same⟩ := List.mem_map.mp seen
  rw [Queued, ← same]
  exact known origin among

/-- A receiver in state `rx` reads only queued messages from the packet and ends in step. -/
def Lands (queued : List BleMsg) (tx : TxCtx) (pkt : List Byte) (rx : RxCtx) : Prop :=
  ∃ after got, bleRetrievePacket pkt rx = some (after, got) ∧ (∀ msg ∈ got, Queued queued msg) ∧
    Sync tx after

theorem Lands.mono {queued : List BleMsg} {tx : TxCtx} {pkt : List Byte} {rx : RxCtx}
    (lands : Lands queued tx pkt rx) (more : List BleMsg) : Lands (queued ++ more) tx pkt rx := by
  obtain ⟨after, got, retrieved, known, synced⟩ := lands
  exact ⟨after, got, retrieved, fun msg member => (known msg member).mono more, synced⟩

/-- What is true of a receiver that has read all of `air`. -/
def Ahead (queued : List BleMsg) (tx : TxCtx) (joined : Bool) (rx : RxCtx) : TxTask → Prop
  | .holding pkt =>
      (pkt.head? = some 0 → ∀ other, Lands queued tx pkt other) ∧
        (joined = true → Lands queued tx pkt rx)
  | _ => joined = true → Sync tx rx

theorem Ahead.mono {queued : List BleMsg} {tx : TxCtx} {joined : Bool} {rx : RxCtx} {task : TxTask}
    (ahead : Ahead queued tx joined rx task) (more : List BleMsg) :
    Ahead (queued ++ more) tx joined rx task := by
  cases task with
  | holding pkt =>
      exact ⟨fun starts other => (ahead.1 starts other).mono more,
        fun joined => (ahead.2 joined).mono more⟩
  | idle => exact ahead
  | building => exact ahead

theorem Ahead.lost {queued : List BleMsg} {tx : TxCtx} {joined : Bool} {rx : RxCtx} {task : TxTask}
    (ahead : Ahead queued tx joined rx task) (other : RxCtx) :
    Ahead queued tx false other task := by
  -- after a loss only a packet that starts a stream is sure to land
  cases task with
  | holding pkt => exact ⟨ahead.1, fun impossible => by simp at impossible⟩
  | idle => exact fun impossible => by simp at impossible
  | building => exact fun impossible => by simp at impossible

namespace Session

structure Sound (session : Session) : Prop where
  wf : session.manager.sender.Wf
  mtu : session.manager.effectiveMtu < 2 ^ 16
  pending : ∀ msg ∈ session.manager.sender.pending, Queued session.queued msg
  decoded : ∀ msg ∈ session.decoded, Queued session.queued msg
  openings : ∀ pkt ∈ session.openings, pkt.head? = some 0
  opening : session.opened = false →
    match session.air with
    | [] => session.joined = false
    | pkt :: _ => pkt.head? = some 0
  channel : ∃ rx got, drain session.air session.peer = some (rx, got) ∧
    (∀ msg ∈ got, Queued session.queued msg) ∧
    Ahead session.queued session.manager.sender.ctx session.joined rx session.manager.task

theorem Sound.start {session : Session} (initial : session.Initial) : session.Sound where
  wf := ⟨fun active => by simp [initial.tx_idle] at active, fun active => by simp [initial.tx_idle] at active⟩
  mtu := by rw [initial.mtu]; decide
  pending := by
    intro msg member
    simp [Sender.pending, initial.tx_idle, Sender.queue, initial.tx_empty] at member
  decoded := by simp [initial.decoded_nil]
  openings := by simp [initial.openings_nil]
  opening := by
    intro _
    rw [initial.air_empty]
    exact initial.unopened.2
  channel := by
    refine ⟨session.peer, [], by rw [initial.air_empty, drain], by simp, ?_⟩
    rw [initial.task_idle]
    exact fun joined => by simp [initial.unopened.2] at joined

theorem Sound.queue {session : Session} (sound : session.Sound) (msg : BleMsg) :
    (session.queue msg).Sound := by
  by_cases fits : msg.Fits
  · have added : addBleMsgToQueue session.manager.sender.fifos msg .tx =
        (true, setFifo session.manager.sender.fifos
          (session.manager.sender.fifos.txFifo.push msg fits) .tx) := dif_pos fits
    obtain ⟨rx, got, drained, known, ahead⟩ := sound.channel
    have waiting : ∀ x ∈ (session.queue msg).manager.sender.queue,
        x ∈ session.manager.sender.queue ∨ x = msg := by
      intro x member
      simp only [Session.queue, added, Sender.queue, setFifo, BleFifo.push_contents] at member
      exact BoundedQueue.mem_offer member
    have held : ∀ x ∈ (session.queue msg).manager.sender.pending,
        x ∈ session.manager.sender.pending ∨ x = msg := Sender.mem_pending rfl waiting
    simp only [Session.queue, added, if_true] at held ⊢
    exact
      { wf := ⟨sound.wf.fits, sound.wf.inside⟩
        mtu := sound.mtu
        pending := by
          intro x member
          rcases held x member with old | rfl
          · exact (sound.pending x old).mono _
          · exact .of_mem (by simp)
        decoded := fun x member => (sound.decoded x member).mono _
        openings := sound.openings
        opening := sound.opening
        channel := ⟨rx, got, drained, fun x member => (known x member).mono _, ahead.mono _⟩ }
  · have refused : addBleMsgToQueue session.manager.sender.fifos msg .tx =
        (false, session.manager.sender.fifos) := dif_neg fits
    simp only [Session.queue, refused, Bool.false_eq_true, if_false]
    exact ⟨sound.wf, sound.mtu, sound.pending, sound.decoded, sound.openings, sound.opening, sound.channel⟩

theorem Sound.fresh {session : Session} (sound : session.Sound) (rx : RxCtx)
    (peer : RxCtx) (handle : Option Nat) (connected notify opened : Bool) (mtu : Nat)
    (bound : mtu < 2 ^ 16) :
    Sound
      { session with
        manager := { session.manager with
          connHandle := handle, isConnected := connected, notificationsEnabled := notify,
          effectiveMtu := mtu, rx := rx }
        peer := peer, air := [], opened := opened, joined := false } := by
  -- events that end or begin a connection leave nothing in the air and nothing joined
  obtain ⟨_, _, _, _, ahead⟩ := sound.channel
  exact
    { wf := sound.wf
      mtu := bound
      pending := sound.pending
      decoded := sound.decoded
      openings := sound.openings
      opening := fun _ => rfl
      channel := ⟨peer, [], rfl, by simp, ahead.lost peer⟩ }

theorem Sound.gap {session after : Session} (sound : session.Sound) {event : GapEvent}
    (taken : session.gap event = some after) : after.Sound := by
  cases event with
  | connect status handle =>
      simp only [Session.gap, bleGapEvent] at taken
      split_ifs at taken
      · cases taken
        exact sound.fresh _ _ _ _ _ _ _ sound.mtu
      · cases taken
        exact sound
  | disconnect =>
      simp only [Session.gap, bleGapEvent] at taken
      split_ifs at taken
      cases taken
      exact sound.fresh _ session.peer _ _ _ session.opened _ (by decide)
  | mtu value =>
      cases taken
      have bound : (if 3 < value.toNat then value.toNat - 3 else 0) < 2 ^ 16 := by
        have := value.toNat_lt
        split <;> omega
      exact ⟨sound.wf, bound, sound.pending, sound.decoded, sound.openings, sound.opening, sound.channel⟩
  | subscribe curNotify =>
      cases taken
      exact ⟨sound.wf, sound.mtu, sound.pending, sound.decoded, sound.openings, sound.opening, sound.channel⟩

theorem Sound.poll {session after : Session} (sound : session.Sound)
    (taken : session.poll = some after) : after.Sound := by
  simp only [Session.poll] at taken
  split_ifs at taken with idle enabled
  · cases taken
    obtain ⟨rx, got, drained, known, ahead⟩ := sound.channel
    rw [idle] at ahead
    exact ⟨sound.wf, sound.mtu, sound.pending, sound.decoded, sound.openings, sound.opening,
      rx, got, drained, known, ahead⟩
  · cases taken
    exact sound

theorem Sound.build {session after : Session} (sound : session.Sound)
    (inner : session.manager.sender.layout.headerEnds (session.manager.effectiveMtu - 1) = false)
    (taken : session.build = some after) : after.Sound := by
  simp only [Session.build] at taken
  split at taken
  next building =>
    obtain ⟨sender, pkt, sent, packet⟩ := packet sound.mtu sound.wf
    rw [packet.built, Option.map_some] at taken
    cases taken
    obtain ⟨rx, got, drained, known, ahead⟩ := sound.channel
    rw [building] at ahead
    have rest : ∀ msg ∈ sender.pending, Queued session.queued msg := fun msg member =>
      sound.pending msg (packet.pending_eq ▸ List.mem_append_right _ member)
    have lands : ∀ other, (session.manager.sender.ctx.msgActive = true →
        Sync session.manager.sender.ctx other) → Lands session.queued sender.ctx pkt other := by
      intro other synced
      obtain ⟨last, read, retrieved, views, settled⟩ := packet.received other synced
      rw [if_neg (by simp [inner])] at settled
      exact ⟨last, read, retrieved, Queued.of_views views fun msg member =>
        sound.pending msg (packet.pending_eq ▸ List.mem_append_left _ member), settled⟩
    refine ⟨packet.wf, sound.mtu, rest, sound.decoded, sound.openings, sound.opening, rx, got, drained,
      known, ?_⟩
    by_cases alone : pkt.length ≤ 1
    · rw [decide_eq_false (by omega)]
      exact fun joined => (packet.empty sound.wf alone (ahead joined)).2.2
    · rw [decide_eq_true (by omega)]
      refine ⟨fun starts other => lands other fun active => ?_, fun joined => lands rx fun _ => ahead joined⟩
      -- A packet that starts a stream was built with no message under way.
      obtain ⟨bytes, rfl⟩ := packet.start
      simp [continuation, active] at starts
  next => cases taken

theorem Sound.mbufFails {session after : Session} (sound : session.Sound)
    (taken : session.mbufFails = some after) : after.Sound := by
  simp only [Session.mbufFails] at taken
  split at taken
  next pkt holding =>
    cases taken
    obtain ⟨rx, got, drained, known, ahead⟩ := sound.channel
    refine ⟨sound.wf, sound.mtu, sound.pending, sound.decoded, sound.openings, fun unopened => ?_,
      rx, got, drained, known, fun joined => by simp at joined⟩
    have opening := sound.opening unopened
    cases air : session.air with
    | nil => rfl
    | cons first rest =>
        rw [air] at opening
        exact opening
  next => cases taken

theorem Sound.notify {session after : Session} (sound : session.Sound) {rc : Nat}
    (contiguous : session.Contiguous (.notify rc)) (taken : session.notify rc = some after) :
    after.Sound := by
  simp only [Session.notify] at taken
  split at taken
  next pkt holding =>
    simp only [Contiguous, holding] at contiguous
    obtain ⟨rx, got, drained, known, ahead⟩ := sound.channel
    rw [holding] at ahead
    split_ifs at taken with sent
    · cases taken
      have lands : Lands session.queued session.manager.sender.ctx pkt rx := by
        rcases contiguous sent with starts | joined
        · exact ahead.1 starts rx
        · exact ahead.2 joined
      obtain ⟨last, read, retrieved, more, synced⟩ := lands
      refine ⟨sound.wf, sound.mtu, sound.pending, sound.decoded, sound.openings, fun unopened => ?_,
        last, got ++ read, drain_append drained retrieved, fun msg member => ?_, fun _ => synced⟩
      · have opening := sound.opening unopened
        cases air : session.air with
        | nil =>
            -- Nothing was joined on this connection, so its first packet starts a stream.
            rw [air] at opening
            exact (contiguous sent).resolve_right (by simp [opening])
        | cons first rest =>
            rw [air] at opening
            exact opening
      · rcases List.mem_append.mp member with early | late
        · exact known msg early
        · exact more msg late
    · cases taken
      refine ⟨sound.wf, sound.mtu, sound.pending, sound.decoded, sound.openings, fun unopened => ?_,
        rx, got, drained, known, fun joined => by simp at joined⟩
      have opening := sound.opening unopened
      cases air : session.air with
      | nil => rfl
      | cons first rest =>
          rw [air] at opening
          exact opening
  next => cases taken

theorem Sound.deliver {session after : Session} (sound : session.Sound)
    (taken : session.deliver = some after) : after.Sound := by
  simp only [Session.deliver] at taken
  split at taken
  next => cases taken
  next pkt rest air =>
    obtain ⟨⟨peer, first⟩, retrieved, rfl⟩ := Option.map_eq_some_iff.mp taken
    obtain ⟨rx, got, drained, known, ahead⟩ := sound.channel
    rw [air] at drained
    obtain ⟨middle, read, more, same, remaining, rfl⟩ := drain_cons drained
    obtain ⟨rfl, rfl⟩ := Prod.mk.inj (Option.some.inj (same.symm.trans retrieved))
    refine ⟨sound.wf, sound.mtu, sound.pending, fun msg member => ?_, fun packet member => ?_,
      fun impossible => by simp at impossible, rx, more, remaining,
      fun msg member => known msg (List.mem_append_right _ member), ahead⟩
    · rcases List.mem_append.mp member with early | late
      · exact sound.decoded msg early
      · exact known msg (List.mem_append_left _ late)
    · cases opened : session.opened with
      | true =>
          simp only [opened, if_true] at member
          exact sound.openings packet member
      | false =>
          simp only [opened, Bool.false_eq_true, if_false] at member
          rcases List.mem_append.mp member with early | last
          · exact sound.openings packet early
          · have opening := sound.opening opened
            rw [air] at opening
            rw [List.mem_singleton.mp last]
            exact opening

theorem Sound.step {session after : Session} {action : Action} (sound : session.Sound)
    (contiguous : session.Contiguous action) (taken : session.step action = some after) :
    after.Sound := by
  cases action with
  | queue msg =>
      cases taken
      exact sound.queue msg
  | gap event => exact sound.gap taken
  | poll => exact sound.poll taken
  | build => exact sound.build contiguous taken
  | mbufFails => exact sound.mbufFails taken
  | notify rc => exact sound.notify contiguous taken
  | deliver => exact sound.deliver taken

/-- The receiver decodes only queued messages, and every connection's first packet starts a stream. -/
theorem no_phantom_message {session : Session} (reached : Reach step Initial Contiguous session) :
    (∀ msg ∈ session.decoded, msg.view ∈ session.queued.map BleMsg.view) ∧
      ∀ pkt ∈ session.openings, pkt.head? = some 0 := by
  have sound := reached.invariant (fun _ => Sound.start)
    fun _ _ _ sound contiguous taken => sound.step contiguous taken
  exact ⟨sound.decoded, sound.openings⟩

def initial : Session :=
  { manager := ⟨none, false, false, 20, ⟨.waitMagic, emptyMsg, 0, false⟩,
      ⟨⟨emptyMsg, 0, false⟩, ⟨emptyFifo, emptyFifo⟩⟩, .idle⟩
    peer := ⟨.waitMagic, emptyMsg, 0, false⟩
    air := []
    queued := []
    decoded := []
    openings := []
    opened := false
    joined := false }

theorem initial_initial : initial.Initial := by
  constructor <;> first | rfl | exact ⟨rfl, rfl⟩

def longMsg : BleMsg :=
  .make 1 2 (List.replicate 34 0 ++ [bleMagic, 9, 9, 0] ++ List.replicate 12 0) (by decide)

-- The second packet is lost with the connection, and the message is not taken up again.
def lossyRun : List Action :=
  [.gap (.connect 0 1), .gap (.subscribe 1), .queue longMsg, .poll, .build, .notify 0, .deliver, .build,
    .gap .disconnect, .gap (.connect 0 2), .notify 6, .build, .notify 6, .build, .queue longMsg,
    .gap (.mtu 64), .gap (.subscribe 1), .poll, .build, .notify 0, .deliver]

theorem no_phantom_message_lossy :
    ∃ session, Reach step Initial Contiguous session ∧ session.decoded.map BleMsg.view = [longMsg.view] ∧
      (∀ msg ∈ session.decoded, msg.view ∈ session.queued.map BleMsg.view) ∧
        ∀ pkt ∈ session.openings, pkt.head? = some 0 := by
  have ran : ((run step initial lossyRun).map fun session => session.decoded.map BleMsg.view) =
      some [longMsg.view] := by decide +kernel
  obtain ⟨session, taken, decoded⟩ := Option.map_eq_some_iff.mp ran
  have guarded : Guarded step Contiguous initial lossyRun := by decide +kernel
  have reached := (Reach.start initial_initial).of_run guarded taken
  exact ⟨session, reached, decoded, no_phantom_message reached⟩

def cutRun : List Action :=
  [.gap (.connect 0 1), .gap (.subscribe 1), .queue longMsg, .poll, .build, .notify 0, .deliver, .build,
    .mbufFails, .gap .disconnect, .gap (.connect 0 2), .gap (.subscribe 1), .poll, .build, .notify 0, .deliver]

theorem phantom_message_after_reconnect :
    ∃ session, Reach step Initial Unguarded session ∧
      (∃ msg ∈ session.decoded, msg.view ∉ session.queued.map BleMsg.view) ∧
      ∃ pkt ∈ session.openings, pkt.head? ≠ some 0 := by
  have ran : ((run step initial cutRun).map fun session =>
      (session.queued.map BleMsg.view, session.decoded.map BleMsg.view,
        session.openings.map List.head?)) =
      some ([longMsg.view], [(⟨9, 9, 0⟩, [])], [some 0, some 1]) := by decide +kernel
  obtain ⟨session, taken, seen⟩ := Option.map_eq_some_iff.mp ran
  obtain ⟨queued, decoded, openings⟩ : session.queued.map BleMsg.view = [longMsg.view] ∧
      session.decoded.map BleMsg.view = [(⟨9, 9, 0⟩, [])] ∧
      session.openings.map List.head? = [some 0, some 1] := by
    simpa only [Prod.mk.injEq] using seen
  refine ⟨session, (Reach.start initial_initial).of_run (guarded_unguarded _ _ _) taken, ?_, ?_⟩
  · have phantom : (⟨9, 9, 0⟩, []) ∈ session.decoded.map BleMsg.view := by rw [decoded]; simp
    obtain ⟨msg, member, view⟩ := List.mem_map.mp phantom
    refine ⟨msg, member, ?_⟩
    rw [view, queued]
    decide
  · have continued : some 1 ∈ session.openings.map List.head? := by rw [openings]; simp
    obtain ⟨pkt, member, head⟩ := List.mem_map.mp continued
    refine ⟨pkt, member, ?_⟩
    rw [head]
    decide

end Session

end WatchFirmware.Ble
