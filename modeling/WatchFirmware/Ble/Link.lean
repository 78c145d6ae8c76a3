import WatchFirmware.Ble.PacketSync

set_option autoImplicit false

namespace WatchFirmware.Ble

open Loop

/-- Both ends of a link, with every message the receiver has handed to `BLE_RX`. -/
structure Link where
  tx : TxCtx
  rx : RxCtx
  fifos : BleFifos
  pushed : List BleMsg

namespace Link

def sender (link : Link) : Sender := ⟨link.tx, link.fifos⟩

def enqueue (link : Link) (msgs : List BleMsg) : Link :=
  { link with fifos := msgs.foldl (fun fifos msg => (addBleMsgToQueue fifos msg .tx).2) link.fifos }

def built (link : Link) (sender : Sender) : Link :=
  { link with tx := sender.ctx, fifos := sender.fifos }

def receive (link : Link) (rx : RxCtx) (got : List BleMsg) : Link :=
  { link with
    rx := rx
    fifos := got.foldl (fun fifos msg => (addBleMsgToQueue fifos msg .rx).2) link.fifos
    pushed := link.pushed ++ got }

/-- One call of `bleBuildNextPacket`; a packet it returns goes straight to `bleRetrievePacket`. -/
def transfer (effectiveMtu : Nat) (link : Link) : Option Link :=
  (bleBuildNextPacket effectiveMtu link.sender).bind fun (ready, pkt, sender) =>
    if ready then
      (bleRetrievePacket pkt link.rx).map fun (rx, got) => (link.built sender).receive rx got
    else some (link.built sender)

def transmit (mtus : Nat → Nat) (link : Link) : Nat → Option Link
  | 0 => some link
  | n + 1 => (link.transmit mtus n).bind (transfer (mtus n))

def initial : Link :=
  { tx := ⟨emptyMsg, 0, false⟩
    rx := ⟨.waitMagic, emptyMsg, 0, false⟩
    fifos := ⟨emptyFifo, emptyFifo⟩
    pushed := [] }

structure Reset (link : Link) : Prop where
  tx_idle : link.tx.msgActive = false
  rx_idle : link.rx.Idle
  tx_empty : link.fifos.txFifo.contents = []
  rx_empty : link.fifos.rxFifo.contents = []
  pushed_nil : link.pushed = []

/-- From some number of packets on, exactly `msgs` has been pushed and waits in `BLE_RX`. -/
def RoundTrip (mtus : Nat → Nat) (link : Link) (msgs : List BleMsg) : Prop :=
  ∃ enough, ∀ n, enough ≤ n → ∃ after, link.transmit mtus n = some after ∧
    after.pushed.map BleMsg.view = msgs.map BleMsg.view ∧
    after.fifos.rxFifo.contents.map BleMsg.view = msgs.map BleMsg.view

end Link

theorem Link.initial_reset : Link.initial.Reset := by
  constructor
  · rfl
  · exact ⟨rfl, rfl⟩
  · rfl
  · rfl
  · rfl

/-- No packet ends right after the header of a message that has a payload. -/
def HeadersInside (mtus : Nat → Nat) (msgs : List BleMsg) : Prop :=
  ∀ k, (Layout.after mtus ⟨0, msgs.map BleMsg.size⟩ k).headerEnds (mtus k - 1) = false

theorem headersInside_of_settled {mtus : Nat → Nat} {msgs : List BleMsg} (n : Nat)
    (settled : Layout.after mtus ⟨0, msgs.map BleMsg.size⟩ n = ⟨0, []⟩)
    (inner : ∀ k, k < n → (Layout.after mtus ⟨0, msgs.map BleMsg.size⟩ k).headerEnds (mtus k - 1) = false) :
    HeadersInside mtus msgs := by
  intro k
  by_cases early : k < n
  · exact inner k early
  · rw [Layout.after_settled settled (Nat.le_of_not_lt early), Layout.headerEnds, headerEndsPacket]
    split <;> rfl

theorem enqueue_other {type other : BleCommType} (differs : other ≠ type) (msgs : List BleMsg)
    (fifos : BleFifos) :
    getFifo (msgs.foldl (fun fifos msg => (addBleMsgToQueue fifos msg type).2) fifos) other =
      getFifo fifos other := by
  induction msgs generalizing fifos with
  | nil => rfl
  | cons msg rest ih =>
      rw [List.foldl_cons, ih]
      unfold addBleMsgToQueue
      split
      · cases type <;> cases other <;> first | rfl | exact absurd rfl differs
      · rfl

theorem enqueue_contents (type : BleCommType) (msgs : List BleMsg) (fifos : BleFifos)
    (fits : ∀ msg ∈ msgs, msg.Fits)
    (room : (getFifo fifos type).contents.length + msgs.length ≤ bleFifoSize) :
    (getFifo (msgs.foldl (fun fifos msg => (addBleMsgToQueue fifos msg type).2) fifos) type).contents =
      (getFifo fifos type).contents ++ msgs := by
  induction msgs generalizing fifos with
  | nil => simp
  | cons msg rest ih =>
      simp only [List.length_cons] at room
      have added : (getFifo (addBleMsgToQueue fifos msg type).2 type).contents =
          (getFifo fifos type).contents ++ [msg] := by
        rw [addBleMsgToQueue_contents fifos (fits msg List.mem_cons_self) type]
        exact BoundedQueue.offer_room (by omega) msg
      rw [List.foldl_cons, ih]
      · rw [added, List.append_assoc, List.singleton_append]
      · exact fun x member => fits x (List.mem_cons_of_mem _ member)
      · rw [added, List.length_append, List.length_singleton]
        omega

namespace Link

/-- What has been pushed and what the sender still holds make up the messages, in order. -/
structure InStep (link : Link) (msgs : List BleMsg) : Prop where
  wf : link.sender.Wf
  synced : Sync link.tx link.rx
  split : msgs.map BleMsg.view = (link.pushed ++ link.sender.pending).map BleMsg.view
  waiting : link.fifos.rxFifo.contents.map BleMsg.view = link.pushed.map BleMsg.view

theorem fits_of_views {got sent : List BleMsg} (views : got.map BleMsg.view = sent.map BleMsg.view)
    (fits : ∀ msg ∈ sent, msg.Fits) : ∀ msg ∈ got, msg.Fits := by
  intro msg member
  have seen : msg.view ∈ sent.map BleMsg.view := views ▸ List.mem_map_of_mem member
  obtain ⟨origin, among, same⟩ := List.mem_map.mp seen
  have hdr : origin.hdr = msg.hdr := congrArg Prod.fst same
  have small := fits origin among
  rw [BleMsg.Fits, BleMsg.size, hdr] at small
  exact small

theorem InStep.transfer {effectiveMtu : Nat} {link : Link} {msgs : List BleMsg}
    (inStep : link.InStep msgs) (small : effectiveMtu < 2 ^ 16) (few : msgs.length ≤ bleFifoSize)
    (inner : link.sender.layout.headerEnds (effectiveMtu - 1) = false) :
    ∃ after, link.transfer effectiveMtu = some after ∧ after.InStep msgs ∧
      after.sender.layout = link.sender.layout.next (effectiveMtu - 1) := by
  obtain ⟨sender, pkt, sent, packet⟩ := Ble.packet small inStep.wf
  have layout := packet.layout_eq inner
  by_cases alone : pkt.length ≤ 1
  · obtain ⟨rfl, _, synced⟩ := packet.empty inStep.wf alone inStep.synced
    refine ⟨link.built sender, ?_, ?_, layout⟩
    · rw [Link.transfer, packet.built, Option.bind_some, decide_eq_false (by omega)]
      rfl
    · exact
        { wf := packet.wf
          synced := synced
          split := by
            rw [inStep.split, packet.pending_eq]
            rfl
          waiting := by
            simp only [built, packet.kept]
            exact inStep.waiting }
  · obtain ⟨rx, got, retrieved, views, synced⟩ := packet.received link.rx fun _ => inStep.synced
    rw [if_neg (by simp [inner])] at synced
    have kept : (link.built sender).fifos.rxFifo = link.fifos.rxFifo := packet.kept
    have fits : ∀ msg ∈ got, msg.Fits := fits_of_views views fun msg member =>
      Sender.pending_fits inStep.wf msg (packet.pending_eq ▸ List.mem_append_left _ member)
    have room : (getFifo (link.built sender).fifos .rx).contents.length + got.length ≤ bleFifoSize := by
      have total := congrArg List.length inStep.split
      have held := congrArg List.length inStep.waiting
      have same := congrArg List.length views
      have pending := congrArg List.length packet.pending_eq
      simp only [List.length_map, List.length_append] at total held same pending
      simp only [getFifo, kept]
      omega
    have queued := enqueue_contents .rx got (link.built sender).fifos fits room
    have untouched := enqueue_other (show BleCommType.tx ≠ .rx by decide) got (link.built sender).fifos
    have queue : ((link.built sender).receive rx got).sender.queue = sender.queue :=
      congrArg BleFifo.contents untouched
    have resent : ((link.built sender).receive rx got).sender.pending = sender.pending :=
      Sender.pending_same rfl queue
    refine ⟨(link.built sender).receive rx got, ?_, ?_, ?_⟩
    · rw [Link.transfer, packet.built, Option.bind_some, decide_eq_true (by omega)]
      simp only [if_true, retrieved, Option.map_some]
    · exact
        { wf := ⟨packet.wf.fits, packet.wf.inside⟩
          synced := synced
          split := by
            rw [inStep.split, packet.pending_eq, resent]
            simp only [receive, built, List.map_append, views, List.append_assoc]
          waiting := by
            simp only [getFifo] at queued
            simp only [receive, queued, kept, List.map_append, inStep.waiting]
            rfl }
    · rw [← layout]
      exact Sender.layout_same rfl queue

theorem InStep.start {link : Link} {msgs : List BleMsg} (reset : link.Reset)
    (few : msgs.length ≤ bleFifoSize) (fits : ∀ msg ∈ msgs, msg.Fits) :
    (link.enqueue msgs).InStep msgs ∧
      (link.enqueue msgs).sender.layout = ⟨0, msgs.map BleMsg.size⟩ := by
  have room : (getFifo link.fifos .tx).contents.length + msgs.length ≤ bleFifoSize := by
    simpa only [getFifo, reset.tx_empty, List.length_nil, Nat.zero_add] using few
  have queued := enqueue_contents .tx msgs link.fifos fits room
  simp only [getFifo, reset.tx_empty, List.nil_append] at queued
  have idle : (link.enqueue msgs).sender.ctx.msgActive = false := reset.tx_idle
  have fresh : (link.enqueue msgs).sender.Fresh := fun active => by simp [idle] at active
  have pending : (link.enqueue msgs).sender.pending = msgs := by
    rw [Sender.pending, idle]
    exact queued
  refine ⟨?_, by rw [Sender.layout_fresh fresh, pending]⟩
  exact
    { wf := ⟨fun active => by simp [idle] at active, fun active => by simp [idle] at active⟩
      synced := by
        rw [Sync, if_neg]
        · exact reset.rx_idle.2
        · rintro ⟨active, _⟩
          simp [enqueue, reset.tx_idle] at active
      split := by
        rw [pending]
        simp [enqueue, reset.pushed_nil]
      waiting := by
        have kept : (link.enqueue msgs).fifos.rxFifo = link.fifos.rxFifo :=
          enqueue_other (show BleCommType.rx ≠ .tx by decide) msgs link.fifos
        rw [kept, reset.rx_empty]
        simp [enqueue, reset.pushed_nil] }

theorem InStep.run {mtus : Nat → Nat} {link : Link} {msgs : List BleMsg}
    (small : ∀ k, mtus k < 2 ^ 16) (few : msgs.length ≤ bleFifoSize) (inStep : link.InStep msgs)
    (n : Nat) (inner : ∀ k, k < n → (link.sender.layout.after mtus k).headerEnds (mtus k - 1) = false) :
    ∃ after, link.transmit mtus n = some after ∧ after.InStep msgs ∧
      after.sender.layout = link.sender.layout.after mtus n := by
  induction n with
  | zero => exact ⟨link, rfl, inStep, rfl⟩
  | succ n ih =>
      obtain ⟨middle, taken, kept, layout⟩ := ih fun k before => inner k (by omega)
      obtain ⟨after, moved, still, next⟩ := kept.transfer (small n) few (layout ▸ inner n (by omega))
      refine ⟨after, ?_, still, ?_⟩
      · rw [transmit, taken, Option.bind_some, moved]
      · rw [next, layout, Layout.after]

theorem InStep.finished {link : Link} {msgs : List BleMsg} (inStep : link.InStep msgs)
    (none_left : link.sender.layout.load = 0) : link.sender.pending = [] := by
  simp only [Layout.load, Nat.add_eq_zero_iff] at none_left
  have sizes : link.sender.layout.sizes = [] := by
    cases sizes : link.sender.layout.sizes with
    | nil => rfl
    | cons size rest =>
        have total := none_left.2
        simp [sizes] at total
  by_cases running : link.sender.ctx.msgActive = true ∧ 0 < link.sender.ctx.offset
  · have inside := inStep.wf.inside running.1 running.2
    have owed := none_left.1
    rw [Sender.layout, if_pos running] at owed
    simp only at owed
    omega
  · rw [Sender.layout, if_neg running] at sizes
    exact List.map_eq_nil_iff.mp sizes

end Link

end WatchFirmware.Ble
