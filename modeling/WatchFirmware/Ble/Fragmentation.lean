import WatchFirmware.Ble.Link
import WatchFirmware.Ble.ReceiveSafety

set_option autoImplicit false

namespace WatchFirmware.Ble

open Loop

inductive Mark where
  | garbage
  | magic
  | header
  | payload
  deriving DecidableEq, Repr

inductive Item where
  | garbage (byte : Byte) (plain : byte ≠ bleMagic)
  | frame (msg : BleMsg) (fits : msg.Fits)

def payloadMarks (bytes : List Byte) : List (Byte × Mark) := bytes.map fun byte => (byte, .payload)

def headerMarks (hdr : BleMsgHdr) : List (Byte × Mark) :=
  [(bleMagic, .magic), (hdr.opcode, .header), (hdr.reqApp, .header), (hdr.len, .header)]

def Item.marked : Item → List (Byte × Mark)
  | .garbage byte _ => [(byte, .garbage)]
  | .frame msg _ => headerMarks msg.hdr ++ payloadMarks msg.data

def streamOf (items : List Item) : List (Byte × Mark) := items.flatMap Item.marked

def messagesOf : List Item → List BleMsg
  | [] => []
  | .garbage _ _ :: rest => messagesOf rest
  | .frame msg _ :: rest => msg :: messagesOf rest

/-- A packet: its continuation byte and the part of the stream it carries. -/
structure Piece where
  flag : Byte
  bytes : List (Byte × Mark)
  deriving DecidableEq

def Piece.packet (piece : Piece) : List Byte := piece.flag :: piece.bytes.map Prod.fst

/-- The continuation bytes a packet may have whose part of the stream starts here. No packet starts inside
a header. -/
def FlagFits (flag : Byte) (stream : List (Byte × Mark)) : Prop :=
  match stream.head?.map Prod.snd with
  | some .header => False
  | some .payload => flag = 1
  | _ => flag = 0 ∨ flag = 1

instance (flag : Byte) (stream : List (Byte × Mark)) : Decidable (FlagFits flag stream) :=
  match same : stream.head?.map Prod.snd with
  | some .header => .isFalse (by simp [FlagFits, same])
  | some .payload => decidable_of_iff (flag = 1) (by simp [FlagFits, same])
  | some .garbage | some .magic | none => decidable_of_iff (flag = 0 ∨ flag = 1) (by simp [FlagFits, same])

def CutsInto (stream : List (Byte × Mark)) : List Piece → Prop
  | [] => stream = []
  | piece :: rest =>
      FlagFits piece.flag stream ∧ piece.packet.length < 2 ^ 16 ∧ piece.bytes <+: stream ∧
        CutsInto (stream.drop piece.bytes.length) rest

structure Receiver where
  ctx : RxCtx
  fifos : BleFifos

namespace Receiver

/-- One packet; the messages it completes go to `BLE_RX` in order. -/
def receive (receiver : Receiver) (pkt : List Byte) : Option (List BleMsg × Receiver) :=
  (bleRetrievePacket pkt receiver.ctx).map fun (ctx, got) =>
    (got, ⟨ctx, got.foldl (fun fifos msg => (addBleMsgToQueue fifos msg .rx).2) receiver.fifos⟩)

def receiveAll (receiver : Receiver) : List (List Byte) → Option (List BleMsg × Receiver)
  | [] => some ([], receiver)
  | pkt :: rest =>
      (receiver.receive pkt).bind fun (got, next) =>
        (next.receiveAll rest).map fun (more, last) => (got ++ more, last)

end Receiver

/-- The receiver has read the stream up to here; the views are the messages it has yet to push. -/
inductive Position (ctx : RxCtx) : List (Byte × Mark) → List (BleMsgHdr × List Byte) → Prop where
  | between (items : List Item) (inactive : ctx.msgActive = false) :
      Position ctx (streamOf items) ((messagesOf items).map BleMsg.view)
  | inside (items : List Item) {hdr : BleMsgHdr} {got more : List Byte} (receiving : Receiving ctx hdr got)
      (left : more ≠ []) (full : got.length + more.length = hdr.len.toNat) :
      Position ctx (payloadMarks more ++ streamOf items)
        ((hdr, got ++ more) :: (messagesOf items).map BleMsg.view)

structure Consumed (pkt : List Byte) (loop : RxLoop) (behind : List (Byte × Mark))
    (views : List (BleMsgHdr × List Byte)) (done : RxLoop) (got : List BleMsg) : Prop where
  exits : Exits (RxLoop.body pkt) loop done
  queued : done.queued = loop.queued ++ got
  position : ∃ rest, views = got.map BleMsg.view ++ rest ∧ Position done.ctx behind rest

def OutsideHeader (stream : List (Byte × Mark)) : Prop := stream.head?.map Prod.snd ≠ some .header

@[simp] theorem payloadMarks_bytes (bytes : List Byte) : (payloadMarks bytes).map Prod.fst = bytes := by
  simp [payloadMarks, Function.comp_def]

theorem consumed_nothing {pkt : List Byte} {loop : RxLoop} {stream : List (Byte × Mark)}
    {views : List (BleMsgHdr × List Byte)} (finished : pkt.length ≤ loop.i)
    (position : Position loop.ctx stream views) : Consumed pkt loop stream views loop [] where
  exits := .exit (by rw [RxLoop.body, if_neg (by omega)])
  queued := by simp
  position := ⟨views, rfl, position⟩

theorem garbage_skipped {pkt : List Byte} {loop : RxLoop} {byte : Byte} {rest : List Byte}
    (plain : byte ≠ bleMagic) (waiting : loop.ctx.state = .waitMagic) (ahead : pkt.drop loop.i = byte :: rest) :
    loop.body pkt = some (.again { loop with i := loop.i + 1 }) ∧ pkt.drop (loop.i + 1) = rest := by
  have inside := RxLoop.inside_of_drop ahead (List.cons_ne_nil byte rest)
  have found : pkt[loop.i]? = some byte := by
    rw [← List.head?_drop, ahead]
    rfl
  refine ⟨?_, ?_⟩
  · rw [RxLoop.body, if_pos inside, waiting]
    simp only [RxLoop.waitMagic, found, ne_eq, plain, not_false_eq_true, if_true]
  · rw [← List.drop_drop, ahead]
    rfl

theorem Consumed.after {pkt : List Byte} {loop next done : RxLoop} {behind : List (Byte × Mark)}
    {views : List (BleMsgHdr × List Byte)} {got : List BleMsg}
    (rest : Consumed pkt next behind views done got) (queued : next.queued = loop.queued)
    (leads : ∀ last, Exits (RxLoop.body pkt) next last → Exits (RxLoop.body pkt) loop last) :
    Consumed pkt loop behind views done got where
  exits := leads done rest.exits
  queued := queued ▸ rest.queued
  position := rest.position

theorem Consumed.message {pkt : List Byte} {loop next done : RxLoop} {behind : List (Byte × Mark)}
    {views : List (BleMsgHdr × List Byte)} {first : BleMsg} {got : List BleMsg}
    (rest : Consumed pkt next behind views done got) (queued : next.queued = loop.queued ++ [first])
    (leads : ∀ last, Exits (RxLoop.body pkt) next last → Exits (RxLoop.body pkt) loop last) :
    Consumed pkt loop behind (first.view :: views) done (first :: got) where
  exits := leads done rest.exits
  queued := by rw [rest.queued, queued, List.append_assoc, List.singleton_append]
  position := by
    obtain ⟨left, same, position⟩ := rest.position
    exact ⟨left, by rw [same]; rfl, position⟩

theorem cut_behind_header {hdr : BleMsgHdr} {rest bytes behind : List (Byte × Mark)}
    (split : headerMarks hdr ++ rest = bytes ++ behind) (outside : OutsideHeader behind) :
    bytes = [] ∨ ∃ more, bytes = headerMarks hdr ++ more ∧ rest = more ++ behind := by
  rcases List.append_eq_append_iff.mp split with ⟨more, whole, left⟩ | ⟨front, cut, left⟩
  · exact .inr ⟨more, whole, left⟩
  · cases front with
    | nil => exact .inr ⟨[], by rw [cut, List.append_nil, List.append_nil], left.symm⟩
    | cons next front =>
        -- The packet ends in front of the header: any other byte of it would start the rest.
        cases bytes with
        | nil => exact .inl rfl
        | cons first bytes =>
            have later : next ∈ [(hdr.opcode, Mark.header), (hdr.reqApp, .header), (hdr.len, .header)] := by
              rw [(List.cons.inj cut).2]
              exact List.mem_append_right bytes List.mem_cons_self
            have isHeader : next.2 = .header := by
              simp only [List.mem_cons, List.not_mem_nil, or_false] at later
              rcases later with rfl | rfl | rfl <;> rfl
            rw [left] at outside
            exact absurd (congrArg some isHeader) outside

theorem cut_payload {payload : List Byte} {rest bytes behind : List (Byte × Mark)}
    (split : payloadMarks payload ++ rest = bytes ++ behind) :
    (∃ more, bytes = payloadMarks payload ++ more ∧ rest = more ++ behind) ∨
      ∃ early late, payload = early ++ late ∧ late ≠ [] ∧ bytes = payloadMarks early ∧
        behind = payloadMarks late ++ rest := by
  rcases List.append_eq_append_iff.mp split with ⟨more, whole, left⟩ | ⟨cut, marks, left⟩
  · exact .inl ⟨more, whole, left⟩
  · obtain ⟨early, late, rfl, rfl, rfl⟩ := List.map_eq_append_iff.mp marks
    by_cases none : late = []
    · refine .inl ⟨[], ?_, ?_⟩
      · simp [none, payloadMarks]
      · simp [left, none]
    · exact .inr ⟨early, late, rfl, none, rfl, left⟩

theorem consumed_between {pkt : List Byte} (small : pkt.length < 2 ^ 16) {behind : List (Byte × Mark)}
    (outside : OutsideHeader behind) (items : List Item) (loop : RxLoop) {bytes : List (Byte × Mark)}
    (idle : loop.ctx.Idle) (split : streamOf items = bytes ++ behind)
    (ahead : pkt.drop loop.i = bytes.map Prod.fst) :
    ∃ done got, Consumed pkt loop behind ((messagesOf items).map BleMsg.view) done got := by
  induction items generalizing loop bytes with
  | nil =>
      obtain ⟨rfl, rfl⟩ := List.append_eq_nil_iff.mp split.symm
      exact ⟨loop, [], consumed_nothing (List.drop_eq_nil_iff.mp ahead) (.between [] idle.2)⟩
  | cons item items ih =>
      by_cases empty : bytes = []
      next =>
        subst empty
        rw [List.nil_append] at split
        rw [← split]
        exact ⟨loop, [], consumed_nothing (List.drop_eq_nil_iff.mp ahead) (.between _ idle.2)⟩
      next =>
        cases item with
        | garbage byte plain =>
            obtain ⟨mark, rest, rfl⟩ := List.exists_cons_of_ne_nil empty
            obtain ⟨rfl, further⟩ := List.cons.inj split
            obtain ⟨round, later⟩ := garbage_skipped plain idle.1 ahead
            obtain ⟨done, got, consumed⟩ := ih { loop with i := loop.i + 1 } idle further later
            exact ⟨done, got, consumed.after rfl fun _ exits => .again round exits⟩
        | frame msg fits =>
            have split : headerMarks msg.hdr ++ (payloadMarks msg.data ++ streamOf items) = bytes ++ behind := by
              rw [← List.append_assoc]
              exact split
            rcases cut_behind_header split outside with none | ⟨more, rfl, behindHeader⟩
            · exact absurd none empty
            · have ahead : pkt.drop loop.i = msg.header ++ more.map Prod.fst := by
                rw [ahead, List.map_append]
                rfl
              rcases cut_payload behindHeader with ⟨rest, rfl, further⟩ | ⟨early, late, data, left, rfl, rfl⟩
              · have whole : pkt.drop loop.i = msg.frame ++ rest.map Prod.fst := by
                  rw [ahead, List.map_append, payloadMarks_bytes, BleMsg.frame, List.append_assoc]
                obtain ⟨first, ctx, view, settled, leads⟩ := RxLoop.frame_complete small fits idle.1 whole
                have behindFrame : pkt.drop (loop.i + msg.frame.length) = rest.map Prod.fst := by
                  rw [← List.drop_drop, whole, List.drop_left]
                obtain ⟨done, got, consumed⟩ := ih ⟨loop.i + msg.frame.length, ctx, loop.queued ++ [first]⟩
                  settled further behindFrame
                refine ⟨done, first :: got, ?_⟩
                have views : (messagesOf (.frame msg fits :: items)).map BleMsg.view =
                    first.view :: (messagesOf items).map BleMsg.view := by
                  rw [view]
                  rfl
                rw [views]
                exact consumed.message rfl leads
              · have length := congrArg List.length data
                have positive := List.length_pos_iff.mpr left
                rw [BleMsg.data_length fits, List.length_append] at length
                rw [payloadMarks_bytes] at ahead
                obtain ⟨ctx, receiving, exits⟩ := RxLoop.frame_partial small fits idle.1 ahead (by omega)
                have views : (messagesOf (.frame msg fits :: items)).map BleMsg.view =
                    (msg.hdr, early ++ late) :: (messagesOf items).map BleMsg.view := by
                  rw [← data]
                  rfl
                rw [views]
                refine ⟨_, [], ⟨exits, (List.append_nil _).symm, _, rfl, .inside items receiving left ?_⟩⟩
                exact length.symm

theorem consumed_packet {flag : Byte} {ctx : RxCtx} {bytes behind : List (Byte × Mark)}
    {views : List (BleMsgHdr × List Byte)} (small : bytes.length + 1 < 2 ^ 16)
    (position : Position ctx (bytes ++ behind) views) (flagFits : FlagFits flag (bytes ++ behind))
    (outside : OutsideHeader behind) :
    ∃ done got, Consumed (flag :: bytes.map Prod.fst) ⟨1, handleContinuation flag ctx, []⟩ behind views
      done got := by
  have length : (flag :: bytes.map Prod.fst).length < 2 ^ 16 := by simpa using small
  generalize whole : bytes ++ behind = stream at position flagFits
  cases position with
  | between items inactive =>
      refine consumed_between length outside items _ ?_ whole.symm rfl
      unfold handleContinuation
      split
      next => exact ⟨rfl, rfl⟩
      next =>
        rw [if_neg (by simp [inactive])]
        exact ⟨rfl, inactive⟩
  | inside items receiving left full =>
      rename_i hdr got more
      obtain ⟨head, tail, rfl⟩ := List.exists_cons_of_ne_nil left
      obtain rfl : flag = 1 := flagFits
      rw [receiving.continues]
      rcases cut_payload whole.symm with ⟨rest, rfl, further⟩ | ⟨early, late, split, more, rfl, rfl⟩
      · have ahead : (1 :: (payloadMarks (head :: tail) ++ rest).map Prod.fst).drop 1 =
            (head :: tail) ++ rest.map Prod.fst := by
          rw [List.drop_one, List.tail_cons, List.map_append, payloadMarks_bytes]
        obtain ⟨msg, after, view, idle, round⟩ :=
          RxLoop.payload_complete ⟨1, ctx, []⟩ length receiving ahead left full
        have later := congrArg (List.drop (head :: tail).length) ahead
        rw [List.drop_drop, List.drop_left] at later
        obtain ⟨done, others, consumed⟩ := consumed_between length outside items
          ⟨1 + (head :: tail).length, after, [] ++ [msg]⟩ idle further later
        refine ⟨done, msg :: others, ?_⟩
        rw [← view]
        exact consumed.message rfl fun _ exits => .again round exits
      · have positive := List.length_pos_iff.mpr more
        rw [split, List.length_append] at full
        have ahead : (1 :: (payloadMarks early).map Prod.fst).drop 1 = early := by
          rw [List.drop_one, List.tail_cons, payloadMarks_bytes]
        obtain ⟨after, further, exits⟩ := RxLoop.payload_partial ⟨1, ctx, []⟩ length receiving
          (by simp) ahead (by omega)
        refine ⟨_, [], ⟨exits, rfl, _, rfl, ?_⟩⟩
        rw [split, ← List.append_assoc]
        exact .inside items further more (by rw [List.length_append]; omega)

theorem position_finished {ctx : RxCtx} {views : List (BleMsgHdr × List Byte)}
    (position : Position ctx [] views) : views = [] := by
  generalize empty : ([] : List (Byte × Mark)) = stream at position
  cases position with
  | between items inactive =>
      cases items with
      | nil => rfl
      | cons item rest => cases item <;> cases empty
  | inside items receiving left full =>
      obtain ⟨marks, _⟩ := List.append_eq_nil_iff.mp empty.symm
      exact absurd (List.map_eq_nil_iff.mp marks) left

theorem CutsInto.outside {stream : List (Byte × Mark)} {pieces : List Piece}
    (cuts : CutsInto stream pieces) : OutsideHeader stream := by
  cases pieces with
  | nil =>
      obtain rfl : stream = [] := cuts
      simp [OutsideHeader]
  | cons piece rest =>
      intro isHeader
      have fits := cuts.1
      rw [FlagFits, isHeader] at fits
      exact fits

namespace Receiver

theorem receive_pieces (pieces : List Piece) (receiver : Receiver) {stream : List (Byte × Mark)}
    {views : List (BleMsgHdr × List Byte)} (position : Position receiver.ctx stream views)
    (cuts : CutsInto stream pieces) :
    ∃ pushed after, receiver.receiveAll (pieces.map Piece.packet) = some (pushed, after) ∧
      pushed.map BleMsg.view = views := by
  induction pieces generalizing receiver stream views with
  | nil =>
      obtain rfl : stream = [] := cuts
      exact ⟨[], receiver, rfl, (position_finished position).symm⟩
  | cons piece rest ih =>
      obtain ⟨flagFits, small, ⟨behind, rfl⟩, further⟩ := cuts
      rw [List.drop_left] at further
      have length : piece.bytes.length + 1 < 2 ^ 16 := by simpa [Piece.packet] using small
      obtain ⟨done, got, consumed⟩ := consumed_packet length position flagFits further.outside
      obtain ⟨left, rfl, next⟩ := consumed.position
      have retrieved := bleRetrievePacket_exits (by simpa using length) consumed.exits
      rw [consumed.queued, List.nil_append] at retrieved
      obtain ⟨pushed, after, ran, same⟩ := ih
        ⟨done.ctx, got.foldl (fun fifos msg => (addBleMsgToQueue fifos msg .rx).2) receiver.fifos⟩ next further
      refine ⟨got ++ pushed, after, ?_, by rw [List.map_append, same]⟩
      rw [List.map_cons, receiveAll, receive, Piece.packet, retrieved]
      simp only [Option.map_some, Option.bind_some, ran]

theorem receiveAll_fifos (pkts : List (List Byte)) {receiver after : Receiver} {pushed : List BleMsg}
    (ran : receiver.receiveAll pkts = some (pushed, after)) :
    after.fifos = pushed.foldl (fun fifos msg => (addBleMsgToQueue fifos msg .rx).2) receiver.fifos := by
  induction pkts generalizing receiver pushed with
  | nil =>
      cases ran
      rfl
  | cons pkt rest ih =>
      obtain ⟨⟨got, next⟩, first, more⟩ := Option.bind_eq_some_iff.mp ran
      obtain ⟨⟨others, last⟩, remaining, same⟩ := Option.map_eq_some_iff.mp more
      obtain ⟨⟨ctx, msgs⟩, _, moved⟩ := Option.map_eq_some_iff.mp first
      cases same
      cases moved
      rw [ih remaining, List.foldl_append]

end Receiver

structure RxCtx.Alike (ctx twin : RxCtx) : Prop where
  state : twin.state = ctx.state
  active : twin.msgActive = ctx.msgActive
  inside : ctx.state = .readPayload → twin.curMsg.hdr = ctx.curMsg.hdr ∧ twin.offset = ctx.offset ∧
    twin.curMsg.payload.take ctx.offset = ctx.curMsg.payload.take ctx.offset

namespace RxLoop

structure Alike (loop twin : RxLoop) : Prop where
  i : twin.i = loop.i
  ctx : loop.ctx.Alike twin.ctx
  queued : twin.queued.map BleMsg.view = loop.queued.map BleMsg.view

variable {pkt : List Byte} {loop twin : RxLoop}

theorem waitMagic_lockstep (alike : loop.Alike twin) :
    Lockstep Alike (loop.waitMagic pkt) (twin.waitMagic pkt) := by
  unfold waitMagic
  rw [alike.i]
  cases pkt[loop.i]? with
  | none => exact .fault
  | some byte =>
      dsimp only
      split
      next => exact .again ⟨rfl, alike.ctx, alike.queued⟩
      next =>
        split
        next => exact .exit alike
        next => exact .again ⟨rfl, ⟨rfl, alike.ctx.active, by simp⟩, alike.queued⟩

theorem acceptHeader_alike (alike : loop.Alike twin) (hdr : BleMsgHdr) :
    (loop.acceptHeader hdr).Alike (twin.acceptHeader hdr) := by
  have position := alike.i
  unfold acceptHeader
  dsimp only
  split
  next => exact ⟨by simpa using position, ⟨rfl, rfl, by simp⟩, alike.queued⟩
  next =>
    split
    next empty =>
      refine ⟨by simpa using position, ⟨rfl, rfl, by simp⟩, ?_⟩
      simp [alike.queued, BleMsg.view, BleMsg.data, BleMsg.size, empty]
    next => exact ⟨by simpa using position, ⟨rfl, rfl, fun _ => ⟨rfl, rfl, rfl⟩⟩, alike.queued⟩

theorem readHeader_lockstep (alike : loop.Alike twin) :
    Lockstep Alike (loop.readHeader pkt) (twin.readHeader pkt) := by
  unfold readHeader
  rw [alike.i]
  split
  next => exact .exit alike
  next =>
    split
    next => exact .again (acceptHeader_alike alike _)
    next => exact .fault

theorem copyPayload_alike {msg twin : BleMsg} {offset : Nat} (hdr : twin.hdr = msg.hdr) (cells : List Byte)
    (bytes : twin.payload.take offset = msg.payload.take offset) :
    (msg.copyPayload offset cells = none ∧ twin.copyPayload offset cells = none) ∨
      ∃ after other, msg.copyPayload offset cells = some after ∧ twin.copyPayload offset cells = some other ∧
        after.hdr = msg.hdr ∧ other.hdr = msg.hdr ∧
        other.payload.take (offset + cells.length) = after.payload.take (offset + cells.length) := by
  by_cases inside : offset + cells.length ≤ bleMaxPayloadSize
  next =>
    obtain ⟨after, copy, stored⟩ := msg.copyPayload_inside offset cells inside
    obtain ⟨other, twinCopy, twinStored⟩ := twin.copyPayload_inside offset cells inside
    exact .inr ⟨after, other, copy, twinCopy, BleMsg.copyPayload_hdr copy,
      (BleMsg.copyPayload_hdr twinCopy).trans hdr, by rw [stored, twinStored, bytes]⟩
  next =>
    have fault (msg : BleMsg) : msg.copyPayload offset cells = none := by
      simp only [BleMsg.copyPayload]
      split
      next => rfl
      next written =>
        have bound := Memory.write_bound written
        rw [msg.payload_length] at bound
        exact absurd bound inside
    exact .inl ⟨fault msg, fault twin⟩

theorem acceptPayload_alike {msg other : BleMsg} {chunk : Nat} (alike : loop.Alike twin)
    (offset : twin.ctx.offset = loop.ctx.offset)
    (hdr : other.hdr = msg.hdr) (within : loop.ctx.offset + chunk ≤ msg.size)
    (bytes : other.payload.take (loop.ctx.offset + chunk) = msg.payload.take (loop.ctx.offset + chunk)) :
    (loop.acceptPayload msg chunk).Alike (twin.acceptPayload other chunk) := by
  have position := alike.i
  have size : other.size = msg.size := congrArg (fun hdr => hdr.len.toNat) hdr
  unfold acceptPayload
  rw [offset, size]
  dsimp only
  split
  next complete =>
    refine ⟨by simpa using position, ⟨rfl, rfl, by simp⟩, ?_⟩
    have all : loop.ctx.offset + chunk = msg.size := Nat.le_antisymm within complete
    rw [all] at bytes
    have view : other.view = msg.view := by rw [BleMsg.view, BleMsg.view, BleMsg.data, BleMsg.data, hdr, size, bytes]
    rw [List.map_append, List.map_append, alike.queued, List.map_singleton, List.map_singleton, view]
  next =>
    exact ⟨by simpa using position, ⟨alike.ctx.state, alike.ctx.active, fun _ => ⟨hdr, rfl, bytes⟩⟩, alike.queued⟩

theorem readPayload_lockstep (alike : loop.Alike twin) (reading : loop.ctx.state = .readPayload) :
    Lockstep Alike (loop.readPayload pkt) (twin.readPayload pkt) := by
  obtain ⟨hdr, offset, bytes⟩ := alike.ctx.inside reading
  have size : twin.ctx.curMsg.size = loop.ctx.curMsg.size := congrArg (fun hdr => hdr.len.toNat) hdr
  unfold readPayload
  rw [alike.i, size, offset]
  split
  next => exact .again ⟨rfl, ⟨rfl, rfl, by simp⟩, alike.queued⟩
  next order =>
    dsimp only
    generalize chunked : (if sub16 loop.ctx.curMsg.size loop.ctx.offset < sub16 pkt.length loop.i
      then sub16 loop.ctx.curMsg.size loop.ctx.offset else sub16 pkt.length loop.i) = chunk
    have short : loop.ctx.offset + chunk ≤ loop.ctx.curMsg.size := by
      have small := loop.ctx.curMsg.size_lt
      have message : sub16 loop.ctx.curMsg.size loop.ctx.offset = loop.ctx.curMsg.size - loop.ctx.offset :=
        sub16_eq (by omega) (by omega)
      rw [message] at chunked
      split at chunked <;> omega
    cases found : Memory.read pkt loop.i chunk with
    | none => exact .fault
    | some cells =>
        have length : cells.length = chunk := by
          obtain ⟨bound, rfl⟩ := Memory.read_some found
          rw [List.length_take, List.length_drop]
          omega
        rw [Option.bind_some, Option.bind_some]
        rcases copyPayload_alike hdr cells bytes with ⟨one, other⟩ | ⟨msg, other, one, two, msgHdr, otherHdr, same⟩
        · rw [one, other]
          exact .fault
        · rw [one, two]
          refine .again (acceptPayload_alike alike offset (otherHdr.trans msgHdr.symm) ?_ (length ▸ same))
          rw [BleMsg.size, msgHdr]
          exact short

theorem body_lockstep (alike : loop.Alike twin) : Lockstep Alike (loop.body pkt) (twin.body pkt) := by
  unfold body
  rw [alike.i, alike.ctx.state]
  split
  next =>
    cases state : loop.ctx.state with
    | waitMagic => exact waitMagic_lockstep alike
    | readHeader => exact readHeader_lockstep alike
    | readPayload => exact readPayload_lockstep alike state
  next => exact .exit alike

end RxLoop

theorem RxCtx.Alike.continuation {ctx twin : RxCtx} (alike : ctx.Alike twin) (flag : Byte) :
    (handleContinuation flag ctx).Alike (handleContinuation flag twin) := by
  unfold handleContinuation
  rw [alike.active]
  split
  next => exact ⟨rfl, rfl, by simp [rxResetContext]⟩
  next =>
    split
    next => exact alike
    next => exact ⟨rfl, rfl, by simp⟩

def SameOutcome (one other : RxCtx × List BleMsg) : Prop :=
  one.1.Alike other.1 ∧ other.2.map BleMsg.view = one.2.map BleMsg.view

theorem retrieve_lockstep {flag : Byte} {bytes : List Byte} {ctx twin : RxCtx}
    (alike : (handleContinuation flag ctx).Alike (handleContinuation flag twin)) :
    Option.Rel SameOutcome (bleRetrievePacket (flag :: bytes) ctx) (bleRetrievePacket (flag :: bytes) twin) := by
  let pkt := flag :: bytes
  let fuel := 2 * pkt.length + 2
  have looped : Option.Rel RxLoop.Alike (loop (RxLoop.body pkt) fuel ⟨1, handleContinuation flag ctx, []⟩)
      (loop (RxLoop.body pkt) fuel ⟨1, handleContinuation flag twin, []⟩) :=
    loop_lockstep (fun _ _ => RxLoop.body_lockstep) fuel ⟨rfl, alike, rfl⟩
  unfold bleRetrievePacket
  dsimp only
  generalize loop (RxLoop.body pkt) fuel ⟨1, handleContinuation flag ctx, []⟩ = one at looped ⊢
  generalize loop (RxLoop.body pkt) fuel ⟨1, handleContinuation flag twin, []⟩ = other at looped ⊢
  cases looped with
  | none => exact .none
  | some same => exact .some ⟨same.ctx, same.queued⟩

theorem retrieve_alike (pkt : List Byte) {ctx twin : RxCtx} (alike : ctx.Alike twin) :
    Option.Rel SameOutcome (bleRetrievePacket pkt ctx) (bleRetrievePacket pkt twin) := by
  cases pkt with
  | nil => exact .some ⟨alike, rfl⟩
  | cons flag bytes => exact retrieve_lockstep (alike.continuation flag)

theorem reset_alike (ctx twin : RxCtx) : (handleContinuation 0 ctx).Alike (handleContinuation 0 twin) := by
  rw [handleContinuation, handleContinuation, if_pos rfl, if_pos rfl]
  exact ⟨rfl, rfl, by simp [rxResetContext]⟩

namespace Receiver

def pushes (receiver : Receiver) (pkts : List (List Byte)) : Option (List (BleMsgHdr × List Byte)) :=
  (receiver.receiveAll pkts).map fun result => result.1.map BleMsg.view

theorem pushes_cons {receiver twin : Receiver} {pkt : List Byte} {rest : List (List Byte)}
    (first : Option.Rel SameOutcome (bleRetrievePacket pkt receiver.ctx) (bleRetrievePacket pkt twin.ctx))
    (later : ∀ next other : Receiver, next.ctx.Alike other.ctx → other.pushes rest = next.pushes rest) :
    twin.pushes (pkt :: rest) = receiver.pushes (pkt :: rest) := by
  unfold pushes receiveAll receive
  generalize bleRetrievePacket pkt receiver.ctx = one at first ⊢
  generalize bleRetrievePacket pkt twin.ctx = other at first ⊢
  cases first with
  | none => rfl
  | some same =>
      rename_i one other
      have more := later ⟨one.1, one.2.foldl (fun fifos msg => (addBleMsgToQueue fifos msg .rx).2) receiver.fifos⟩
        ⟨other.1, other.2.foldl (fun fifos msg => (addBleMsgToQueue fifos msg .rx).2) twin.fifos⟩ same.1
      simp only [pushes] at more
      simp only [Option.map_some, Option.bind_some, Option.map_map, Function.comp_def, List.map_append, same.2]
      have prepended := congrArg (Option.map fun views => one.2.map BleMsg.view ++ views) more
      simpa only [Option.map_map, Function.comp_def] using prepended

theorem pushes_alike (pkts : List (List Byte)) {receiver twin : Receiver}
    (alike : receiver.ctx.Alike twin.ctx) : twin.pushes pkts = receiver.pushes pkts := by
  induction pkts generalizing receiver twin with
  | nil => rfl
  | cons pkt rest ih => exact pushes_cons (retrieve_alike pkt alike) fun _ _ further => ih further

theorem receiveAll_reset (receiver : Receiver) (bytes : List Byte) (rest : List (List Byte)) :
    receiver.receiveAll ((0 :: bytes) :: rest) =
      Receiver.receiveAll ⟨rxResetContext receiver.ctx, receiver.fifos⟩ ((0 :: bytes) :: rest) := rfl

theorem messagesOf_fits (items : List Item) : ∀ msg ∈ messagesOf items, msg.Fits := by
  induction items with
  | nil => simp [messagesOf]
  | cons item rest ih =>
      cases item with
      | garbage => exact ih
      | frame msg fits =>
          intro other member
          rcases List.mem_cons.mp member with rfl | later
          · exact fits
          · exact ih other later

/-- However the stream is cut into packets, exactly its messages are pushed, and a packet with continuation
byte 0 has nothing pushed for a message that was only half received. -/
theorem fragmentation_independent (receiver : Receiver) :
    (∀ items first later, first.flag = 0 → CutsInto (streamOf items) (first :: later) →
      ∃ pushed after, receiver.receiveAll ((first :: later).map Piece.packet) = some (pushed, after) ∧
        pushed.map BleMsg.view = (messagesOf items).map BleMsg.view ∧
        (receiver.fifos.rxFifo.contents.length + (messagesOf items).length ≤ bleFifoSize →
          after.fifos.rxFifo.contents.map BleMsg.view =
            (receiver.fifos.rxFifo.contents ++ messagesOf items).map BleMsg.view)) ∧
      ∀ bytes later twin,
        Receiver.pushes twin ((0 :: bytes) :: later) = receiver.pushes ((0 :: bytes) :: later) := by
  constructor
  · intro items first later zero cuts
    obtain ⟨pushed, after, ran, views⟩ := receive_pieces (first :: later)
      ⟨rxResetContext receiver.ctx, receiver.fifos⟩ (.between items rfl) cuts
    have packets : (first :: later).map Piece.packet =
        (0 :: first.bytes.map Prod.fst) :: later.map Piece.packet := by
      rw [List.map_cons, Piece.packet, zero]
    rw [packets, ← receiveAll_reset] at ran
    refine ⟨pushed, after, packets ▸ ran, views, fun room => ?_⟩
    have fits := Link.fits_of_views views (messagesOf_fits items)
    have count := congrArg List.length views
    rw [List.length_map, List.length_map] at count
    have queued := enqueue_contents .rx pushed receiver.fifos fits (by rw [count]; exact room)
    rw [← receiveAll_fifos _ ran] at queued
    simp only [getFifo] at queued
    rw [queued, List.map_append, List.map_append, views]
  · intro bytes later twin
    exact pushes_cons (retrieve_lockstep (reset_alike _ _)) fun _ _ alike => pushes_alike later alike

def cutItems : List Item :=
  [.garbage 7 (by decide), .frame (.make 1 0 [0xA5, 2, 3] (by decide)) (by decide), .garbage 0 (by decide),
    .frame (.make 2 0 [] BleMsg.nil_fits) (by decide)]

def cutPieces : List Piece :=
  [⟨0, [(7, .garbage), (0xA5, .magic), (1, .header), (0, .header), (3, .header)]⟩, ⟨1, [(0xA5, .payload)]⟩,
    ⟨1, [(2, .payload), (3, .payload)]⟩, ⟨0, [(0, .garbage), (0xA5, .magic), (2, .header), (0, .header), (0, .header)]⟩]

instance decidableCutsInto (stream : List (Byte × Mark)) (pieces : List Piece) : Decidable (CutsInto stream pieces) :=
  match pieces with
  | [] => inferInstanceAs (Decidable (stream = []))
  | piece :: rest =>
      have := decidableCutsInto (stream.drop piece.bytes.length) rest
      inferInstanceAs (Decidable (_ ∧ _ ∧ _ ∧ _))

def booted : Receiver := ⟨⟨.waitMagic, emptyMsg, 0, false⟩, ⟨emptyFifo, emptyFifo⟩⟩

theorem fragmentation_independent_cut :
    ∃ pushed after, booted.receiveAll (cutPieces.map Piece.packet) = some (pushed, after) ∧
      pushed.map BleMsg.view = [(⟨1, 0, 3⟩, [0xA5, 2, 3]), (⟨2, 0, 0⟩, [])] ∧
      after.fifos.rxFifo.contents.map BleMsg.view = [(⟨1, 0, 3⟩, [0xA5, 2, 3]), (⟨2, 0, 0⟩, [])] := by
  obtain ⟨pushed, after, ran, views, queued⟩ := (fragmentation_independent booted).1 cutItems _ _ rfl
    (by decide : CutsInto (streamOf cutItems) cutPieces)
  exact ⟨pushed, after, ran, views, queued (by decide)⟩

end Receiver

end WatchFirmware.Ble
