import WatchFirmware.Shared.Loop
import WatchFirmware.Shared.Memory
import WatchFirmware.Ble.Fifo

set_option autoImplicit false

namespace WatchFirmware.Ble

open Loop

inductive RxState where
  | waitMagic
  | readHeader
  | readPayload
  deriving DecidableEq, Repr

structure RxCtx where
  state : RxState
  curMsg : BleMsg
  offset : Nat
  msgActive : Bool
  deriving DecidableEq

structure TxCtx where
  curMsg : BleMsg
  offset : Nat
  msgActive : Bool
  deriving DecidableEq

def rxResetContext (ctx : RxCtx) : RxCtx :=
  { ctx with state := .waitMagic, offset := 0, msgActive := false }

def txResetContext (ctx : TxCtx) : TxCtx := { ctx with msgActive := false, offset := 0 }

/-- Subtraction of `uint16_t` values, which wraps below zero. -/
def sub16 (a b : Nat) : Nat := (a + 2 ^ 16 - b) % 2 ^ 16

theorem sub16_eq {a b : Nat} (order : b ≤ a) (small : a < 2 ^ 16) : sub16 a b = a - b := by
  unfold sub16
  omega

structure TxLoop where
  buffer : List Byte
  ctx : TxCtx
  fifos : BleFifos

namespace TxLoop

def loadNext (loop : TxLoop) : Option TxLoop :=
  (getNextBleMsg loop.fifos .tx).map fun (msg, fifos) =>
    { loop with ctx := { curMsg := msg, offset := 0, msgActive := true }, fifos := fifos }

def writeHeader (loop : TxLoop) : TxLoop :=
  let hdr := loop.ctx.curMsg.hdr
  { loop with buffer := loop.buffer ++ [bleMagic, hdr.opcode, hdr.reqApp, hdr.len] }

def writeChunk (effectiveMtu remainingMsg : Nat) (loop : TxLoop) : Option TxLoop :=
  let remainingPkt := sub16 effectiveMtu loop.buffer.length
  let chunk := if remainingMsg < remainingPkt then remainingMsg else remainingPkt
  (Memory.read loop.ctx.curMsg.payload loop.ctx.offset chunk).map fun bytes =>
    let offset := loop.ctx.offset + chunk
    { loop with
      buffer := loop.buffer ++ bytes
      ctx := { loop.ctx with
        offset := offset
        msgActive := if loop.ctx.curMsg.size ≤ offset then false else loop.ctx.msgActive } }

def sendMessage (effectiveMtu : Nat) (loop : TxLoop) : Option (Flow TxLoop) :=
  let remainingMsg := sub16 loop.ctx.curMsg.size loop.ctx.offset
  if loop.ctx.offset = 0 ∧ sub16 effectiveMtu loop.buffer.length < 1 + bleHdrSize then
    some (.exit loop)
  else
    let headed := if loop.ctx.offset = 0 then loop.writeHeader else loop
    (headed.writeChunk effectiveMtu remainingMsg).map fun written =>
      if effectiveMtu ≤ written.buffer.length then .exit written else .again written

def body (effectiveMtu : Nat) (loop : TxLoop) : Option (Flow TxLoop) :=
  if loop.buffer.length < effectiveMtu then
    if loop.ctx.msgActive then loop.sendMessage effectiveMtu
    else
      match loop.loadNext with
      | none => some (.exit loop)
      | some loaded => loaded.sendMessage effectiveMtu
  else some (.exit loop)

end TxLoop

structure Sender where
  ctx : TxCtx
  fifos : BleFifos

def bleBuildNextPacket (effectiveMtu : Nat) (sender : Sender) :
    Option (Bool × List Byte × Sender) :=
  let start : TxLoop := ⟨[if sender.ctx.msgActive then 1 else 0], sender.ctx, sender.fifos⟩
  (loop (TxLoop.body effectiveMtu) (2 * effectiveMtu + 2) start).map fun done =>
    (decide (1 < done.buffer.length), done.buffer, ⟨done.ctx, done.fifos⟩)

/-- `memcpy` into the payload array; `none` when it would leave the array. -/
def BleMsg.copyPayload (msg : BleMsg) (offset : Nat) (bytes : List Byte) : Option BleMsg :=
  match written : Memory.write msg.payload offset bytes with
  | none => none
  | some payload =>
      some { msg with
        payload := payload
        payload_length := (Memory.write_length written).trans msg.payload_length }

-- The messages handed to add_ble_msg_to_queue are collected in call order.
structure RxLoop where
  i : Nat
  ctx : RxCtx
  queued : List BleMsg

namespace RxLoop

def waitMagic (pkt : List Byte) (loop : RxLoop) : Option (Flow RxLoop) :=
  match pkt[loop.i]? with
  | none => none
  | some byte =>
      if byte ≠ bleMagic then some (.again { loop with i := loop.i + 1 })
      else if pkt.length < loop.i + 4 then some (.exit loop)
      else some (.again { loop with i := loop.i + 1, ctx := { loop.ctx with state := .readHeader } })

def acceptHeader (loop : RxLoop) (hdr : BleMsgHdr) : RxLoop :=
  let msg := { loop.ctx.curMsg with hdr := hdr }
  if bleMaxPayloadSize < hdr.len.toNat then
    -- The three header bytes are read again, as possible garbage.
    { loop with
      i := loop.i + 3 - 3
      ctx := { loop.ctx with curMsg := msg, state := .waitMagic, msgActive := false } }
  else if hdr.len = 0 then
    { i := loop.i + 3
      ctx := { state := .waitMagic, curMsg := msg, offset := 0, msgActive := false }
      queued := loop.queued ++ [msg] }
  else
    { loop with
      i := loop.i + 3
      ctx := { state := .readPayload, curMsg := msg, offset := 0, msgActive := true } }

def readHeader (pkt : List Byte) (loop : RxLoop) : Option (Flow RxLoop) :=
  if pkt.length < loop.i + 3 then some (.exit loop)
  else
    match pkt[loop.i]?, pkt[loop.i + 1]?, pkt[loop.i + 2]? with
    | some opcode, some reqApp, some len => some (.again (loop.acceptHeader ⟨opcode, reqApp, len⟩))
    | _, _, _ => none

def acceptPayload (loop : RxLoop) (msg : BleMsg) (chunk : Nat) : RxLoop :=
  let offset := loop.ctx.offset + chunk
  if msg.size ≤ offset then
    { i := loop.i + chunk
      ctx := { state := .waitMagic, curMsg := msg, offset := offset, msgActive := false }
      queued := loop.queued ++ [msg] }
  else
    { loop with i := loop.i + chunk, ctx := { loop.ctx with curMsg := msg, offset := offset } }

def readPayload (pkt : List Byte) (loop : RxLoop) : Option (Flow RxLoop) :=
  if loop.ctx.curMsg.size < loop.ctx.offset then
    some (.again { loop with ctx := { loop.ctx with state := .waitMagic, msgActive := false } })
  else
    let remainingMsg := sub16 loop.ctx.curMsg.size loop.ctx.offset
    let remainingPkt := sub16 pkt.length loop.i
    let chunk := if remainingMsg < remainingPkt then remainingMsg else remainingPkt
    (Memory.read pkt loop.i chunk).bind fun bytes =>
      (loop.ctx.curMsg.copyPayload loop.ctx.offset bytes).map fun msg =>
        .again (loop.acceptPayload msg chunk)

def body (pkt : List Byte) (loop : RxLoop) : Option (Flow RxLoop) :=
  if loop.i < pkt.length then
    match loop.ctx.state with
    | .waitMagic => loop.waitMagic pkt
    | .readHeader => loop.readHeader pkt
    | .readPayload => loop.readPayload pkt
  else some (.exit loop)

end RxLoop

def handleContinuation (msgCont : Byte) (ctx : RxCtx) : RxCtx :=
  if msgCont = 0 then rxResetContext ctx
  else if ctx.msgActive then ctx
  else { ctx with state := .waitMagic, offset := 0 }

/-- The context after the packet and the messages put on `BLE_RX` for it. -/
def bleRetrievePacket (pkt : List Byte) (ctx : RxCtx) : Option (RxCtx × List BleMsg) :=
  match pkt with
  | [] => some (ctx, [])
  | msgCont :: _ =>
      let start : RxLoop := ⟨1, handleContinuation msgCont ctx, []⟩
      (loop (RxLoop.body pkt) (2 * pkt.length + 2) start).map fun done => (done.ctx, done.queued)

end WatchFirmware.Ble
