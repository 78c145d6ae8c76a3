import WatchFirmware.Shared.Transition
import WatchFirmware.Ble.PacketSync

set_option autoImplicit false

namespace WatchFirmware.Ble

/-- Where the loop of `populate_tx_buffers` stands. -/
inductive TxTask where
  | idle
  | building
  | holding (pkt : List Byte)
  deriving DecidableEq

structure Manager where
  connHandle : Option Nat
  isConnected : Bool
  notificationsEnabled : Bool
  effectiveMtu : Nat
  rx : RxCtx
  sender : Sender
  task : TxTask

inductive GapEvent where
  | connect (status handle : Nat)
  | disconnect
  | mtu (value : UInt16)
  | subscribe (curNotify : Nat)
  deriving DecidableEq, Repr

-- BLE_GAP_EVENT_CONNECT and BLE_GAP_EVENT_DISCONNECT reset rx_ctx and leave tx_ctx as it is.
def bleGapEvent (manager : Manager) : GapEvent → Manager
  | .connect status handle =>
      if status = 0 then
        { manager with
          connHandle := some handle
          isConnected := true
          rx := rxResetContext manager.rx }
      else manager
  | .disconnect =>
      { manager with
        isConnected := false
        notificationsEnabled := false
        connHandle := none
        effectiveMtu := 20
        rx := rxResetContext manager.rx }
  | .mtu value =>
      { manager with effectiveMtu := if 3 < value.toNat then value.toNat - 3 else 0 }
  | .subscribe curNotify => { manager with notificationsEnabled := curNotify != 0 }

/-- The watch and the peer it notifies. `air` holds the packets accepted for this connection that
have not arrived yet. The last five fields are bookkeeping no step depends on. -/
structure Session where
  manager : Manager
  peer : RxCtx
  air : List (List Byte)
  queued : List BleMsg
  decoded : List BleMsg
  openings : List (List Byte)
  opened : Bool
  joined : Bool

namespace Session

inductive Action where
  | queue (msg : BleMsg)
  | gap (event : GapEvent)
  | poll
  | build
  | mbufFails
  | notify (rc : Nat)
  | deliver
  deriving DecidableEq

def queue (session : Session) (msg : BleMsg) : Session :=
  let added := addBleMsgToQueue session.manager.sender.fifos msg .tx
  { session with
    manager.sender.fifos := added.2
    queued := if added.1 then session.queued ++ [msg] else session.queued }

/-- A peer keeps no packet from an earlier connection and starts each one with a fresh context. -/
def gap (session : Session) (event : GapEvent) : Option Session :=
  let after := { session with manager := bleGapEvent session.manager event }
  match event with
  | .connect status _ =>
      if session.manager.isConnected then none
      else if status = 0 then
        some { after with
          peer := rxResetContext session.peer, air := [], opened := false, joined := false }
      else some after
  | .disconnect =>
      if session.manager.isConnected then some { after with air := [], joined := false } else none
  | .mtu _ => some after
  | .subscribe _ => some after

def poll (session : Session) : Option Session :=
  if session.manager.task = .idle then
    if session.manager.isConnected ∧ session.manager.notificationsEnabled then
      some { session with manager.task := .building }
    else some session
  else none

def build (session : Session) : Option Session :=
  if session.manager.task = .building then
    (bleBuildNextPacket session.manager.effectiveMtu session.manager.sender).map
      fun (ready, pkt, sender) =>
        { session with
          manager.sender := sender
          manager.task := if ready then .holding pkt else .idle }
  else none

def mbufFails (session : Session) : Option Session :=
  match session.manager.task with
  | .holding _ => some { session with manager.task := .idle, joined := false }
  | _ => none

-- A failed notify is logged, and the loop goes on with the next packet.
def notify (session : Session) (rc : Nat) : Option Session :=
  match session.manager.task with
  | .holding pkt =>
      if rc = 0 then
        if session.manager.connHandle.isSome then
          some { session with
            manager.task := .building, air := session.air ++ [pkt], joined := true }
        else none
      else some { session with manager.task := .building, joined := false }
  | _ => none

def deliver (session : Session) : Option Session :=
  match session.air with
  | [] => none
  | pkt :: rest =>
      (bleRetrievePacket pkt session.peer).map fun (peer, got) =>
        { session with
          peer := peer
          air := rest
          decoded := session.decoded ++ got
          openings := if session.opened then session.openings else session.openings ++ [pkt]
          opened := true }

def step (session : Session) : Action → Option Session
  | .queue msg => some (session.queue msg)
  | .gap event => session.gap event
  | .poll => session.poll
  | .build => session.build
  | .mbufFails => session.mbufFails
  | .notify rc => session.notify rc
  | .deliver => session.deliver

structure Initial (session : Session) : Prop where
  unconnected : session.manager.connHandle = none ∧ session.manager.isConnected = false
  tx_idle : session.manager.sender.ctx.msgActive = false
  task_idle : session.manager.task = .idle
  mtu : session.manager.effectiveMtu = 20
  tx_empty : session.manager.sender.fifos.txFifo.contents = []
  air_empty : session.air = []
  decoded_nil : session.decoded = []
  openings_nil : session.openings = []
  unopened : session.opened = false ∧ session.joined = false

/-- No header ends a packet, and a packet that continues a message is sent only where the packet
before it was sent on the same connection. -/
def Contiguous (session : Session) : Action → Prop
  | .build =>
      session.manager.sender.layout.headerEnds (session.manager.effectiveMtu - 1) = false
  | .notify rc =>
      match session.manager.task with
      | .holding pkt => rc = 0 → pkt.head? = some 0 ∨ session.joined = true
      | _ => True
  | _ => True

instance (session : Session) (action : Action) : Decidable (Contiguous session action) := by
  unfold Contiguous
  split
  · infer_instance
  · split <;> infer_instance
  · infer_instance

end Session

end WatchFirmware.Ble
