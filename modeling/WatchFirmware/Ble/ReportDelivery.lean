import WatchFirmware.Shared.Crc32
import WatchFirmware.Ble.ResponseDispatch
import WatchFirmware.Ble.RoundTrip
import WatchFirmware.StateManager.WatchState

set_option autoImplicit false

namespace WatchFirmware.Ble

open Transition StateManager

/-- What the state manager's subscriptions do with an event of `handle_ble_response`. -/
def BleEvent.update (watch : Watch) : BleEvent → Watch
  | .timeSync epoch => watch.updateTimeStateCb epoch
  | .weatherSync weather => watch.updateWeatherStateCb weather
  | .appWorkSchedule _ _ | .notificationReceived _ => watch

def Report.update (watch : Watch) : Report → Watch
  | .time epoch => watch.updateTimeStateCb epoch
  | .weather sync => watch.updateWeatherStateCb sync
  | .datedWeather _ _ | .notification _ _ _ => watch

/-- The receiving side behind `BLE_RX`: the parser's blocks, the watch that the events reach, and the messages
that arrived, were handled and led to events so far. -/
structure Inbox where
  fifos : BleFifos
  parser : MultichunkParser
  heap : List HeapLedger.Event
  watch : Watch
  arrived : List BleMsg
  handled : List BleMsg
  published : List BleEvent

namespace Inbox

inductive Action where
  /-- The host task puts a message into `BLE_RX`. -/
  | arrive (msg : BleMsg)
  /-- One round of the loop of `process_rx_buffers`. -/
  | process (malloc : Malloc) (locals : Locals)

def initial (watch : Watch) : Inbox := ⟨⟨emptyFifo, emptyFifo⟩, .cleared, [], watch, [], [], []⟩

def arrive (inbox : Inbox) (msg : BleMsg) : Inbox :=
  let added := addBleMsgToQueue inbox.fifos msg .rx
  { inbox with
    fifos := added.2
    arrived := if added.1 then inbox.arrived ++ [msg] else inbox.arrived }

def process (crc32 : UInt32 → List Byte → UInt32) (inbox : Inbox) (malloc : Malloc) (locals : Locals) :
    Option Inbox :=
  match getNextBleMsg inbox.fifos .rx with
  | none => some inbox
  | some (msg, fifos) =>
      (handleBleResponse crc32 malloc locals inbox.parser msg).map fun dispatched =>
        { inbox with
          fifos
          parser := dispatched.parser
          heap := inbox.heap ++ dispatched.heap
          watch := dispatched.published.elim inbox.watch (BleEvent.update inbox.watch)
          handled := inbox.handled ++ [msg]
          published := inbox.published ++ dispatched.published.toList }

def step (crc32 : UInt32 → List Byte → UInt32) : Step Inbox Action := fun inbox action =>
  match action with
  | .arrive msg => some (inbox.arrive msg)
  | .process malloc locals => inbox.process crc32 malloc locals

/-- The hook comes round before `BLE_RX` is full. -/
def Roomy (inbox : Inbox) : Action → Prop
  | .arrive _ => inbox.fifos.rxFifo.contents.length < bleFifoSize
  | .process _ _ => True

instance (inbox : Inbox) (action : Action) : Decidable (inbox.Roomy action) :=
  match action with
  | .arrive _ => inferInstanceAs (Decidable (_ < _))
  | .process _ _ => inferInstanceAs (Decidable True)

structure Sound (watch : Watch) (inbox : Inbox) : Prop where
  between : inbox.parser.Between
  blocks : ∃ ledger, HeapLedger.Ledger.empty.applyAll inbox.heap = some ledger ∧
    ledger.held.isSome = inbox.parser.outData.isSome
  unhanded : .hand ∉ inbox.heap
  split : inbox.handled ++ inbox.fifos.rxFifo.contents = inbox.arrived
  outcomes : ∃ outcomes, List.Forall₂ (fun msg published => Announces msg.hdr msg.data published)
    inbox.handled outcomes ∧ inbox.published = outcomes.reduceOption
  watch : inbox.watch = inbox.published.foldl BleEvent.update watch

variable {crc32 : UInt32 → List Byte → UInt32} {watch : Watch} {inbox : Inbox}

theorem initial_sound (watch : Watch) : Sound watch (initial watch) where
  between := .inl rfl
  blocks := ⟨.empty, rfl, rfl⟩
  unhanded := List.not_mem_nil
  split := rfl
  outcomes := ⟨[], .nil, rfl⟩
  watch := rfl

theorem Sound.arrive (sound : Sound watch inbox) {msg : BleMsg} (room : inbox.Roomy (.arrive msg)) :
    Sound watch (inbox.arrive msg) := by
  by_cases fits : msg.Fits
  next =>
    have queued := addBleMsgToQueue_contents inbox.fifos fits .rx
    rw [getFifo, getFifo, BoundedQueue.offer_room room] at queued
    have accepted : (addBleMsgToQueue inbox.fifos msg .rx).1 = true := by rw [addBleMsgToQueue, dif_pos fits]
    refine ⟨sound.between, sound.blocks, sound.unhanded, ?_, sound.outcomes, sound.watch⟩
    simp only [Inbox.arrive, queued, accepted, if_true]
    rw [← List.append_assoc, sound.split]
  next =>
    have refused : addBleMsgToQueue inbox.fifos msg .rx = (false, inbox.fifos) := by
      rw [addBleMsgToQueue, dif_neg fits]
    have same : inbox.arrive msg = inbox := by simp [Inbox.arrive, refused]
    rw [same]
    exact sound

theorem Sound.process (sound : Sound watch inbox) (malloc : Malloc) (locals : Locals) :
    ∃ after, inbox.process crc32 malloc locals = some after ∧ Sound watch after := by
  unfold Inbox.process
  cases waiting : inbox.fifos.rxFifo.contents with
  | nil =>
      have empty : getNextBleMsg inbox.fifos .rx = none := by
        rw [getNextBleMsg, getFifo, BleFifo.pop_none waiting, Option.map_none]
      rw [empty]
      exact ⟨inbox, rfl, sound⟩
  | cons msg rest =>
      obtain ⟨fifo, popped, left⟩ := BleFifo.pop_cons waiting
      have next : getNextBleMsg inbox.fifos .rx = some (msg, setFifo inbox.fifos fifo .rx) := by
        rw [getNextBleMsg, getFifo, popped, Option.map_some]
      have fits : msg.Fits := inbox.fifos.rxFifo.fits msg (by
        rw [BleFifo.contents] at waiting
        rw [waiting]
        exact List.mem_cons_self)
      obtain ⟨dispatched, ran, handles⟩ := handleBleResponse_handles crc32 malloc locals sound.between fits
      obtain ⟨ledger, applied, held⟩ := sound.blocks
      obtain ⟨last, further, final⟩ := handles.moves ledger held
      obtain ⟨outcomes, announced, published⟩ := sound.outcomes
      rw [next]
      simp only [ran, Option.map_some]
      refine ⟨_, rfl, ?_⟩
      constructor
      case between => exact handles.between
      case blocks => exact ⟨last, by rw [HeapLedger.Ledger.applyAll_append, applied, Option.bind_some, further], final⟩
      case unhanded => exact fun member => (List.mem_append.mp member).elim sound.unhanded handles.unhanded
      case split =>
        have contents : (setFifo inbox.fifos fifo .rx).rxFifo.contents = rest := left
        rw [contents, ← sound.split, waiting, List.append_assoc, List.singleton_append]
      case outcomes =>
        refine ⟨outcomes ++ [dispatched.published], ?_, ?_⟩
        · exact List.rel_append announced (.cons handles.announces .nil)
        · rw [published, List.reduceOption_append]
          cases dispatched.published <;> rfl
      case watch =>
        rw [List.foldl_append, ← sound.watch]
        cases dispatched.published <;> rfl

theorem run_sound {actions : List Action} (roomy : Guarded (step crc32) Roomy (initial watch) actions) :
    ∃ after, run (step crc32) (initial watch) actions = some after ∧ Sound watch after := by
  refine Refinement.run_guarded ?_ (initial_sound watch) roomy
  intro inbox action sound allowed
  cases action with
  | arrive msg => exact ⟨_, rfl, sound.arrive allowed⟩
  | process malloc locals => exact sound.process malloc locals

theorem applyAll_handed {ledger last : HeapLedger.Ledger} {events : List HeapLedger.Event}
    (unhanded : .hand ∉ events) (applied : ledger.applyAll events = some last) : last.handed = ledger.handed := by
  induction events generalizing ledger with
  | nil =>
      cases applied
      rfl
  | cons event rest ih =>
      obtain ⟨next, first, remaining⟩ := Option.bind_eq_some_iff.mp applied
      rw [List.mem_cons, not_or] at unhanded
      rw [ih unhanded.2 remaining]
      obtain ⟨allocated, held, freed, handed⟩ := ledger
      cases event with
      | hand => exact absurd rfl unhanded.1
      | allocate | free =>
          cases held <;> simp only [HeapLedger.Ledger.apply, Option.map_none, Option.map_some, reduceCtorEq] at first
          cases first
          rfl

def strayActions : List Action :=
  [.arrive (.make bleOpTimeUpdate 0 [1, 2, 3] (by decide)),
    .arrive (.make bleOpMultichunkSend 0 [bleMultichunkMagic, 7, 2, 0, 9, 0, 1, 2, 3] (by decide)),
    .process (fun _ => none) ⟨noWeather, 0, ⟨List.replicate 14 1, rfl⟩, ⟨List.replicate 100 1, rfl⟩, none, none⟩,
    .process (fun size => some ⟨List.replicate size 1, List.length_replicate⟩)
      ⟨noWeather, 0, ⟨List.replicate 14 1, rfl⟩, ⟨List.replicate 100 1, rfl⟩, none, none⟩]

theorem tells_update {event : BleEvent} {report : Report} (tells : event.Tells report) (watch : Watch) :
    event.update watch = report.update watch := by
  cases event with
  | timeSync epoch =>
      cases report with
      | time other =>
          have same : epoch = other := tells
          rw [same]
          rfl
      | weather _ | datedWeather _ _ | notification _ _ _ => exact tells.elim
  | weatherSync weather =>
      cases report with
      | weather other =>
          have same : weather = other := tells
          rw [same]
          rfl
      | time _ | datedWeather _ _ | notification _ _ _ => exact tells.elim
  | appWorkSchedule _ _ =>
      cases report with
      | datedWeather _ _ => rfl
      | time _ | weather _ | notification _ _ _ => exact tells.elim
  | notificationReceived _ =>
      cases report with
      | notification _ _ _ => rfl
      | time _ | weather _ | datedWeather _ _ => exact tells.elim

theorem forall₂_update {events : List BleEvent} {reports : List Report}
    (tells : List.Forall₂ BleEvent.Tells events reports) (watch : Watch) :
    events.foldl BleEvent.update watch = reports.foldl Report.update watch := by
  induction tells generalizing watch with
  | nil => rfl
  | cons first rest ih => rw [List.foldl_cons, List.foldl_cons, tells_update first, ih]

theorem tells_of_announces {views : List (BleMsgHdr × List Byte)} {outcomes : List (Option BleEvent)}
    {reports : List Report} (carried : List.Forall₂ (fun view report => Report.Carried view.1 view.2 report) views reports)
    (announced : List.Forall₂ (fun view published => Announces view.1 view.2 published) views outcomes) :
    List.Forall₂ BleEvent.Tells outcomes.reduceOption reports := by
  induction carried generalizing outcomes with
  | nil =>
      cases announced
      exact .nil
  | cons first rest ih =>
      cases announced with
      | @cons _ published _ outcomes announces others =>
          cases published with
          | none => exact absurd ⟨_, first⟩ announces
          | some event => exact .cons (announces.2 _ first) (ih others)

end Inbox

namespace Link

open Inbox

variable {mtus : Nat → Nat} {link : Link} {msgs : List BleMsg} {reports : List Report}

theorem pushed_views (small : ∀ k, mtus k < 2 ^ 16) (reset : link.Reset) (few : msgs.length ≤ bleFifoSize)
    (fits : ∀ msg ∈ msgs, msg.Fits) (inside : HeadersInside mtus msgs) {n : Nat} {after : Link}
    (sent : (link.enqueue msgs).transmit mtus n = some after) :
    after.pushed.map BleMsg.view = (msgs.map BleMsg.view).take after.pushed.length := by
  obtain ⟨inStep, layout⟩ := InStep.start reset few fits
  have inner : ∀ k, k < n → ((link.enqueue msgs).sender.layout.after mtus k).headerEnds (mtus k - 1) = false :=
    fun k _ => layout ▸ inside k
  obtain ⟨same, ran, kept, _⟩ := inStep.run small few n inner
  obtain rfl := Option.some.inj (ran.symm.trans sent)
  rw [kept.split, List.map_append, List.take_left' (by rw [List.length_map])]

theorem make_data (opcode reqApp : Byte) (data : List Byte) (fits : data.length ≤ bleMaxPayloadSize) :
    (BleMsg.make opcode reqApp data fits).data = data := congrArg Prod.snd (BleMsg.make_view opcode reqApp data fits)

theorem carried_views (carried : List.Forall₂ (fun msg report => Report.Carried msg.hdr msg.data report) msgs reports) :
    List.Forall₂ (fun view report => Report.Carried view.1 view.2 report) (msgs.map BleMsg.view) reports := by
  rw [List.forall₂_map_left_iff]
  exact carried

theorem handled_tells {watch : Watch} {inbox : Inbox} (sound : Sound watch inbox)
    (carried : List.Forall₂ (fun msg report => Report.Carried msg.hdr msg.data report) msgs reports)
    (first : inbox.handled.map BleMsg.view = (msgs.map BleMsg.view).take inbox.handled.length) :
    List.Forall₂ BleEvent.Tells inbox.published (reports.take inbox.handled.length) := by
  obtain ⟨outcomes, announced, published⟩ := sound.outcomes
  have views : List.Forall₂ (fun view published => Announces view.1 view.2 published)
      (inbox.handled.map BleMsg.view) outcomes := by
    rw [List.forall₂_map_left_iff]
    exact announced
  have told := List.forall₂_take inbox.handled.length (carried_views carried)
  rw [← first] at told
  rw [published]
  exact tells_of_announces told views

theorem handled_views {pushed : List BleMsg} (sent : pushed.map BleMsg.view = (msgs.map BleMsg.view).take pushed.length)
    {watch : Watch} {inbox : Inbox} (sound : Sound watch inbox) (arrived : inbox.arrived <+: pushed) :
    inbox.handled.map BleMsg.view = (msgs.map BleMsg.view).take inbox.handled.length := by
  have handled : inbox.handled <+: pushed := by
    apply List.IsPrefix.trans _ arrived
    rw [← sound.split]
    exact List.prefix_append _ _
  have early := handled.length_le
  have taken := List.prefix_iff_eq_take.mp (handled.map BleMsg.view)
  rw [sent, List.length_map, List.take_take, Nat.min_eq_left early] at taken
  exact taken

def coldMorning : WeatherSync := ⟨1700000000, fun hour => ⟨-35, 80, 10, 3, UInt8.ofNat hour.val⟩⟩

def morningReports : List Report :=
  [.time 1699990000, .weather coldMorning, .notification 0 [72, 105] [79, 75]]

def morningMsgs : List BleMsg :=
  [.make 1 0 (encodeTime 1699990000) (by decide),
    .make 2 0 (encodeWeather coldMorning) (by rw [encodeWeather_length]; decide),
    .make 4 0 (encodeNotification 0 [72, 105] [79, 75]) (by decide)]

theorem morning_carried :
    List.Forall₂ (fun msg report => Report.Carried msg.hdr msg.data report) morningMsgs morningReports := by
  have lies : Lies (encodeNotification 0 [72, 105] [79, 75]) 0 [72, 105] [79, 75] :=
    ⟨by decide, by decide, [], (List.append_nil _).symm⟩
  refine .cons ⟨rfl, make_data ..⟩ (.cons ⟨rfl, make_data ..⟩ (.cons ⟨rfl, ?_⟩ .nil))
  rw [make_data]
  exact ⟨by decide, lies⟩

@[irreducible] def morningActions : List Inbox.Action :=
  (((initial.enqueue morningMsgs).transmit (fun _ => 100) 3).elim [] Link.pushed).flatMap fun msg =>
    [.arrive msg, .process (fun _ => none)
      ⟨coldMorning, 0, ⟨List.replicate 14 1, rfl⟩, ⟨List.replicate 100 1, rfl⟩, none, none⟩]

@[irreducible] def morningRun : Option Inbox :=
  run (step Crc32.checksum) (Inbox.initial StateManager.Watch.booted) morningActions

theorem morningActions_roomy :
    Guarded (step Crc32.checksum) Roomy (Inbox.initial StateManager.Watch.booted) morningActions :=
  of_decide_eq_true (by decide +kernel)

theorem morningRun_arrived : ((initial.enqueue morningMsgs).transmit (fun _ => 100) 3).bind (fun after =>
    morningRun.map fun inbox =>
      decide (inbox.arrived = after.pushed ∧ inbox.handled.length = 3)) = some true := by
  decide +kernel

end Link

end WatchFirmware.Ble
