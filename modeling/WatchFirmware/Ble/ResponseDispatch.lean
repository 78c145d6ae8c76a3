import WatchFirmware.Ble.MessageCodec
import WatchFirmware.Ble.MultichunkOwnership
import WatchFirmware.Ble.ResponseHandler

set_option autoImplicit false

namespace WatchFirmware.Ble

abbrev bleOpTimeUpdate : Byte := 0x01
abbrev bleOpWeatherUpdate : Byte := 0x02
abbrev bleOpDatedWeatherQuery : Byte := 0x03
abbrev bleOpNotificationSend : Byte := 0x04

/-- The events of `handle_ble_response`, with what their `data` points to. -/
inductive BleEvent where
  | timeSync (epoch : UInt32)
  | weatherSync (weather : WeatherSync)
  -- app_update_t: its data is the 24 hours
  | appWorkSchedule (reqApp : Byte) (hourlyToday : Fin 24 → HourlyWeather)
  | notificationReceived (notification : NotificationFields)

/-- The variables of `handle_ble_response` that it leaves uninitialised. -/
structure Locals where
  weatherState : WeatherSync
  notification : NotificationFields

structure Dispatched where
  success : Bool
  published : Option BleEvent
  parser : MultichunkParser
  heap : List HeapLedger.Event

/-- No opcode is handled yet, so that the data is freed. -/
def handleBleMultichunkResponse (_ : BleMultichunkMsg) : List HeapLedger.Event := [.free]

def heapEvents (effects : List Effect) : List HeapLedger.Event := effects.flatMap fun effect =>
  match effect with
  | .handled msg => handleBleMultichunkResponse msg
  | .allocated _ | .freed => [effect.event]

/-- None is a read outside the payload. The event manager is up for as long as the BLE manager is, so that
`event_publish` answers true. -/
def handleBleResponse (crc32 : UInt32 → List Byte → UInt32) (malloc : Malloc) (locals : Locals)
    (parser : MultichunkParser) (msg : BleMsg) : Option Dispatched :=
  let refused : Dispatched := ⟨false, none, parser, []⟩
  let publish (event : BleEvent) : Dispatched := ⟨true, some event, parser, []⟩
  if msg.hdr.opcode = bleOpTimeUpdate then
    if msg.size = bleMsgTimeSize then
      (parseDateTimePayload msg.payload).map fun time => publish (.timeSync time)
    else some refused
  else if msg.hdr.opcode = bleOpWeatherUpdate then
    if msg.size = bleMsgWeatherSize then
      (parseWeatherPayload msg.payload locals.weatherState).map fun weather => publish (.weatherSync weather)
    else some refused
  else if msg.hdr.opcode = bleOpDatedWeatherQuery then
    if msg.size = bleMsgWeatherSize then
      (parseWeatherPayload msg.payload locals.weatherState).map fun weather =>
        publish (.appWorkSchedule msg.hdr.reqApp weather.hourlyToday)
    else some refused
  else if msg.hdr.opcode = bleOpNotificationSend then
    if bleMsgMinNotificationSize ≤ msg.size then
      (parseNotificationPayload msg.payload msg.size locals.notification).map fun (success, notification) =>
        if success then publish (.notificationReceived notification) else refused
    else some refused
  else if msg.hdr.opcode = bleOpMultichunkSend then
    (parser.parseNewChunk crc32 malloc (some msg)).map fun (next, effects) =>
      ⟨true, none, next, heapEvents effects⟩
  else some refused

inductive Report where
  | time (epoch : UInt32)
  | weather (weather : WeatherSync)
  | datedWeather (reqApp : Byte) (weather : WeatherSync)
  | notification (app : Byte) (title body : List Byte)

def Report.Carried (hdr : BleMsgHdr) (data : List Byte) : Report → Prop
  | .time epoch => hdr.opcode = bleOpTimeUpdate ∧ data = encodeTime epoch
  | .weather sync => hdr.opcode = bleOpWeatherUpdate ∧ data = encodeWeather sync
  | .datedWeather reqApp sync =>
      hdr.opcode = bleOpDatedWeatherQuery ∧ hdr.reqApp = reqApp ∧ data = encodeWeather sync
  | .notification app title body =>
      hdr.opcode = bleOpNotificationSend ∧ bleMsgMinNotificationSize ≤ data.length ∧ Lies data app title body

def BleEvent.Tells : BleEvent → Report → Prop
  | .timeSync time, .time epoch => time = epoch
  | .weatherSync told, .weather sync => told = sync
  | .appWorkSchedule app hourlyToday, .datedWeather reqApp sync => app = reqApp ∧ hourlyToday = sync.hourlyToday
  | .notificationReceived notification, .notification app title body =>
      notification.app = app ∧ notification.appName.Holds (title.take 13) ∧ notification.body.Holds (body.take 99) ∧
        notification.actionHandler = none ∧ notification.dismissHandler = none
  | _, _ => False

def Announces (hdr : BleMsgHdr) (data : List Byte) (published : Option BleEvent) : Prop :=
  match published with
  | some event => (∃ report : Report, report.Carried hdr data) ∧
      ∀ report : Report, report.Carried hdr data → event.Tells report
  | none => ¬∃ report : Report, report.Carried hdr data

theorem payload_split (msg : BleMsg) : msg.payload = msg.data ++ msg.payload.drop msg.size :=
  (List.take_append_drop _ _).symm

theorem encodeTime_injective {epoch other : UInt32} (same : encodeTime epoch = encodeTime other) : epoch = other := by
  have read := @readUInt32_encodeTime (encodeTime epoch) [] 0 epoch (by rw [List.drop_zero, List.append_nil])
  have again := @readUInt32_encodeTime (encodeTime epoch) [] 0 other (by rw [List.drop_zero, List.append_nil, same])
  exact Option.some.inj (read.symm.trans again)

theorem encodeWeather_injective {weather other : WeatherSync} (same : encodeWeather weather = encodeWeather other) :
    weather = other := by
  have read := parseWeatherPayload_encodeWeather weather weather []
  have again := parseWeatherPayload_encodeWeather other weather []
  rw [same] at read
  exact Option.some.inj (read.symm.trans again)

section Carried

variable {hdr : BleMsgHdr} {data : List Byte}

theorem announces_time (opcode : hdr.opcode = bleOpTimeUpdate) {epoch : UInt32} (same : data = encodeTime epoch) :
    Announces hdr data (some (.timeSync epoch)) := by
  refine ⟨⟨.time epoch, opcode, same⟩, fun report carried => ?_⟩
  cases report with
  | time other => exact encodeTime_injective (same.symm.trans carried.2)
  | weather _ | datedWeather _ _ | notification _ _ _ =>
      exact absurd (opcode.symm.trans carried.1) (by decide)

theorem announces_weather (opcode : hdr.opcode = bleOpWeatherUpdate) {sync : WeatherSync}
    (same : data = encodeWeather sync) : Announces hdr data (some (.weatherSync sync)) := by
  refine ⟨⟨.weather sync, opcode, same⟩, fun report carried => ?_⟩
  cases report with
  | weather other => exact encodeWeather_injective (same.symm.trans carried.2)
  | time _ | datedWeather _ _ | notification _ _ _ =>
      exact absurd (opcode.symm.trans carried.1) (by decide)

theorem announces_datedWeather (opcode : hdr.opcode = bleOpDatedWeatherQuery) {sync : WeatherSync}
    (same : data = encodeWeather sync) :
    Announces hdr data (some (.appWorkSchedule hdr.reqApp sync.hourlyToday)) := by
  refine ⟨⟨.datedWeather hdr.reqApp sync, opcode, rfl, same⟩, fun report carried => ?_⟩
  cases report with
  | datedWeather reqApp other =>
      have equal := encodeWeather_injective (same.symm.trans carried.2.2)
      exact ⟨carried.2.1, by rw [equal]⟩
  | time _ | weather _ | notification _ _ _ =>
      exact absurd (opcode.symm.trans carried.1) (by decide)

theorem announces_none (time : hdr.opcode = bleOpTimeUpdate → data.length ≠ bleMsgTimeSize)
    (weather : hdr.opcode = bleOpWeatherUpdate ∨ hdr.opcode = bleOpDatedWeatherQuery →
      data.length ≠ bleMsgWeatherSize)
    (notification : hdr.opcode = bleOpNotificationSend →
      ¬(bleMsgMinNotificationSize ≤ data.length ∧ ∃ app title body, Lies data app title body)) :
    Announces hdr data none := by
  rintro ⟨report, carried⟩
  cases report with
  | time epoch => exact time carried.1 (by rw [carried.2, encodeTime_length])
  | weather sync => exact weather (.inl carried.1) (by rw [carried.2, encodeWeather_length])
  | datedWeather reqApp sync => exact weather (.inr carried.1) (by rw [carried.2.2, encodeWeather_length])
  | notification app title body => exact notification carried.1 ⟨carried.2.1, app, title, body, carried.2.2⟩

end Carried

def holds : Bool → HeapLedger.Event → Option Bool
  | false, .allocate => some true
  | true, .free | true, .hand => some false
  | true, .allocate | false, .free | false, .hand => none

theorem apply_holds (ledger : HeapLedger.Ledger) (event : HeapLedger.Event) :
    (ledger.apply event).map (·.held.isSome) = holds ledger.held.isSome event := by
  obtain ⟨allocated, held, freed, handed⟩ := ledger
  cases held <;> cases event <;> rfl

theorem applyAll_holds (ledger : HeapLedger.Ledger) (events : List HeapLedger.Event) :
    (ledger.applyAll events).map (·.held.isSome) = events.foldlM holds ledger.held.isSome := by
  induction events generalizing ledger with
  | nil => rfl
  | cons event rest ih =>
      rw [HeapLedger.Ledger.applyAll, List.foldlM_cons, ← apply_holds]
      cases ledger.apply event with
      | none => rfl
      | some next => exact ih next

theorem moves_iff {before after : Bool} {events : List HeapLedger.Event} :
    HeapLedger.Moves before events after ↔ events.foldlM holds before = some after := by
  constructor
  next =>
    intro moves
    obtain ⟨last, applied, final⟩ := moves ⟨1, if before then some 0 else none, [], []⟩ (by cases before <;> rfl)
    have counted := applyAll_holds ⟨1, if before then some 0 else none, [], []⟩ events
    rw [applied, Option.map_some, final] at counted
    rw [counted]
    cases before <;> rfl
  next =>
    intro folded ledger held
    have counted := applyAll_holds ledger events
    rw [held, folded, Option.map_eq_some_iff] at counted
    exact counted

theorem foldlM_heapEvents (effects : List Effect) (before : Bool) :
    (heapEvents effects).foldlM holds before = (effects.map Effect.event).foldlM holds before := by
  induction effects generalizing before with
  | nil => rfl
  | cons effect rest ih =>
      have tail (next : Option Bool) : (next.bind fun held => (heapEvents rest).foldlM holds held) =
          next.bind fun held => (rest.map Effect.event).foldlM holds held := by
        cases next with
        | none => rfl
        | some held => exact ih held
      cases effect with
      | allocated size => exact tail (holds before .allocate)
      | freed => exact tail (holds before .free)
      | handled msg =>
          have same : holds before .hand = holds before .free := by cases before <;> rfl
          rw [List.map_cons, List.foldlM_cons, Effect.event, same]
          exact tail (holds before .free)

theorem moves_freed {before after : Bool} {effects : List Effect}
    (moves : HeapLedger.Moves before (effects.map Effect.event) after) :
    HeapLedger.Moves before (heapEvents effects) after := by
  rw [moves_iff, foldlM_heapEvents]
  exact moves_iff.mp moves

theorem heapEvents_unhanded (effects : List Effect) : .hand ∉ heapEvents effects := by
  intro member
  obtain ⟨effect, _, among⟩ := List.mem_flatMap.mp member
  cases effect <;> simp [handleBleMultichunkResponse, Effect.event] at among

section Dispatch

variable (crc32 : UInt32 → List Byte → UInt32) (malloc : Malloc) (locals : Locals) {parser : MultichunkParser}
  {msg : BleMsg}

theorem dispatch_time (opcode : msg.hdr.opcode = bleOpTimeUpdate) (fits : msg.Fits) :
    ∃ published, handleBleResponse crc32 malloc locals parser msg =
        some ⟨published.isSome, published, parser, []⟩ ∧ Announces msg.hdr msg.data published := by
  have length := BleMsg.data_length fits
  unfold handleBleResponse
  rw [if_pos opcode]
  by_cases sized : msg.size = bleMsgTimeSize
  next =>
    obtain ⟨epoch, encoded⟩ := exists_encodeTime (length.trans sized)
    have read : parseDateTimePayload msg.payload = some epoch := by
      apply readUInt32_encodeTime
      rw [List.drop_zero, payload_split, ← encoded]
    rw [if_pos sized, read]
    exact ⟨some (.timeSync epoch), rfl, announces_time opcode encoded.symm⟩
  next =>
    rw [if_neg sized]
    refine ⟨none, rfl, announces_none (fun _ => length.symm ▸ sized) ?_ ?_⟩
    · rintro (other | other) <;> exact absurd (opcode.symm.trans other) (by decide)
    · exact fun other => absurd (opcode.symm.trans other) (by decide)

theorem weather_read (sized : msg.data.length = bleMsgWeatherSize) :
    ∃ sync, msg.data = encodeWeather sync ∧ parseWeatherPayload msg.payload locals.weatherState = some sync := by
  obtain ⟨sync, encoded⟩ := exists_encodeWeather sized
  refine ⟨sync, encoded.symm, ?_⟩
  rw [payload_split, ← encoded]
  exact parseWeatherPayload_encodeWeather sync _ _

theorem dispatch_weather (opcode : msg.hdr.opcode = bleOpWeatherUpdate) (fits : msg.Fits) :
    ∃ published, handleBleResponse crc32 malloc locals parser msg =
        some ⟨published.isSome, published, parser, []⟩ ∧ Announces msg.hdr msg.data published := by
  have length := BleMsg.data_length fits
  have time : msg.hdr.opcode ≠ bleOpTimeUpdate := fun other => absurd (opcode.symm.trans other) (by decide)
  unfold handleBleResponse
  rw [if_neg time, if_pos opcode]
  by_cases sized : msg.size = bleMsgWeatherSize
  next =>
    obtain ⟨sync, encoded, read⟩ := weather_read locals (length.trans sized)
    rw [if_pos sized, read]
    exact ⟨some (.weatherSync sync), rfl, announces_weather opcode encoded⟩
  next =>
    rw [if_neg sized]
    refine ⟨none, rfl, announces_none (fun other => absurd other time) (fun _ => length.symm ▸ sized) ?_⟩
    exact fun other => absurd (opcode.symm.trans other) (by decide)

theorem dispatch_datedWeather (opcode : msg.hdr.opcode = bleOpDatedWeatherQuery) (fits : msg.Fits) :
    ∃ published, handleBleResponse crc32 malloc locals parser msg =
        some ⟨published.isSome, published, parser, []⟩ ∧ Announces msg.hdr msg.data published := by
  have length := BleMsg.data_length fits
  have time : msg.hdr.opcode ≠ bleOpTimeUpdate := fun other => absurd (opcode.symm.trans other) (by decide)
  have weather : msg.hdr.opcode ≠ bleOpWeatherUpdate := fun other => absurd (opcode.symm.trans other) (by decide)
  unfold handleBleResponse
  rw [if_neg time, if_neg weather, if_pos opcode]
  by_cases sized : msg.size = bleMsgWeatherSize
  next =>
    obtain ⟨sync, encoded, read⟩ := weather_read locals (length.trans sized)
    rw [if_pos sized, read]
    exact ⟨some (.appWorkSchedule msg.hdr.reqApp sync.hourlyToday), rfl, announces_datedWeather opcode encoded⟩
  next =>
    rw [if_neg sized]
    refine ⟨none, rfl, announces_none (fun other => absurd other time) (fun _ => length.symm ▸ sized) ?_⟩
    exact fun other => absurd (opcode.symm.trans other) (by decide)

theorem dispatch_notification (opcode : msg.hdr.opcode = bleOpNotificationSend) (fits : msg.Fits) :
    ∃ published, handleBleResponse crc32 malloc locals parser msg =
        some ⟨published.isSome, published, parser, []⟩ ∧ Announces msg.hdr msg.data published := by
  have length := BleMsg.data_length fits
  have time : msg.hdr.opcode ≠ bleOpTimeUpdate := fun other => absurd (opcode.symm.trans other) (by decide)
  have weather : msg.hdr.opcode ≠ bleOpWeatherUpdate := fun other => absurd (opcode.symm.trans other) (by decide)
  have dated : msg.hdr.opcode ≠ bleOpDatedWeatherQuery := fun other => absurd (opcode.symm.trans other) (by decide)
  have small : msg.data.length ≤ bleMaxPayloadSize := length ▸ fits
  obtain ⟨accepted, after, ran, accepts, decodes⟩ := parseNotificationPayload_exact small locals.notification
  have parsed := ran (msg.payload.drop msg.size)
  rw [← payload_split, length] at parsed
  unfold handleBleResponse
  rw [if_neg time, if_neg weather, if_neg dated, if_pos opcode, parsed]
  have refusedUnless (refused : accepted = false) : Announces msg.hdr msg.data none := by
    refine announces_none (fun other => absurd other time) ?_ fun _ both => ?_
    · rintro (other | other)
      · exact absurd other weather
      · exact absurd other dated
    · have taken := accepts.mpr both
      rw [refused] at taken
      contradiction
  by_cases long : bleMsgMinNotificationSize ≤ msg.size
  next =>
    rw [if_pos long]
    cases accepted with
    | false => exact ⟨none, rfl, refusedUnless rfl⟩
    | true =>
        obtain ⟨_, app, title, body, lies⟩ := accepts.mp rfl
        refine ⟨some (.notificationReceived after), rfl,
          ⟨.notification app title body, opcode, length.symm ▸ long, lies⟩, fun report carried => ?_⟩
        cases report with
        | notification app title body => exact decodes rfl app title body carried.2.2
        | time _ | weather _ | datedWeather _ _ => exact absurd (opcode.symm.trans carried.1) (by decide)
  next =>
    rw [if_neg long]
    have refused : accepted = false := by
      cases accepted with
      | false => rfl
      | true => exact absurd (length ▸ (accepts.mp rfl).1) long
    exact ⟨none, rfl, refusedUnless refused⟩

/-- What a call to `handle_ble_response` does. -/
structure Handles (parser : MultichunkParser) (msg : BleMsg) (dispatched : Dispatched) : Prop where
  announces : Announces msg.hdr msg.data dispatched.published
  success : dispatched.success = true ↔ dispatched.published.isSome = true ∨ msg.hdr.opcode = bleOpMultichunkSend
  between : dispatched.parser.Between
  moves : HeapLedger.Moves parser.outData.isSome dispatched.heap dispatched.parser.outData.isSome
  unhanded : .hand ∉ dispatched.heap

theorem announces_other (time : msg.hdr.opcode ≠ bleOpTimeUpdate) (weather : msg.hdr.opcode ≠ bleOpWeatherUpdate)
    (dated : msg.hdr.opcode ≠ bleOpDatedWeatherQuery) (notification : msg.hdr.opcode ≠ bleOpNotificationSend) :
    Announces msg.hdr msg.data none := by
  refine announces_none (fun other => absurd other time) ?_ fun other => absurd other notification
  rintro (other | other)
  · exact absurd other weather
  · exact absurd other dated

theorem handleBleResponse_handles (between : parser.Between) (fits : msg.Fits) :
    ∃ dispatched, handleBleResponse crc32 malloc locals parser msg = some dispatched ∧
      Handles parser msg dispatched := by
  -- an opcode other than the multichunk one leaves the parser alone
  have simple (opcode : msg.hdr.opcode ≠ bleOpMultichunkSend)
      (single : ∃ published, handleBleResponse crc32 malloc locals parser msg =
        some ⟨published.isSome, published, parser, []⟩ ∧ Announces msg.hdr msg.data published) :
      ∃ dispatched, handleBleResponse crc32 malloc locals parser msg = some dispatched ∧
        Handles parser msg dispatched := by
    obtain ⟨published, ran, announces⟩ := single
    exact ⟨_, ran, announces, by simp [opcode], between, HeapLedger.Moves.nothing _, List.not_mem_nil⟩
  by_cases time : msg.hdr.opcode = bleOpTimeUpdate
  next => exact simple (by rw [time]; decide) (dispatch_time crc32 malloc locals time fits)
  by_cases weather : msg.hdr.opcode = bleOpWeatherUpdate
  next => exact simple (by rw [weather]; decide) (dispatch_weather crc32 malloc locals weather fits)
  by_cases dated : msg.hdr.opcode = bleOpDatedWeatherQuery
  next => exact simple (by rw [dated]; decide) (dispatch_datedWeather crc32 malloc locals dated fits)
  by_cases notification : msg.hdr.opcode = bleOpNotificationSend
  next => exact simple (by rw [notification]; decide) (dispatch_notification crc32 malloc locals notification fits)
  have silent := announces_other time weather dated notification
  by_cases multichunk : msg.hdr.opcode = bleOpMultichunkSend
  next =>
    have small : ∀ chunk ∈ some msg, chunk.Fits := by simpa using fits
    obtain ⟨next, effects, parsed, lawful⟩ := MultichunkParser.parseNewChunk_lawful crc32 malloc between small
    refine ⟨⟨true, none, next, heapEvents effects⟩, ?_, silent, by simp [multichunk], lawful.between,
      moves_freed lawful.moves, heapEvents_unhanded effects⟩
    unfold handleBleResponse
    rw [if_neg time, if_neg weather, if_neg dated, if_neg notification, if_pos multichunk, parsed, Option.map_some]
  next =>
    apply simple multichunk
    refine ⟨none, ?_, silent⟩
    unfold handleBleResponse
    rw [if_neg time, if_neg weather, if_neg dated, if_neg notification, if_neg multichunk]
    rfl

end Dispatch

end WatchFirmware.Ble
