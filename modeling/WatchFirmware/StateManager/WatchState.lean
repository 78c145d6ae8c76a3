import WatchFirmware.Ble.MessageCodec
import WatchFirmware.Shared.Refinement

set_option autoImplicit false

namespace WatchFirmware.StateManager

open Transition Ble

structure TimeSync where
  lastSyncTime : UInt32
  valid : UInt8
  deriving DecidableEq, Repr

structure StateEntry where
  lastReqTime : UInt32
  requestPending : Bool
  deriving DecidableEq, Repr

def noWeather : WeatherSync := ⟨0, fun _ => ⟨0, 0, 0, 0, 0⟩⟩

-- The alarms of watch_state_t are with the alarm manager.
structure WatchState where
  timeState : TimeSync
  weatherState : WeatherSync
  steps : UInt32

structure StateRegistry where
  time : StateEntry
  weather : StateEntry
  deriving DecidableEq, Repr

def WatchState.zero : WatchState := ⟨⟨0, 0⟩, noWeather, 0⟩

def StateRegistry.zero : StateRegistry := ⟨⟨0, false⟩, ⟨0, false⟩⟩

inductive SyncRequest where
  | updateSystemTime
  | updateSystemWeather
  deriving DecidableEq, Repr

/-- The two variables in the memory that a deep sleep keeps, the system clock in seconds, and the requests
published so far. -/
structure Watch where
  watchState : WatchState
  stateRegistry : StateRegistry
  clock : Nat
  requests : List SyncRequest

inductive Action where
  | elapse (seconds : Nat)
  | timeSync (epoch : UInt32)
  | weatherSync (weather : WeatherSync)
  | newSteps (steps : UInt32)
  | checkValidity
  /-- A boot with the memory kept: the end of a deep sleep. -/
  | wake
  /-- A boot with the memory and the clock cleared. -/
  | powerOn

namespace Watch

/-- `time(NULL)` as the code keeps it. -/
def time (s : Watch) : UInt32 := UInt32.ofNat s.clock

def stateManagerGetEpochTime (s : Watch) : UInt32 := if s.watchState.timeState.valid = 0 then 0 else s.time

def stateManagerGetWeatherToday (s : Watch) : Fin 24 → HourlyWeather := s.watchState.weatherState.hourlyToday

def stateManagerGetStepCount (s : Watch) : UInt32 := s.watchState.steps

def updateTimeStateCb (s : Watch) (epoch : UInt32) : Watch :=
  { s with
    watchState := { s.watchState with timeState := ⟨epoch, 1⟩ }
    stateRegistry := { s.stateRegistry with time := ⟨0, false⟩ }
    clock := epoch.toNat }

def updateWeatherStateCb (s : Watch) (weather : WeatherSync) : Watch :=
  { s with
    watchState := { s.watchState with weatherState := weather }
    stateRegistry := { s.stateRegistry with weather := ⟨0, false⟩ } }

def updateStepsCb (s : Watch) (steps : UInt32) : Watch :=
  { s with watchState := { s.watchState with steps := s.watchState.steps + steps } }

def publish (s : Watch) (request : SyncRequest) : Watch :=
  { s with requests := s.requests ++ [request] }

-- The event manager is up for as long as the state manager is, so that event_publish answers true.
def stateManagerInit (s : Watch) : Watch :=
  let wiped := if s.watchState.timeState.valid ≠ 1 then
    { s with watchState := .zero, stateRegistry := .zero } else s
  let cleared := if wiped.watchState.weatherState.expiresAt < wiped.stateManagerGetEpochTime then
    { wiped with
      watchState := { wiped.watchState with weatherState := noWeather }
      stateRegistry := { wiped.stateRegistry with weather := ⟨0, false⟩ } } else wiped
  let asked := cleared.publish .updateSystemTime
  publish { asked with stateRegistry := { asked.stateRegistry with time := ⟨asked.time, true⟩ } } .updateSystemWeather

def askForTime (s : Watch) : Watch :=
  publish { s with stateRegistry := { s.stateRegistry with time := ⟨s.time, true⟩ } } .updateSystemTime

def stateManagerCheckValidity (s : Watch) : Watch :=
  let currentUptime := s.time
  if s.watchState.timeState.valid ≠ 0 then
    if 60 * 60 < s.stateManagerGetEpochTime - s.watchState.timeState.lastSyncTime then
      if 5 * 60 ≤ currentUptime - s.stateRegistry.time.lastReqTime then s.askForTime else s
    else s
  else if 5 * 60 ≤ currentUptime - s.stateRegistry.time.lastReqTime then s.askForTime
  else s

/-- All memory as after power-on, before `state_manager_init`. -/
def blank (requests : List SyncRequest) : Watch := ⟨.zero, .zero, 0, requests⟩

def booted : Watch := (blank []).stateManagerInit

def step : Step Watch Action := fun s action =>
  match action with
  | .elapse seconds => some { s with clock := s.clock + seconds }
  | .timeSync epoch => some (s.updateTimeStateCb epoch)
  | .weatherSync weather => some (s.updateWeatherStateCb weather)
  | .newSteps steps => some (s.updateStepsCb steps)
  | .checkValidity => some s.stateManagerCheckValidity
  | .wake => some s.stateManagerInit
  | .powerOn => some (blank s.requests).stateManagerInit

end Watch

/-- What the watch knows, on a clock that does not wrap around: when the time was synced last and when it was
asked for since, and all steps since the memory was last cleared. -/
structure Known where
  now : Nat
  synced : Option Nat
  asked : Option Nat
  weather : WeatherSync
  steps : Nat
  requests : List SyncRequest

namespace Known

def epochTime (known : Known) : Nat := if known.synced.isSome then known.now else 0

/-- A watch that was never synced starts all over; one that was drops weather that has expired. -/
def boot (known : Known) : Known :=
  { known with
    asked := some known.now
    weather :=
      if known.weather.expiresAt.toNat < known.epochTime ∨ known.synced = none then noWeather else known.weather
    steps := if known.synced = none then 0 else known.steps
    requests := known.requests ++ [.updateSystemTime, .updateSystemWeather] }

def Due (known : Known) : Prop :=
  (∀ synced, known.synced = some synced → synced + 3600 < known.now) ∧
    ∀ asked, known.asked = some asked → asked + 300 ≤ known.now

instance (known : Known) : Decidable known.Due :=
  decidable_of_iff
    ((∀ synced ∈ known.synced, synced + 3600 < known.now) ∧ ∀ asked ∈ known.asked, asked + 300 ≤ known.now)
    Iff.rfl

def check (known : Known) : Known :=
  if known.Due then { known with asked := some known.now, requests := known.requests ++ [.updateSystemTime] }
  else known

def blank (requests : List SyncRequest) : Known := ⟨0, none, none, noWeather, 0, requests⟩

def step : Step Known Action := fun known action =>
  match action with
  | .elapse seconds => some { known with now := known.now + seconds }
  | .timeSync epoch => some { known with now := epoch.toNat, synced := some epoch.toNat, asked := none }
  | .weatherSync weather => some { known with weather }
  | .newSteps steps => some { known with steps := known.steps + steps.toNat }
  | .checkValidity => some known.check
  | .wake => some known.boot
  | .powerOn => some (blank known.requests).boot

end Known

namespace Watch

def Allowed (s : Watch) : Action → Prop
  | .elapse seconds => s.clock + seconds < 2 ^ 32
  | _ => True

instance (s : Watch) (action : Action) : Decidable (s.Allowed action) := by
  unfold Allowed
  split <;> infer_instance

/-- Everything but the last request for the time, which a boot makes anew. -/
structure Holds (s : Watch) (known : Known) : Prop where
  clock : s.clock = known.now
  small : known.now < 2 ^ 32
  unsynced : known.synced = none → s.watchState.timeState = ⟨0, 0⟩
  synced : ∀ epoch, known.synced = some epoch → s.watchState.timeState = ⟨UInt32.ofNat epoch, 1⟩ ∧ epoch ≤ known.now
  noRequest : s.stateRegistry.weather = ⟨0, false⟩
  weather : s.watchState.weatherState = known.weather
  steps : s.watchState.steps = UInt32.ofNat known.steps
  requests : s.requests = known.requests

structure Keeps (s : Watch) (known : Known) : Prop extends Holds s known where
  unasked : known.asked = none → s.stateRegistry.time = ⟨0, false⟩ ∧ known.synced ≠ none
  asked : ∀ since, known.asked = some since →
    s.stateRegistry.time = ⟨UInt32.ofNat since, true⟩ ∧ since ≤ known.now

variable {s : Watch} {known : Known}

theorem Holds.time (holds : s.Holds known) : s.time = UInt32.ofNat known.now := by rw [Watch.time, holds.clock]

theorem Holds.epochTime (holds : s.Holds known) : s.stateManagerGetEpochTime = UInt32.ofNat known.epochTime := by
  unfold stateManagerGetEpochTime Known.epochTime
  cases synced : known.synced with
  | none =>
      rw [holds.unsynced synced]
      rfl
  | some epoch =>
      have valid : (1 : UInt8) ≠ 0 := by decide
      rw [(holds.synced epoch synced).1, if_neg valid, holds.time]
      rfl

theorem blank_holds (requests : List SyncRequest) : (blank requests).Holds (.blank requests) where
  clock := rfl
  small := Nat.two_pow_pos 32
  unsynced := fun _ => rfl
  synced := fun epoch synced => by cases synced
  noRequest := rfl
  weather := rfl
  steps := rfl
  requests := rfl

theorem Holds.initUnsynced (holds : s.Holds known) (unsynced : known.synced = none) :
    s.stateManagerInit.Keeps known.boot := by
  have taken : s.stateManagerInit =
      { watchState := .zero
        stateRegistry := ⟨⟨s.time, true⟩, ⟨0, false⟩⟩
        clock := s.clock
        requests := s.requests ++ [.updateSystemTime, .updateSystemWeather] } := by
    have invalid : s.watchState.timeState.valid ≠ 1 := by
      rw [holds.unsynced unsynced]
      decide
    simp [stateManagerInit, invalid, publish, WatchState.zero, StateRegistry.zero, stateManagerGetEpochTime, Watch.time]
  rw [taken]
  constructor
  case toHolds =>
    constructor
    case clock => exact holds.clock
    case small => exact holds.small
    case unsynced => exact fun _ => rfl
    case synced =>
      intro epoch synced
      rw [Known.boot, unsynced] at synced
      contradiction
    case noRequest => rfl
    case weather => simp [Known.boot, unsynced, WatchState.zero]
    case steps => simp [Known.boot, unsynced, WatchState.zero]
    case requests => rw [Known.boot, ← holds.requests]
  case unasked => exact fun unasked => by cases unasked
  case asked =>
    intro since asked
    cases asked
    exact ⟨by rw [holds.time], Nat.le_refl _⟩

theorem Holds.expired (holds : s.Holds known) {epoch : Nat} (synced : known.synced = some epoch) :
    s.watchState.weatherState.expiresAt < s.stateManagerGetEpochTime ↔
      known.weather.expiresAt.toNat < known.epochTime := by
  have small : known.epochTime < 2 ^ 32 := by
    have bound := holds.small
    rw [Known.epochTime, synced, Option.isSome_some, if_pos rfl]
    exact bound
  rw [UInt32.lt_iff_toNat_lt, holds.epochTime, holds.weather, UInt32.toNat_ofNat', Nat.mod_eq_of_lt small]

theorem Holds.initSynced (holds : s.Holds known) {epoch : Nat} (synced : known.synced = some epoch) :
    s.stateManagerInit.Keeps known.boot := by
  obtain ⟨timeState, past⟩ := holds.synced epoch synced
  have valid : s.watchState.timeState.valid = 1 := by rw [timeState]
  have expired := holds.expired synced
  have taken : s.stateManagerInit =
      { s with
        watchState := { s.watchState with
          weatherState := if known.weather.expiresAt.toNat < known.epochTime then noWeather else known.weather }
        stateRegistry := ⟨⟨s.time, true⟩, ⟨0, false⟩⟩
        requests := s.requests ++ [.updateSystemTime, .updateSystemWeather] } := by
    by_cases late : known.weather.expiresAt.toNat < known.epochTime
    next => simp [stateManagerInit, valid, publish, expired, late, Watch.time]
    next =>
      have kept := mt expired.mp late
      rw [← holds.weather] at late ⊢
      simp [stateManagerInit, valid, publish, kept, late, Watch.time, holds.noRequest]
  rw [taken]
  constructor
  case toHolds =>
    constructor
    case clock => exact holds.clock
    case small => exact holds.small
    case unsynced => exact holds.unsynced
    case synced => exact holds.synced
    case noRequest => rfl
    case weather => simp [Known.boot, synced]
    case steps =>
      have steps := holds.steps
      simpa [Known.boot, synced] using steps
    case requests => rw [Known.boot, ← holds.requests]
  case unasked => exact fun unasked => by cases unasked
  case asked =>
    intro since asked
    cases asked
    exact ⟨by rw [holds.time], Nat.le_refl _⟩

theorem Holds.init (holds : s.Holds known) : s.stateManagerInit.Keeps known.boot := by
  cases synced : known.synced with
  | none => exact holds.initUnsynced synced
  | some epoch => exact holds.initSynced synced

theorem Keeps.askForTime (keeps : s.Keeps known) :
    s.askForTime.Keeps
      { known with asked := some known.now, requests := known.requests ++ [.updateSystemTime] } := by
  constructor
  case toHolds => exact { keeps.toHolds with requests := by rw [Watch.askForTime, publish, ← keeps.requests] }
  case unasked => exact fun unasked => by cases unasked
  case asked =>
    intro since asked
    cases asked
    have stamp : s.askForTime.stateRegistry.time = ⟨s.time, true⟩ := rfl
    exact ⟨by rw [stamp, keeps.time], Nat.le_refl _⟩

theorem ofNat_sub {later earlier : Nat} (small : later < 2 ^ 32) (order : earlier ≤ later) :
    (UInt32.ofNat later - UInt32.ofNat earlier).toNat = later - earlier := by
  rw [← UInt32.ofNat_sub order, UInt32.toNat_ofNat', Nat.mod_eq_of_lt (by omega)]

theorem Keeps.waited (keeps : s.Keeps known) :
    5 * 60 ≤ s.time - s.stateRegistry.time.lastReqTime ↔ known.asked.getD 0 + 300 ≤ known.now := by
  have stamp : s.stateRegistry.time.lastReqTime = UInt32.ofNat (known.asked.getD 0) ∧
      known.asked.getD 0 ≤ known.now := by
    cases asked : known.asked with
    | none => exact ⟨by rw [(keeps.unasked asked).1]; rfl, Nat.zero_le _⟩
    | some since =>
        obtain ⟨entry, past⟩ := keeps.asked since asked
        exact ⟨by rw [entry]; rfl, past⟩
  have passed := ofNat_sub keeps.small stamp.2
  rw [keeps.time, stamp.1, UInt32.le_iff_toNat_le, passed]
  change 300 ≤ _ ↔ _
  omega

theorem Keeps.stale (keeps : s.Keeps known) {epoch : Nat} (synced : known.synced = some epoch) :
    60 * 60 < s.stateManagerGetEpochTime - s.watchState.timeState.lastSyncTime ↔ epoch + 3600 < known.now := by
  obtain ⟨timeState, past⟩ := keeps.synced epoch synced
  have passed := ofNat_sub keeps.small past
  rw [keeps.epochTime, Known.epochTime, synced, Option.isSome_some, if_pos rfl, timeState,
    UInt32.lt_iff_toNat_lt, passed]
  change 3600 < _ ↔ _
  omega

theorem Keeps.check (keeps : s.Keeps known) : s.stateManagerCheckValidity.Keeps known.check := by
  have waited := keeps.waited
  have fires : s.stateManagerCheckValidity = if known.Due then s.askForTime else s := by
    cases synced : known.synced with
    | none =>
        obtain ⟨since, asked⟩ : ∃ since, known.asked = some since := by
          cases asked : known.asked with
          | none => exact absurd synced (keeps.unasked asked).2
          | some since => exact ⟨since, rfl⟩
        have due : known.Due ↔ since + 300 ≤ known.now := by simp [Known.Due, synced, asked]
        have invalid : ¬s.watchState.timeState.valid ≠ 0 := by
          rw [keeps.unsynced synced]
          decide
        rw [asked, Option.getD_some] at waited
        rw [stateManagerCheckValidity, if_neg invalid]
        simp only [due, ← waited]
    | some epoch =>
        have valid : s.watchState.timeState.valid ≠ 0 := by
          have one : (1 : UInt8) ≠ 0 := by decide
          rw [(keeps.synced epoch synced).1]
          exact one
        have stale := keeps.stale synced
        have due : known.Due ↔ epoch + 3600 < known.now ∧ known.asked.getD 0 + 300 ≤ known.now := by
          cases asked : known.asked with
          | none =>
              simp only [Known.Due, synced, asked, Option.some.injEq, Option.getD_none]
              constructor
              next =>
                rintro ⟨late, _⟩
                have late := late epoch rfl
                omega
              next =>
                rintro ⟨late, _⟩
                exact ⟨fun _ same => same ▸ late, fun _ same => by cases same⟩
          | some since => simp [Known.Due, synced, asked]
        rw [stateManagerCheckValidity, if_pos valid]
        simp only [due, ← stale, ← waited]
        by_cases late : 60 * 60 < s.stateManagerGetEpochTime - s.watchState.timeState.lastSyncTime
        next => simp only [late, if_true, true_and]
        next => simp only [late, if_false, false_and]
  rw [fires, Known.check]
  split
  next => exact keeps.askForTime
  next => exact keeps

theorem Keeps.step (keeps : s.Keeps known) {action : Action} (allowed : s.Allowed action) :
    Option.Rel Keeps (Watch.step s action) (Known.step known action) := by
  cases action with
  | elapse seconds =>
      refine .some ?_
      have small := keeps.small
      have bound : s.clock + seconds < 2 ^ 32 := allowed
      rw [keeps.clock] at bound
      constructor
      case toHolds =>
        exact { keeps.toHolds with
          clock := by rw [keeps.clock]
          small := bound
          synced := fun epoch synced => (keeps.synced epoch synced).imp_right (Nat.le_trans · (Nat.le_add_right _ _)) }
      case unasked => exact keeps.unasked
      case asked => exact fun since asked => (keeps.asked since asked).imp_right (Nat.le_trans · (Nat.le_add_right _ _))
  | timeSync epoch =>
      refine .some ?_
      constructor
      case toHolds =>
        exact { keeps.toHolds with
          clock := rfl
          small := epoch.toNat_lt
          unsynced := fun unsynced => by cases unsynced
          synced := fun other synced => by
            cases synced
            exact ⟨by rw [UInt32.ofNat_toNat]; rfl, Nat.le_refl _⟩ }
      case unasked => exact fun _ => ⟨rfl, by simp⟩
      case asked => exact fun _ asked => by cases asked
  | weatherSync weather =>
      exact .some { keeps with weather := rfl, noRequest := rfl }
  | newSteps steps =>
      refine .some { keeps with steps := ?_ }
      simp only [updateStepsCb, keeps.steps, UInt32.ofNat_add, UInt32.ofNat_toNat]
  | checkValidity => exact .some keeps.check
  | wake => exact .some keeps.toHolds.init
  | powerOn =>
      refine .some ?_
      have booted := (blank_holds s.requests).init
      rw [keeps.requests] at booted ⊢
      exact booted

/-- In every run of boots, syncs, steps and checks the state manager answers with what it was last told, across
deep sleeps as well, and it asks for the time at every boot and no more often than it should. -/
theorem watch_state_kept {actions : List Action} (allowed : Guarded step Allowed booted actions) {s : Watch}
    (ran : run step booted actions = some s) :
    ∃ known, run Known.step (Known.blank []).boot actions = some known ∧
      s.stateManagerGetEpochTime = UInt32.ofNat known.epochTime ∧
      s.stateManagerGetWeatherToday = known.weather.hourlyToday ∧
      s.stateManagerGetStepCount = UInt32.ofNat known.steps ∧ s.requests = known.requests := by
  have refines : Refinement.Refines step Known.step Allowed Keeps := fun _ _ _ keeps allowed => keeps.step allowed
  obtain ⟨known, spec, keeps⟩ := refines.run_some (blank_holds []).init allowed ran
  refine ⟨known, spec, keeps.epochTime, ?_, keeps.steps, keeps.requests⟩
  rw [stateManagerGetWeatherToday, keeps.weather]

def syncedDay : List Action :=
  [.newSteps 100, .timeSync 1000, .elapse 3600, .checkValidity, .elapse 1, .checkValidity, .wake, .newSteps 20,
    .elapse 299, .checkValidity]

theorem watch_state_kept_synced :
    ∃ s, run step booted syncedDay = some s ∧ s.stateManagerGetStepCount = 120 ∧
      s.stateManagerGetEpochTime = 4900 ∧ s.requests.length = 5 := by
  have allowed : Guarded step Allowed booted syncedDay := by decide +kernel
  obtain ⟨s, ran⟩ : ∃ s, run step booted syncedDay = some s := ⟨_, rfl⟩
  obtain ⟨known, spec, epochTime, _, steps, requests⟩ := watch_state_kept allowed ran
  have final : (run Known.step (Known.blank []).boot syncedDay).map
      (fun known => (known.steps, known.epochTime, known.requests.length)) = some (120, 4900, 5) := by decide +kernel
  rw [spec, Option.map_some, Option.some.injEq, Prod.mk.injEq, Prod.mk.injEq] at final
  obtain ⟨total, now, count⟩ := final
  refine ⟨s, ran, ?_, ?_, ?_⟩
  · rw [steps, total]
    rfl
  · rw [epochTime, now]
    rfl
  · rw [requests, count]

end Watch

end WatchFirmware.StateManager
