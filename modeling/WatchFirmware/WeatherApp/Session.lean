import WatchFirmware.WeatherApp.Handling
import WatchFirmware.RuntimeManager.Types
import WatchFirmware.Shared.Transition

set_option autoImplicit false

namespace WatchFirmware.WeatherApp

open Transition CommonApis
open Ble (Byte)
open RuntimeManager (workerPoolUserAllocation)

abbrev maxWatchfaces : Nat := 10
abbrev maxSystemApps : Nat := 5

/-- `get_system_app_id` of the app registered as the given number. -/
def getSystemAppId (appId : Nat) : Nat := (maxSystemApps + maxWatchfaces + appId - 1) % 256

structure Request where
  date : DatePayload
  appId : Nat
  deriving DecidableEq

/-- What the display task drew: the app's objects, none without the app. -/
structure Frame where
  ctx : WeatherAppCtx
  answers : List Response

structure Watch where
  -- `watch_state.weather_state.hourly_today`
  hourlyToday : DayWeather
  currApp : Option Nat
  appCtx : Option WeatherAppCtx
  -- at the phone, on the way back, and in the queue of the user workers
  requests : List Request
  responses : List Response
  userWork : List AppUpdate
  workers : List Handling
  frame : Option Frame
  -- kept for the statements only: everything the phone has answered
  answers : List Response

inductive Action where
  | weatherSync (hourly : DayWeather)
  | openApp (appId epoch : Nat) (allocated : Bool)
  | closeApp
  | dateKey (key : Key)
  | hourKey (key : Key)
  | dateUnfocused (published : Bool)
  | answer (request : Nat) (payload : List Byte)
  | loseRequest (request : Nat)
  | loseResponse
  | receiveResponse (scheduled : Bool)
  | dispatchAppUpdate
  | work (worker : Nat)
  | workTimeout (worker : Nat)
  | render

namespace Watch

/-- `open_app`; an app that runs is closed first. -/
def openApp (weatherApp : Nat) (watch : Watch) (appId epoch : Nat) (allocated : Bool) : Option Watch :=
  if appId = weatherApp ∧ allocated then
    (WeatherAppCtx.initializeWeatherApp epoch watch.hourlyToday).map fun ctx =>
      { watch with currApp := some appId, appCtx := some ctx }
  else some { watch with currApp := some appId, appCtx := none }

def callback (watch : Watch) (handler : WeatherAppCtx → Option WeatherAppCtx) : Option Watch :=
  watch.appCtx.bind fun ctx => (handler ctx).map fun next => { watch with appCtx := some next }

def request (weatherApp : Nat) (watch : Watch) (published : Bool) : Option DatePayload → Watch
  | some date =>
      if published then
        { watch with requests := watch.requests ++ [⟨date, getSystemAppId weatherApp⟩] }
      else watch
  | none => watch

def dateUnfocused (weatherApp : Nat) (watch : Watch) (published : Bool) : Option Watch :=
  watch.appCtx.bind fun ctx => ctx.handleDateUnfocused.map fun handled =>
    request weatherApp { watch with appCtx := some handled.1 } published handled.2

def answer (watch : Watch) (request : Nat) (payload : List Byte) : Option Watch :=
  watch.requests[request]?.map fun asked =>
    let response := ⟨asked.date, asked.appId, payload⟩
    { watch with
      requests := watch.requests.eraseIdx request
      responses := watch.responses ++ [response]
      answers := watch.answers ++ [response] }

/-- A message of another size is refused; one of the right size may find the work queue full. -/
def receiveResponse (watch : Watch) (scheduled : Bool) : Option Watch :=
  match watch.responses with
  | [] => none
  | response :: rest =>
      some
        { watch with
          responses := rest
          userWork :=
            if response.payload.length = bleMsgWeatherSize ∧ scheduled then
              watch.userWork ++ [⟨response.reqApp, response.hours, response⟩]
            else watch.userWork }

/-- An update is for the app in front, and told apart by its id only. -/
def accepts (weatherApp : Nat) (watch : Watch) (update : AppUpdate) : Bool :=
  match watch.currApp with
  | none => false
  | some appId => decide (getSystemAppId appId = update.reqApp) && decide (appId = weatherApp)

def dispatchAppUpdate (weatherApp : Nat) (watch : Watch) : Option Watch :=
  match watch.userWork with
  | [] => none
  | update :: rest =>
      if watch.workers.length < workerPoolUserAllocation then
        some
          { watch with
            userWork := rest
            workers :=
              if accepts weatherApp watch update then watch.workers ++ [.received update]
              else watch.workers }
      else none

def moved (watch : Watch) (worker : Nat) : Option Handling → Watch
  | some next => { watch with workers := watch.workers.set worker next }
  | none => { watch with workers := watch.workers.eraseIdx worker }

/-- The context is tested for before each phase but the one that deletes the spinner. -/
def workerStep (watch : Watch) (worker : Nat) (phase : Handling) : Option Watch :=
  match watch.appCtx with
  | none =>
      match phase with
      | .exiting => none
      | _ => some (watch.moved worker none)
  | some ctx =>
      (phase.act ctx).map fun (after, next) => moved { watch with appCtx := some after } worker next

def workerTimeout (watch : Watch) (worker : Nat) (phase : Handling) : Option Watch :=
  if phase.underLock then some (watch.moved worker phase.skip) else none

def step (weatherApp : Nat) : Step Watch Action := fun watch action =>
  match action with
  | .weatherSync hourly => some { watch with hourlyToday := hourly }
  | .openApp appId epoch allocated => watch.openApp weatherApp appId epoch allocated
  | .closeApp => watch.currApp.map fun _ => { watch with currApp := none, appCtx := none }
  | .dateKey key => watch.callback fun ctx => ctx.handleDateKey key
  | .hourKey key => watch.callback fun ctx => ctx.handleHourKey key
  | .dateUnfocused published => watch.dateUnfocused weatherApp published
  | .answer request payload => watch.answer request payload
  | .loseRequest request => some { watch with requests := watch.requests.eraseIdx request }
  | .loseResponse => some { watch with responses := watch.responses.tail }
  | .receiveResponse scheduled => watch.receiveResponse scheduled
  | .dispatchAppUpdate => watch.dispatchAppUpdate weatherApp
  | .work worker => watch.workers[worker]?.bind (watch.workerStep worker)
  | .workTimeout worker => watch.workers[worker]?.bind (watch.workerTimeout worker)
  | .render => some { watch with frame := watch.appCtx.map fun ctx => ⟨ctx, watch.answers⟩ }

structure Initial (watch : Watch) : Prop where
  currApp : watch.currApp = none
  appCtx : watch.appCtx = none
  requests : watch.requests = []
  responses : watch.responses = []
  userWork : watch.userWork = []
  workers : watch.workers = []
  frame : watch.frame = none
  answers : watch.answers = []

theorem run_uninterrupted {weatherApp : Nat} {watch : Watch} {ctx after : WeatherAppCtx} {phase : Handling}
    {fuel : Nat} (present : watch.appCtx = some ctx) (held : watch.workers = [phase])
    (acted : uninterrupted Handling.act ctx fuel phase = some after) :
    ∃ steps, run (step weatherApp) watch (List.replicate steps (.work 0)) =
      some { watch with appCtx := some after, workers := [] } := by
  induction fuel generalizing watch ctx phase with
  | zero => contradiction
  | succ fuel ih =>
      obtain ⟨⟨middle, next⟩, first, rest⟩ := Option.bind_eq_some_iff.mp acted
      have taken : step weatherApp watch (.work 0) =
          some (moved { watch with appCtx := some middle } 0 next) := by
        simp only [step, held, List.getElem?_cons_zero, Option.bind_some, workerStep, present, first,
          Option.map_some]
      cases next with
      | none =>
          cases rest
          refine ⟨1, ?_⟩
          simp only [List.replicate, run, taken, Option.bind_some, moved, held, List.eraseIdx_cons_zero]
      | some next =>
          obtain ⟨steps, ran⟩ := @ih (moved { watch with appCtx := some middle } 0 (some next)) middle next
            rfl (by simp only [moved, held, List.set_cons_zero]) rest
          refine ⟨steps + 1, ?_⟩
          rw [List.replicate_succ, run, taken, Option.bind_some, ran]
          rfl

theorem receiveEvent_uninterrupted {weatherApp : Nat} {watch : Watch} {ctx after : WeatherAppCtx}
    {update : AppUpdate} (present : watch.appCtx = some ctx)
    (held : watch.workers = [.received update]) (received : ctx.receiveEvent update.data = some after) :
    ∃ steps, run (step weatherApp) watch (List.replicate steps (.work 0)) =
      some { watch with appCtx := some after, workers := [] } := by
  rw [← Handling.received_uninterrupted ctx update 0] at received
  exact run_uninterrupted present held received

end Watch

end WatchFirmware.WeatherApp
