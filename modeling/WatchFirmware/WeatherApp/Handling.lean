import WatchFirmware.WeatherApp.WeatherApp
import WatchFirmware.Ble.Types

set_option autoImplicit false

namespace WatchFirmware.WeatherApp

open CommonApis
open Ble (Byte)

abbrev bleMsgWeatherSize : Nat := 148

def payloadByte (payload : List Byte) (idx : Nat) : Nat := ((payload[idx]?).map UInt8.toNat).getD 0

-- The hours stand after the expiry time, six bytes each.
def parseWeatherPayload (payload : List Byte) : DayWeather := fun hour =>
  let idx := 4 + 6 * hour.val
  let raw := payloadByte payload idx * 256 + payloadByte payload (idx + 1)
  { temperature := if raw < 32768 then raw else (raw : Int) - 65536
    humidity := payloadByte payload (idx + 2)
    precipProb := payloadByte payload (idx + 3)
    weatherCode := payloadByte payload (idx + 4)
    windSpeed := payloadByte payload (idx + 5) }

/-- What the phone sends back. The date it was asked for is not in the message. -/
structure Response where
  date : DatePayload
  reqApp : Nat
  payload : List Byte
  deriving DecidableEq

def Response.hours (response : Response) : DayWeather := parseWeatherPayload response.payload

-- app_update_t, with the response it was made from for the statements.
structure AppUpdate where
  reqApp : Nat
  data : DayWeather
  response : Response

/-- Where a task stands in `receive_event` or in one of the functions it ends with. Each phase is
what the task does before another task can come between; some hold a local variable. -/
inductive Handling where
  | received (update : AppUpdate)
  -- exit_loading_state
  | copied
  | exiting
  -- initialize_weather_ui
  | initializing
  | zeroing
  | validating
  | incrementing
  | storing (hrOffset : Int)
  -- refresh_all_ui
  | refreshing
  | drawingTop (hour : Fin totalHours)
  -- refresh_bottom_ui
  | refreshingBottom
  | drawingBottom (hour : Fin totalHours)
  -- update_button_labels
  | labelling
  | dating (hour : HourLabel)
  | drawingLabels (hour : HourLabel) (date : DateLabel)

section Uninterrupted

variable {Phase : Type} {act : WeatherAppCtx → Phase → Option (WeatherAppCtx × Option Phase)}

def uninterrupted (act : WeatherAppCtx → Phase → Option (WeatherAppCtx × Option Phase))
    (ctx : WeatherAppCtx) : Nat → Phase → Option WeatherAppCtx
  | 0, _ => none
  | fuel + 1, phase =>
      (act ctx phase).bind fun (after, next) =>
        match next with
        | none => some after
        | some next => uninterrupted act after fuel next

variable {ctx after : WeatherAppCtx} {phase : Phase}

theorem uninterrupted_next {next : Phase} (fuel : Nat) (acted : act ctx phase = some (after, some next)) :
    uninterrupted act ctx (fuel + 1) phase = uninterrupted act after fuel next := by
  rw [uninterrupted, acted, Option.bind_some]

theorem uninterrupted_last (fuel : Nat) (acted : act ctx phase = some (after, none)) :
    uninterrupted act ctx (fuel + 1) phase = some after := by
  rw [uninterrupted, acted, Option.bind_some]

end Uninterrupted

namespace Handling

def underLock : Handling → Bool
  | exiting | drawingTop _ | drawingBottom _ | drawingLabels _ _ => true
  | _ => false

/-- The context after the phase and the next phase, or that it is done. No next state is a failed
assertion or an index out of range. -/
def act (ctx : WeatherAppCtx) : Handling → Option (WeatherAppCtx × Option Handling)
  | received update => some ({ ctx with weatherData := update.data }, some copied)
  | copied => some (ctx, if ctx.spinner then some exiting else none)
  | exiting =>
      -- the test is not made again under the lock
      if ctx.spinner then some ({ ctx with spinner := false }, some initializing) else none
  | initializing =>
      some (ctx, some (if validateDateTime ctx.activeDateTime then validating else zeroing))
  | zeroing => some ({ ctx with activeDateTime := .zero }, none)
  | validating =>
      some (ctx, some
        (if validateHrOffsetIncrement ctx.activeDateTime ctx.hrOffset then incrementing else refreshing))
  | incrementing => some (ctx, some (storing (ctx.hrOffset + 1)))
  | storing hrOffset => some ({ ctx with hrOffset }, some refreshing)
  | refreshing =>
      (weatherIndex ctx.activeDateTime.hr).map fun hour => (ctx, some (drawingTop hour))
  | drawingTop hour => some (ctx.updateTopCard (ctx.weatherData hour), some refreshingBottom)
  | refreshingBottom =>
      (calculateHrWithOffset ctx.activeDateTime ctx.hrOffset).map fun hour =>
        (ctx, some (drawingBottom hour))
  | drawingBottom hour => some (ctx.updateBottomCard (ctx.weatherData hour), some labelling)
  | labelling =>
      (getDateTimeHrStringFmt ctx.activeDateTime.hr ctx.hrOffset).map fun hour =>
        (ctx, some (dating hour))
  | dating hour =>
      (getDateTimeDateStringFmt ctx.activeDateTime ctx.dateOffset).map fun date =>
        (ctx, some (drawingLabels hour date))
  | drawingLabels hour date => some (ctx.setButtonLabels hour date, none)

/-- After a timeout of the UI lock the body is skipped. -/
def skip : Handling → Option Handling
  | exiting => some initializing
  | drawingTop _ => some refreshingBottom
  | drawingBottom _ => some labelling
  | _ => none

variable (ctx : WeatherAppCtx)

theorem labelling_uninterrupted (fuel : Nat) :
    uninterrupted act ctx (fuel + 3) labelling = ctx.updateButtonLabels := by
  rw [uninterrupted, act, WeatherAppCtx.updateButtonLabels]
  cases getDateTimeHrStringFmt ctx.activeDateTime.hr ctx.hrOffset with
  | none => rfl
  | some hour =>
      simp only [Option.map_some, Option.bind_some, uninterrupted, act]
      cases getDateTimeDateStringFmt ctx.activeDateTime ctx.dateOffset <;> rfl

theorem refreshingBottom_uninterrupted (fuel : Nat) :
    uninterrupted act ctx (fuel + 5) refreshingBottom = ctx.refreshBottomUi := by
  rw [uninterrupted, act, WeatherAppCtx.refreshBottomUi]
  cases calculateHrWithOffset ctx.activeDateTime ctx.hrOffset with
  | none => rfl
  | some hour => exact labelling_uninterrupted _ fuel

theorem refreshing_uninterrupted (fuel : Nat) :
    uninterrupted act ctx (fuel + 7) refreshing = ctx.refreshAllUi := by
  rw [uninterrupted, act, WeatherAppCtx.refreshAllUi]
  cases weatherIndex ctx.activeDateTime.hr with
  | none => rfl
  | some hour => exact refreshingBottom_uninterrupted _ fuel

theorem initializing_uninterrupted (fuel : Nat) :
    uninterrupted act ctx (fuel + 11) initializing = ctx.initializeWeatherUi := by
  rw [uninterrupted_next (fuel + 10) rfl, WeatherAppCtx.initializeWeatherUi]
  split
  next =>
    rw [uninterrupted_next (fuel + 9) rfl, WeatherAppCtx.incrementHrOffset]
    split
    next => exact refreshing_uninterrupted _ fuel
    next => exact refreshing_uninterrupted _ (fuel + 2)
  next => rfl

/-- A task that is not interrupted does what `receive_event` does. -/
theorem received_uninterrupted (update : AppUpdate) (fuel : Nat) :
    uninterrupted act ctx (fuel + 14) (received update) = ctx.receiveEvent update.data := by
  rw [uninterrupted_next (fuel + 13) rfl, WeatherAppCtx.receiveEvent, WeatherAppCtx.exitLoadingState]
  split
  next spinning =>
    have seen : act { ctx with weatherData := update.data } copied =
        some ({ ctx with weatherData := update.data }, some exiting) := by rw [act, if_pos spinning]
    have left : act { ctx with weatherData := update.data } exiting =
        some ({ ctx with weatherData := update.data, spinner := false }, some initializing) := if_pos spinning
    rw [uninterrupted_next (fuel + 12) seen, uninterrupted_next (fuel + 11) left]
    exact initializing_uninterrupted _ fuel
  next still =>
    have seen : act { ctx with weatherData := update.data } copied =
        some ({ ctx with weatherData := update.data }, none) := by rw [act, if_neg still]
    exact uninterrupted_last (fuel + 12) seen

end Handling

end WatchFirmware.WeatherApp
