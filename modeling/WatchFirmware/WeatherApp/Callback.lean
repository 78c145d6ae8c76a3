import WatchFirmware.WeatherApp.Handling

set_option autoImplicit false

namespace WatchFirmware.WeatherApp

open CommonApis

/-- Where the UI task stands in a callback of the app. It holds the UI lock all the time. -/
inductive Callback where
  -- handle_label_key_event
  | dateKey (key : Key)
  | steppingDate (change : Int)
  | storingDate (dateOffset : Int)
  | hourKey (key : Key)
  | steppingHour (change : Int)
  | storingHour (hrOffset : Int)
  -- handle_date_unfocused_event
  | dateUnfocused
  | calculating
  | selecting (reqDate : DateTime)
  | resettingHour
  | resettingDate
  | clearing
  -- enter_loading_state
  | entering
  | spinning
  -- the functions shared with the workers, and whether the spinner comes after them
  | drawing (phase : Handling) (loading : Bool)

namespace Callback

def act (ctx : WeatherAppCtx) : Callback → Option (WeatherAppCtx × Option Callback)
  | dateKey .left =>
      some (ctx, if validateDateOffsetDecrement ctx.activeDateTime ctx.dateOffset then some (steppingDate (-1)) else none)
  | dateKey .right =>
      some (ctx, if validateDateOffsetIncrement ctx.activeDateTime ctx.dateOffset then some (steppingDate 1) else none)
  | steppingDate change => some (ctx, some (storingDate (ctx.dateOffset + change)))
  | storingDate dateOffset => some ({ ctx with dateOffset }, some (drawing .labelling false))
  | hourKey .left =>
      some (ctx, if validateHrOffsetDecrement ctx.activeDateTime ctx.hrOffset then some (steppingHour (-1)) else none)
  | hourKey .right =>
      some (ctx, if validateHrOffsetIncrement ctx.activeDateTime ctx.hrOffset then some (steppingHour 1) else none)
  | steppingHour change => some (ctx, some (storingHour (ctx.hrOffset + change)))
  | storingHour hrOffset => some ({ ctx with hrOffset }, some (drawing .refreshingBottom false))
  | dateUnfocused => some (ctx, if ctx.dateOffset = 0 then none else some calculating)
  | calculating =>
      (calculateDateWithOffset ctx.activeDateTime ctx.dateOffset).map fun reqDate =>
        (ctx, if validateDateTime reqDate then some (selecting reqDate) else none)
  | selecting reqDate => some ({ ctx with activeDateTime := reqDate }, some resettingHour)
  | resettingHour => some ({ ctx with hrOffset := 0 }, some resettingDate)
  | resettingDate => some ({ ctx with dateOffset := 0 }, some clearing)
  | clearing => some ({ ctx with weatherData := .zero, dateSelected := true }, some entering)
  | entering => some (ctx, if ctx.spinner then none else some (drawing .refreshing true))
  | spinning => some ({ ctx with spinner := true }, none)
  | drawing phase loading =>
      (phase.act ctx).map fun (after, next) =>
        (after, match next with
          | some next => some (drawing next loading)
          | none => if loading then some spinning else none)

variable (ctx : WeatherAppCtx)

theorem drawing_uninterrupted (fuel : Nat) (phase : Handling) :
    uninterrupted act ctx fuel (drawing phase false) = uninterrupted Handling.act ctx fuel phase := by
  induction fuel generalizing ctx phase with
  | zero => rfl
  | succ fuel ih =>
      rw [uninterrupted, uninterrupted, act]
      cases phase.act ctx with
      | none => rfl
      | some acted =>
          obtain ⟨after, next⟩ := acted
          cases next with
          | none => rfl
          | some next => exact ih after next

theorem loading_uninterrupted (fuel : Nat) (phase : Handling) :
    uninterrupted act ctx (fuel + 1) (drawing phase true) =
      (uninterrupted Handling.act ctx fuel phase).map fun drawn => { drawn with spinner := true } := by
  induction fuel generalizing ctx phase with
  | zero =>
      simp only [uninterrupted, act]
      cases phase.act ctx with
      | none => rfl
      | some acted => obtain ⟨after, _ | next⟩ := acted <;> rfl
  | succ fuel ih =>
      rw [uninterrupted, uninterrupted, act]
      cases phase.act ctx with
      | none => rfl
      | some acted =>
          obtain ⟨after, next⟩ := acted
          cases next with
          | none => rfl
          | some next => exact ih after next

theorem dateKey_uninterrupted (key : Key) (fuel : Nat) :
    uninterrupted act ctx (fuel + 6) (dateKey key) = ctx.handleDateKey key := by
  have labels (dateOffset : Int) : uninterrupted act { ctx with dateOffset } (fuel + 3) (drawing .labelling false) =
      WeatherAppCtx.updateButtonLabels { ctx with dateOffset } := by
    rw [drawing_uninterrupted, Handling.labelling_uninterrupted]
  cases key with
  | left =>
      rw [uninterrupted, act, WeatherAppCtx.handleDateKey]
      split
      next => exact labels (ctx.dateOffset - 1)
      next => rfl
  | right =>
      rw [uninterrupted, act, WeatherAppCtx.handleDateKey]
      split
      next => exact labels (ctx.dateOffset + 1)
      next => rfl

theorem hourKey_uninterrupted (key : Key) (fuel : Nat) :
    uninterrupted act ctx (fuel + 8) (hourKey key) = ctx.handleHourKey key := by
  have bottom (hrOffset : Int) :
      uninterrupted act { ctx with hrOffset } (fuel + 5) (drawing .refreshingBottom false) =
        WeatherAppCtx.refreshBottomUi { ctx with hrOffset } := by
    rw [drawing_uninterrupted, Handling.refreshingBottom_uninterrupted]
  cases key with
  | left =>
      rw [uninterrupted, act, WeatherAppCtx.handleHourKey]
      split
      next => exact bottom (ctx.hrOffset - 1)
      next => rfl
  | right =>
      rw [uninterrupted, act, WeatherAppCtx.handleHourKey]
      split
      next => exact bottom (ctx.hrOffset + 1)
      next => rfl

theorem entering_uninterrupted (fuel : Nat) :
    uninterrupted act ctx (fuel + 9) entering = ctx.enterLoadingState := by
  rw [uninterrupted, act, WeatherAppCtx.enterLoadingState]
  split
  next => rfl
  next =>
    rw [← Handling.refreshing_uninterrupted ctx fuel]
    exact loading_uninterrupted ctx (fuel + 7) .refreshing

theorem selecting_uninterrupted (reqDate : DateTime) (fuel : Nat) :
    uninterrupted act ctx (fuel + 13) (selecting reqDate) = (ctx.selectDate reqDate).enterLoadingState := by
  rw [uninterrupted_next (fuel + 12) rfl, uninterrupted_next (fuel + 11) rfl, uninterrupted_next (fuel + 10) rfl,
    uninterrupted_next (fuel + 9) rfl]
  exact entering_uninterrupted (ctx.selectDate reqDate) fuel

theorem calculating_uninterrupted (fuel : Nat) :
    uninterrupted act ctx (fuel + 14) calculating =
      (calculateDateWithOffset ctx.activeDateTime ctx.dateOffset).bind fun reqDate =>
        if validateDateTime reqDate then (ctx.selectDate reqDate).enterLoadingState else some ctx := by
  cases found : calculateDateWithOffset ctx.activeDateTime ctx.dateOffset with
  | none =>
      have failed : act ctx calculating = none := by rw [act, found, Option.map_none]
      rw [uninterrupted, failed, Option.bind_none, Option.bind_none]
  | some reqDate =>
      rw [Option.bind_some]
      split
      next valid =>
        have acted : act ctx calculating = some (ctx, some (selecting reqDate)) := by
          rw [act, found, Option.map_some, if_pos valid]
        rw [uninterrupted_next (fuel + 13) acted, selecting_uninterrupted]
      next invalid =>
        have acted : act ctx calculating = some (ctx, none) := by
          rw [act, found, Option.map_some, if_neg invalid]
        rw [uninterrupted_last (fuel + 13) acted]

theorem dateUnfocused_uninterrupted (fuel : Nat) :
    uninterrupted act ctx (fuel + 15) dateUnfocused = ctx.handleDateUnfocused.map Prod.fst := by
  rw [WeatherAppCtx.handleDateUnfocused]
  split
  next still =>
    have acted : act ctx dateUnfocused = some (ctx, none) := by rw [act, if_pos still]
    rw [uninterrupted_last (fuel + 14) acted, Option.map_some]
  next moved =>
    have acted : act ctx dateUnfocused = some (ctx, some calculating) := by rw [act, if_neg moved]
    rw [uninterrupted_next (fuel + 14) acted, calculating_uninterrupted, Option.map_bind]
    refine congrArg _ (funext fun reqDate => ?_)
    rw [Function.comp_apply]
    split
    next => simp only [Option.map_map, Function.comp_def, Option.map_id']
    next => rw [Option.map_some]

end Callback

end WatchFirmware.WeatherApp
