import WatchFirmware.WeatherApp.Session

set_option autoImplicit false

namespace WatchFirmware.WeatherApp

open Transition CommonApis
open Ble (Byte)

namespace WeatherAppCtx

def Selected (ctx : WeatherAppCtx) (answers : List Response) (day : DayWeather) : Prop :=
  if ctx.dateSelected then
    ∃ response ∈ answers, response.date = datePayload ctx.activeDateTime ∧ day = response.hours
  else day = ctx.today

def TopShows (ctx : WeatherAppCtx) (answers : List Response) : Prop :=
  ∀ card, ctx.topCard = some card →
    ∃ day hour, ctx.Selected answers day ∧ card = HourlyWeather.topCard (day hour)

def BottomShows (ctx : WeatherAppCtx) (answers : List Response) : Prop :=
  ∀ card, ctx.bottomCard = some card →
    ∃ day hour, ctx.Selected answers day ∧ card = HourlyWeather.bottomCard (day hour)

theorem Selected.mono {ctx : WeatherAppCtx} {answers more : List Response} {day : DayWeather}
    (kept : answers ⊆ more) (selected : ctx.Selected answers day) : ctx.Selected more day := by
  unfold Selected at *
  split at selected
  next chosen =>
    obtain ⟨response, sent, asked, same⟩ := selected
    rw [if_pos chosen]
    exact ⟨response, kept sent, asked, same⟩
  next chosen =>
    rw [if_neg chosen]
    exact selected

/-! What each callback writes. -/

theorem updateButtonLabels_eq {ctx after : WeatherAppCtx}
    (drawn : ctx.updateButtonLabels = some after) :
    ∃ hour date, after = { ctx with hourlyLbl := hour, dateLbl := date } := by
  obtain ⟨hour, _, rest⟩ := Option.bind_eq_some_iff.mp drawn
  obtain ⟨date, _, rfl⟩ := Option.map_eq_some_iff.mp rest
  exact ⟨some hour, some date, rfl⟩

theorem refreshBottomUi_eq {ctx after : WeatherAppCtx} (drawn : ctx.refreshBottomUi = some after) :
    ∃ hour hourlyLbl dateLbl, after =
      { ctx with bottomCard := some (ctx.weatherData hour).bottomCard, hourlyLbl, dateLbl } := by
  obtain ⟨hour, _, rest⟩ := Option.bind_eq_some_iff.mp drawn
  obtain ⟨hourlyLbl, dateLbl, rfl⟩ := updateButtonLabels_eq rest
  exact ⟨hour, hourlyLbl, dateLbl, rfl⟩

theorem refreshAllUi_eq {ctx after : WeatherAppCtx} (drawn : ctx.refreshAllUi = some after) :
    ∃ top bottom hourlyLbl dateLbl, after =
      { ctx with
        topCard := some (ctx.weatherData top).topCard
        bottomCard := some (ctx.weatherData bottom).bottomCard
        hourlyLbl
        dateLbl } := by
  obtain ⟨top, _, rest⟩ := Option.bind_eq_some_iff.mp drawn
  obtain ⟨bottom, hourlyLbl, dateLbl, rfl⟩ := refreshBottomUi_eq rest
  exact ⟨top, bottom, hourlyLbl, dateLbl, rfl⟩

theorem incrementHrOffset_eq (ctx : WeatherAppCtx) :
    ∃ hrOffset, ctx.incrementHrOffset = { ctx with hrOffset } := by
  unfold incrementHrOffset
  split
  next => exact ⟨_, rfl⟩
  next => exact ⟨ctx.hrOffset, rfl⟩

theorem handleDateKey_eq {ctx after : WeatherAppCtx} {key : Key}
    (handled : ctx.handleDateKey key = some after) :
    ∃ dateOffset hourlyLbl dateLbl, after = { ctx with dateOffset, hourlyLbl, dateLbl } := by
  have unchanged : some ctx = some after →
      ∃ dateOffset hourlyLbl dateLbl, after = { ctx with dateOffset, hourlyLbl, dateLbl } := by
    intro same
    cases same
    exact ⟨ctx.dateOffset, ctx.hourlyLbl, ctx.dateLbl, rfl⟩
  have moved {dateOffset : Int}
      (drawn : updateButtonLabels { ctx with dateOffset } = some after) :
      ∃ dateOffset hourlyLbl dateLbl, after = { ctx with dateOffset, hourlyLbl, dateLbl } := by
    obtain ⟨hourlyLbl, dateLbl, rfl⟩ := updateButtonLabels_eq drawn
    exact ⟨dateOffset, hourlyLbl, dateLbl, rfl⟩
  cases key with
  | left =>
      simp only [handleDateKey] at handled
      split at handled
      next => exact moved handled
      next => exact unchanged handled
  | right =>
      simp only [handleDateKey] at handled
      split at handled
      next => exact moved handled
      next => exact unchanged handled

theorem handleHourKey_eq {ctx after : WeatherAppCtx} {key : Key}
    (handled : ctx.handleHourKey key = some after) :
    after = ctx ∨ ∃ hour hrOffset hourlyLbl dateLbl, after =
      { ctx with
        hrOffset
        bottomCard := some (ctx.weatherData hour).bottomCard
        hourlyLbl
        dateLbl } := by
  have moved {hrOffset : Int} (drawn : refreshBottomUi { ctx with hrOffset } = some after) :
      ∃ hour hrOffset hourlyLbl dateLbl, after =
        { ctx with
          hrOffset
          bottomCard := some (ctx.weatherData hour).bottomCard
          hourlyLbl
          dateLbl } := by
    obtain ⟨hour, hourlyLbl, dateLbl, rfl⟩ := refreshBottomUi_eq drawn
    exact ⟨hour, hrOffset, hourlyLbl, dateLbl, rfl⟩
  cases key with
  | left =>
      simp only [handleHourKey] at handled
      split at handled
      next => exact .inr (moved handled)
      next => exact .inl (Option.some.inj handled).symm
  | right =>
      simp only [handleHourKey] at handled
      split at handled
      next => exact .inr (moved handled)
      next => exact .inl (Option.some.inj handled).symm

theorem enterLoadingState_spec {ctx after : WeatherAppCtx} (entered : ctx.enterLoadingState = some after) :
    after.spinner = true ∧ after.dateSelected = ctx.dateSelected ∧
      after.activeDateTime = ctx.activeDateTime := by
  unfold enterLoadingState at entered
  split at entered
  next spinning =>
    cases entered
    exact ⟨spinning, rfl, rfl⟩
  next =>
    obtain ⟨drawn, refreshed, rfl⟩ := Option.map_eq_some_iff.mp entered
    obtain ⟨top, bottom, hourlyLbl, dateLbl, rfl⟩ := refreshAllUi_eq refreshed
    exact ⟨rfl, rfl, rfl⟩

theorem handleDateUnfocused_cases {ctx after : WeatherAppCtx} {date : Option DatePayload}
    (handled : ctx.handleDateUnfocused = some (after, date)) :
    (after = ctx ∧ date = none) ∨
      (ctx.dateOffset ≠ 0 ∧ after.spinner = true ∧ after.dateSelected = true ∧
        validateDateTime after.activeDateTime = true ∧
        date = some (datePayload after.activeDateTime)) := by
  unfold handleDateUnfocused at handled
  split at handled
  next =>
    cases handled
    exact .inl ⟨rfl, rfl⟩
  next moved =>
    obtain ⟨reqDate, _, rest⟩ := Option.bind_eq_some_iff.mp handled
    split at rest
    next valid =>
      obtain ⟨loading, entered, same⟩ := Option.map_eq_some_iff.mp rest
      cases same
      obtain ⟨spinner, chosen, active⟩ := enterLoadingState_spec entered
      have requested : after.activeDateTime = reqDate := active
      rw [requested]
      exact .inr ⟨moved, spinner, chosen, valid, rfl⟩
    next =>
      cases rest
      exact .inl ⟨rfl, rfl⟩

end WeatherAppCtx

open WeatherAppCtx

/-- Without the spinner, both cards show hours of the selected day. -/
def Frame.ShowsSelectedDay (frame : Frame) : Prop :=
  frame.ctx.spinner = false →
    frame.ctx.TopShows frame.answers ∧ frame.ctx.BottomShows frame.answers

namespace Handling

def pastCopy : Handling → Bool
  | received _ => false
  | _ => true

def redrawing : Handling → Bool
  | received _ | copied | exiting | labelling | dating _ | drawingLabels _ _ => false
  | _ => true

def pastTop : Handling → Bool
  | refreshingBottom | drawingBottom _ => true
  | _ => false

def keepsDate : Handling → Bool
  | zeroing => false
  | _ => true

theorem act_pastCopy {ctx after : WeatherAppCtx} {phase : Handling} {next : Option Handling}
    (acted : phase.act ctx = some (after, next)) : next.all pastCopy = true := by
  cases phase with
  | copied =>
      cases acted
      split <;> rfl
  | exiting =>
      rw [act] at acted
      split at acted
      next =>
        cases acted
        rfl
      next => contradiction
  | initializing | validating =>
      cases acted
      rw [Option.all_some]
      split <;> rfl
  | refreshing | refreshingBottom | labelling | dating =>
      obtain ⟨_, _, same⟩ := Option.map_eq_some_iff.mp acted
      cases same
      rfl
  | _ =>
      cases acted
      rfl

end Handling

namespace Watch

/-- The app before another date is selected. No response is on its way to it. -/
structure Untouched (phase : Option Handling) (ctx : WeatherAppCtx) : Prop where
  unselected : ctx.dateSelected = false
  idle : phase = none
  spinner : ctx.spinner = false
  data : ctx.weatherData = ctx.today
  top : ∀ card, ctx.topCard = some card → ∃ hour, card = (ctx.today hour).topCard
  bottom : ∀ card, ctx.bottomCard = some card → ∃ hour, card = (ctx.today hour).bottomCard

/-- The app from then on, with the phase of the worker that has the response. -/
structure Loading (answers : List Response) (phase : Option Handling) (ctx : WeatherAppCtx) : Prop where
  selected : ctx.dateSelected = true
  valid : validateDateTime ctx.activeDateTime = true
  dated : phase.all Handling.keepsDate = true
  -- The data answers the active date as soon as it has been copied.
  data : ctx.spinner = false ∨ phase.any Handling.pastCopy = true →
    ctx.Selected answers ctx.weatherData
  top : ctx.spinner = false → phase.any Handling.pastTop = true → ctx.TopShows answers
  cards : ctx.spinner = false → phase.any Handling.redrawing = false →
    ctx.TopShows answers ∧ ctx.BottomShows answers

def Loaded (answers : List Response) (phase : Option Handling) (ctx : WeatherAppCtx) : Prop :=
  Untouched phase ctx ∨ Loading answers phase ctx

def Genuine (answers : List Response) (update : AppUpdate) : Prop :=
  update.response ∈ answers ∧ update.data = update.response.hours

variable {answers : List Response} {ctx after : WeatherAppCtx}

theorem top_shown (hour : Fin totalHours) (data : ctx.Selected answers ctx.weatherData) :
    (ctx.updateTopCard (ctx.weatherData hour)).TopShows answers := by
  intro card same
  cases same
  exact ⟨ctx.weatherData, hour, data, rfl⟩

theorem bottom_shown (hour : Fin totalHours) (data : ctx.Selected answers ctx.weatherData) :
    (ctx.updateBottomCard (ctx.weatherData hour)).BottomShows answers := by
  intro card same
  cases same
  exact ⟨ctx.weatherData, hour, data, rfl⟩

theorem Untouched.shows {phase : Option Handling} (untouched : Untouched phase ctx) :
    ctx.TopShows answers ∧ ctx.BottomShows answers := by
  have today : ctx.Selected answers ctx.today := by
    unfold Selected
    rw [untouched.unselected]
    exact rfl
  constructor
  next =>
    intro card drawn
    obtain ⟨hour, same⟩ := untouched.top card drawn
    exact ⟨ctx.today, hour, today, same⟩
  next =>
    intro card drawn
    obtain ⟨hour, same⟩ := untouched.bottom card drawn
    exact ⟨ctx.today, hour, today, same⟩

namespace Loading

variable {phase next : Handling}

theorem mono {more : List Response} {phase : Option Handling} (kept : answers ⊆ more)
    (loading : Loading answers phase ctx) : Loading more phase ctx := by
  have top : ctx.TopShows answers → ctx.TopShows more := by
    intro shows card drawn
    obtain ⟨day, hour, selected, same⟩ := shows card drawn
    exact ⟨day, hour, selected.mono kept, same⟩
  have bottom : ctx.BottomShows answers → ctx.BottomShows more := by
    intro shows card drawn
    obtain ⟨day, hour, selected, same⟩ := shows card drawn
    exact ⟨day, hour, selected.mono kept, same⟩
  constructor
  case selected => exact loading.selected
  case valid => exact loading.valid
  case dated => exact loading.dated
  case data => exact fun ready => (loading.data ready).mono kept
  case top => exact fun spinner drawing => top (loading.top spinner drawing)
  case cards => exact fun spinner quiet => (loading.cards spinner quiet).imp top bottom

theorem before_cards (loading : Loading answers (some phase) ctx) (copied : phase.pastCopy = true)
    (drawing : next.redrawing = true) (later : next.pastTop = false) (dated : next.keepsDate = true)
    (same : after.weatherData = ctx.weatherData) (selected : after.dateSelected = ctx.dateSelected)
    (active : after.activeDateTime = ctx.activeDateTime) (today : after.today = ctx.today) :
    Loading answers (some next) after := by
  constructor
  case selected => rw [selected, loading.selected]
  case valid => rw [active, loading.valid]
  case dated => exact dated
  case data =>
    intro _
    have data := loading.data (.inr copied)
    unfold Selected at *
    rwa [selected, active, today, same]
  case top =>
    intro _ drawn
    rw [Option.any_some, later] at drawn
    contradiction
  case cards =>
    intro _ quiet
    rw [Option.any_some, drawing] at quiet
    contradiction

theorem beside_cards {next : Option Handling} (loading : Loading answers (some phase) ctx)
    (copied : phase.pastCopy = true) (quiet : phase.redrawing = false)
    (still : next.any Handling.pastTop = false) (dated : next.all Handling.keepsDate = true) :
    Loading answers next ctx := by
  constructor
  case selected => exact loading.selected
  case valid => exact loading.valid
  case dated => exact dated
  case data => exact fun _ => loading.data (.inr copied)
  case top =>
    intro _ drawn
    rw [still] at drawn
    contradiction
  case cards => exact fun spinner _ => loading.cards spinner quiet

theorem copy {update : AppUpdate} (genuine : Genuine answers update)
    (asked : update.response.date = datePayload ctx.activeDateTime)
    (loading : Loading answers (some (.received update)) ctx) :
    Loading answers (some .copied) { ctx with weatherData := update.data } := by
  constructor
  case selected => exact loading.selected
  case valid => exact loading.valid
  case dated => exact rfl
  case data =>
    intro _
    unfold Selected
    rw [if_pos loading.selected]
    exact ⟨update.response, genuine.1, asked, genuine.2⟩
  case top => exact fun _ drawn => Bool.noConfusion drawn
  case cards => exact fun spinner _ => loading.cards spinner rfl

theorem drawTop {hour : Fin totalHours} (loading : Loading answers (some (.drawingTop hour)) ctx) :
    Loading answers (some .refreshingBottom) (ctx.updateTopCard (ctx.weatherData hour)) := by
  have data := loading.data (.inr rfl)
  constructor
  case selected => exact loading.selected
  case valid => exact loading.valid
  case dated => exact rfl
  case data => exact fun _ => data
  case top => exact fun _ _ => top_shown hour data
  case cards => exact fun _ quiet => Bool.noConfusion quiet

theorem index {hour : Fin totalHours} (loading : Loading answers (some .refreshingBottom) ctx) :
    Loading answers (some (.drawingBottom hour)) ctx := by
  constructor
  case selected => exact loading.selected
  case valid => exact loading.valid
  case dated => exact rfl
  case data => exact fun _ => loading.data (.inr rfl)
  case top => exact fun spinner _ => loading.top spinner rfl
  case cards => exact fun _ quiet => Bool.noConfusion quiet

theorem labels {phase : Option Handling} (hourlyLbl : Option HourLabel) (dateLbl : Option DateLabel)
    (dateOffset : Int) (loading : Loading answers phase ctx) :
    Loading answers phase { ctx with hourlyLbl, dateLbl, dateOffset } where
  selected := loading.selected
  valid := loading.valid
  dated := loading.dated
  data := loading.data
  top := loading.top
  cards := loading.cards

theorem drawBottom {hour : Fin totalHours} (loading : Loading answers (some (.drawingBottom hour)) ctx) :
    Loading answers (some .labelling) (ctx.updateBottomCard (ctx.weatherData hour)) := by
  have data := loading.data (.inr rfl)
  constructor
  case selected => exact loading.selected
  case valid => exact loading.valid
  case dated => exact rfl
  case data => exact fun _ => data
  case top => exact fun _ drawn => Bool.noConfusion drawn
  case cards => exact fun spinner _ => ⟨loading.top spinner rfl, bottom_shown hour data⟩

theorem act {next : Option Handling}
    (asked : ∀ update, phase = .received update →
      Genuine answers update ∧ update.response.date = datePayload ctx.activeDateTime)
    (acted : phase.act ctx = some (after, next)) (loading : Loading answers (some phase) ctx) :
    Loading answers next after := by
  cases phase with
  | received update =>
      cases acted
      obtain ⟨genuine, active⟩ := asked update rfl
      exact loading.copy genuine active
  | copied =>
      cases acted
      cases spinner : ctx.spinner with
      | true => exact loading.beside_cards rfl rfl rfl rfl
      | false => exact loading.beside_cards rfl rfl rfl rfl
  | exiting =>
      rw [Handling.act] at acted
      split at acted
      next =>
        cases acted
        exact loading.before_cards rfl rfl rfl rfl rfl rfl rfl rfl
      next => contradiction
  | initializing =>
      rw [Handling.act, if_pos loading.valid] at acted
      cases acted
      exact loading.before_cards rfl rfl rfl rfl rfl rfl rfl rfl
  | zeroing => exact absurd loading.dated Bool.false_ne_true
  | validating =>
      rw [Handling.act] at acted
      cases acted
      split
      next => exact loading.before_cards rfl rfl rfl rfl rfl rfl rfl rfl
      next => exact loading.before_cards rfl rfl rfl rfl rfl rfl rfl rfl
  | incrementing | storing =>
      cases acted
      exact loading.before_cards rfl rfl rfl rfl rfl rfl rfl rfl
  | refreshing =>
      obtain ⟨hour, _, same⟩ := Option.map_eq_some_iff.mp acted
      cases same
      exact loading.before_cards rfl rfl rfl rfl rfl rfl rfl rfl
  | drawingTop hour =>
      cases acted
      exact loading.drawTop
  | refreshingBottom =>
      obtain ⟨hour, _, same⟩ := Option.map_eq_some_iff.mp acted
      cases same
      exact loading.index
  | drawingBottom hour =>
      cases acted
      exact loading.drawBottom
  | labelling =>
      obtain ⟨hour, _, same⟩ := Option.map_eq_some_iff.mp acted
      cases same
      exact loading.beside_cards rfl rfl rfl rfl
  | dating =>
      obtain ⟨date, _, same⟩ := Option.map_eq_some_iff.mp acted
      cases same
      exact loading.beside_cards rfl rfl rfl rfl
  | drawingLabels hour date =>
      cases acted
      have done := @beside_cards _ _ _ none loading rfl rfl rfl rfl
      exact done.labels (some hour) (some date) ctx.dateOffset

theorem skip (refused : phase.underLock = true) (hidden : phase.redrawing = true → ctx.spinner = true)
    (loading : Loading answers (some phase) ctx) : Loading answers phase.skip ctx := by
  cases phase with
  | exiting => exact loading.before_cards rfl rfl rfl rfl rfl rfl rfl rfl
  | drawingTop =>
      have spinning := hidden rfl
      constructor
      case selected => exact loading.selected
      case valid => exact loading.valid
      case dated => exact rfl
      case data => exact fun _ => loading.data (.inr rfl)
      case top => exact fun spinner _ => absurd (spinning.symm.trans spinner) Bool.noConfusion
      case cards => exact fun spinner _ => absurd (spinning.symm.trans spinner) Bool.noConfusion
  | drawingBottom =>
      have spinning := hidden rfl
      constructor
      case selected => exact loading.selected
      case valid => exact loading.valid
      case dated => exact rfl
      case data => exact fun _ => loading.data (.inr rfl)
      case top => exact fun spinner _ => absurd (spinning.symm.trans spinner) Bool.noConfusion
      case cards => exact fun spinner _ => absurd (spinning.symm.trans spinner) Bool.noConfusion
  | drawingLabels => exact loading.beside_cards rfl rfl rfl rfl
  | _ => contradiction

theorem of_selected (spinning : ctx.spinner = true) (selected : ctx.dateSelected = true)
    (valid : validateDateTime ctx.activeDateTime = true) : Loading answers none ctx where
  selected := selected
  valid := valid
  dated := rfl
  data := fun ready => absurd (spinning.symm.trans (ready.resolve_right Bool.false_ne_true)) Bool.noConfusion
  top := fun spinner _ => absurd (spinning.symm.trans spinner) Bool.noConfusion
  cards := fun spinner _ => absurd (spinning.symm.trans spinner) Bool.noConfusion

end Loading

namespace Loaded

variable {phase : Option Handling}

theorem shows (quiet : ctx.spinner = false → phase.any Handling.redrawing = false)
    (spinner : ctx.spinner = false) (loaded : Loaded answers phase ctx) :
    ctx.TopShows answers ∧ ctx.BottomShows answers := by
  obtain untouched | loading := loaded
  next => exact untouched.shows
  next => exact loading.cards spinner (quiet spinner)

theorem opened {epoch : Nat} {stored : DayWeather} (drawn : initializeWeatherApp epoch stored = some ctx) :
    Loaded answers none ctx := by
  unfold initializeWeatherApp initializeWeatherUi at drawn
  split at drawn
  next =>
    obtain ⟨hrOffset, moved⟩ := incrementHrOffset_eq _
    rw [moved] at drawn
    obtain ⟨top, bottom, hourlyLbl, dateLbl, rfl⟩ := refreshAllUi_eq drawn
    exact .inl ⟨rfl, rfl, rfl, rfl, fun _ same => ⟨top, (Option.some.inj same).symm⟩,
      fun _ same => ⟨bottom, (Option.some.inj same).symm⟩⟩
  next =>
    cases drawn
    refine .inl ⟨rfl, rfl, rfl, rfl, ?_, ?_⟩
    next =>
      intro card same
      contradiction
    next =>
      intro card same
      contradiction

theorem dateKey {key : Key} (handled : ctx.handleDateKey key = some after)
    (loaded : Loaded answers phase ctx) : Loaded answers phase after := by
  obtain ⟨dateOffset, hourlyLbl, dateLbl, rfl⟩ := handleDateKey_eq handled
  obtain untouched | loading := loaded
  next =>
    exact .inl ⟨untouched.unselected, untouched.idle, untouched.spinner, untouched.data, untouched.top,
      untouched.bottom⟩
  next => exact .inr (loading.labels hourlyLbl dateLbl dateOffset)

theorem hourKey {key : Key} (handled : ctx.handleHourKey key = some after)
    (loaded : Loaded answers phase ctx) : Loaded answers phase after := by
  obtain rfl | ⟨hour, hrOffset, hourlyLbl, dateLbl, rfl⟩ := handleHourKey_eq handled
  next => exact loaded
  next =>
    obtain untouched | loading := loaded
    next =>
      refine .inl ⟨untouched.unselected, untouched.idle, untouched.spinner, untouched.data, untouched.top, ?_⟩
      intro card same
      cases same
      exact ⟨hour, by rw [← untouched.data]⟩
    next =>
      -- without the spinner the copied data answers the date
      refine .inr ⟨loading.selected, loading.valid, loading.dated, loading.data, loading.top, ?_⟩
      intro spinner quiet
      exact ⟨(loading.cards spinner quiet).1, bottom_shown hour (loading.data (.inl spinner))⟩

end Loaded

end Watch

end WatchFirmware.WeatherApp
