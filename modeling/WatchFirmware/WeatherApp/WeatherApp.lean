import WatchFirmware.Common.DateTime

set_option autoImplicit false

namespace WatchFirmware.WeatherApp

open CommonApis

abbrev totalHours : Nat := 24
abbrev maxDateOffsetDiff : Int := 60

structure HourlyWeather where
  -- scaled by 10
  temperature : Int
  humidity : Nat
  precipProb : Nat
  weatherCode : Nat
  windSpeed : Nat
  deriving DecidableEq, Repr

abbrev DayWeather := Fin totalHours → HourlyWeather

def DayWeather.zero : DayWeather := fun _ => ⟨0, 0, 0, 0, 0⟩

inductive Icon where
  | sunny
  | cloud
  | rainy
  deriving DecidableEq, Repr

def getIconFromCode (code : Nat) : Icon :=
  if code ∈ [2, 3, 45, 48] then .cloud
  else if code ∈ [51, 53, 55, 56, 57, 61, 63, 65, 66, 67, 80, 81, 82, 95, 96, 99] then .rainy
  else .sunny

structure TopCard where
  temperature : Int
  humidity : Nat
  precipProb : Nat
  windSpeed : Nat
  icon : Icon
  deriving DecidableEq, Repr

structure BottomCard where
  temperature : Int
  humidity : Nat
  windSpeed : Nat
  icon : Icon
  deriving DecidableEq, Repr

def HourlyWeather.topCard (weather : HourlyWeather) : TopCard :=
  { temperature := weather.temperature.tdiv 10
    humidity := weather.humidity
    precipProb := weather.precipProb
    windSpeed := weather.windSpeed
    icon := getIconFromCode weather.weatherCode }

def HourlyWeather.bottomCard (weather : HourlyWeather) : BottomCard :=
  { temperature := weather.temperature.tdiv 10
    humidity := weather.humidity
    windSpeed := weather.windSpeed
    icon := getIconFromCode weather.weatherCode }

structure HourLabel where
  hour : Int
  afternoon : Bool
  deriving DecidableEq, Repr

-- months_str starts with January at 0.
structure DateLabel where
  day : Nat
  month : Nat
  deriving DecidableEq, Repr

def validateHour (hr : Int) : Bool := decide (0 ≤ hr ∧ hr < 24)

def validateEpoch (epoch : Int) : Bool := decide (0 ≤ epoch ∧ epoch ≤ 4294967295)

def validateHrOffsetIncrement (time : DateTime) (hrOffset : Int) : Bool :=
  validateHour (time.hr + hrOffset + 1)

def validateHrOffsetDecrement (time : DateTime) (hrOffset : Int) : Bool :=
  validateHour (time.hr + hrOffset - 1)

def proposedEpoch (time : DateTime) (dateOffset : Int) : Int :=
  getEpochFromDateTime time + dateOffset * secondsPerDay

def validateDateOffsetIncrement (time : DateTime) (dateOffset : Int) : Bool :=
  decide (dateOffset < maxDateOffsetDiff) && validateEpoch (proposedEpoch time (dateOffset + 1))

def validateDateOffsetDecrement (time : DateTime) (dateOffset : Int) : Bool :=
  decide (-maxDateOffsetDiff < dateOffset) && validateEpoch (proposedEpoch time (dateOffset - 1))

-- From here on none is a failed assertion.
def calculateDateWithOffset (time : DateTime) (dateOffset : Int) : Option DateTime :=
  if -maxDateOffsetDiff ≤ dateOffset ∧ dateOffset ≤ maxDateOffsetDiff then
    let epoch := proposedEpoch time dateOffset
    if validateEpoch epoch then some (getDateTimeFromEpoch epoch.toNat) else none
  else none

def getDateTimeHrStringFmt (hour : Nat) (hrOffset : Int) : Option HourLabel :=
  let hr := hour + hrOffset
  if validateHour hr then
    let halved := if 12 < hr then hr % 12 else hr
    some ⟨if halved = 0 then 12 else halved, decide (12 ≤ hr)⟩
  else none

def getDateTimeDateStringFmt (date : DateTime) (dayOffset : Int) : Option DateLabel :=
  let epoch := proposedEpoch date dayOffset
  if validateEpoch epoch then
    let offseted := getDateTimeFromEpoch epoch.toNat
    some ⟨offseted.day, if offseted.month = 0 ∨ 12 < offseted.month then 0 else offseted.month - 1⟩
  else none

/-- An index into `weather_data`; there is no next state outside the array. -/
def weatherIndex (hr : Int) : Option (Fin totalHours) :=
  if validateHour hr then some (Fin.ofNat totalHours hr.toNat) else none

def calculateHrWithOffset (time : DateTime) (hrOffset : Int) : Option (Fin totalHours) :=
  weatherIndex (time.hr + hrOffset)

structure DatePayload where
  day : Nat
  month : Nat
  yearHigh : Nat
  yearLow : Nat
  deriving DecidableEq, Repr

def datePayload (date : DateTime) : DatePayload :=
  ⟨date.day % 256, date.month % 256, date.year / 256 % 256, date.year % 256⟩

/-- `weather_app_ctx_t`. A card or label is none while it has the text it was created with; the
bottom card is hidden while there is a spinner. -/
structure WeatherAppCtx where
  weatherData : DayWeather
  activeDateTime : DateTime
  dateOffset : Int
  hrOffset : Int
  topCard : Option TopCard
  bottomCard : Option BottomCard
  hourlyLbl : Option HourLabel
  dateLbl : Option DateLabel
  spinner : Bool
  -- kept for the statements only: what get_weather_day copied when the app was opened, and
  -- whether another date has been selected since
  today : DayWeather
  dateSelected : Bool

inductive Key where
  | left
  | right
  deriving DecidableEq

namespace WeatherAppCtx

def updateTopCard (ctx : WeatherAppCtx) (currWeather : HourlyWeather) : WeatherAppCtx :=
  { ctx with topCard := some currWeather.topCard }

def updateBottomCard (ctx : WeatherAppCtx) (hourlyWeather : HourlyWeather) : WeatherAppCtx :=
  { ctx with bottomCard := some hourlyWeather.bottomCard }

def setButtonLabels (ctx : WeatherAppCtx) (hour : HourLabel) (date : DateLabel) : WeatherAppCtx :=
  { ctx with hourlyLbl := some hour, dateLbl := some date }

def updateButtonLabels (ctx : WeatherAppCtx) : Option WeatherAppCtx :=
  (getDateTimeHrStringFmt ctx.activeDateTime.hr ctx.hrOffset).bind fun hour =>
    (getDateTimeDateStringFmt ctx.activeDateTime ctx.dateOffset).map fun date =>
      ctx.setButtonLabels hour date

def refreshBottomUi (ctx : WeatherAppCtx) : Option WeatherAppCtx :=
  (calculateHrWithOffset ctx.activeDateTime ctx.hrOffset).bind fun hour =>
    (ctx.updateBottomCard (ctx.weatherData hour)).updateButtonLabels

def refreshAllUi (ctx : WeatherAppCtx) : Option WeatherAppCtx :=
  (weatherIndex ctx.activeDateTime.hr).bind fun hour =>
    (ctx.updateTopCard (ctx.weatherData hour)).refreshBottomUi

def incrementHrOffset (ctx : WeatherAppCtx) : WeatherAppCtx :=
  if validateHrOffsetIncrement ctx.activeDateTime ctx.hrOffset then
    { ctx with hrOffset := ctx.hrOffset + 1 }
  else ctx

def initializeWeatherUi (ctx : WeatherAppCtx) : Option WeatherAppCtx :=
  if validateDateTime ctx.activeDateTime then ctx.incrementHrOffset.refreshAllUi
  else some { ctx with activeDateTime := .zero }

def enterLoadingState (ctx : WeatherAppCtx) : Option WeatherAppCtx :=
  if ctx.spinner then some ctx
  else ctx.refreshAllUi.map fun drawn => { drawn with spinner := true }

def exitLoadingState (ctx : WeatherAppCtx) : Option WeatherAppCtx :=
  if ctx.spinner then initializeWeatherUi { ctx with spinner := false } else some ctx

def handleDateKey (ctx : WeatherAppCtx) : Key → Option WeatherAppCtx
  | .left =>
      if validateDateOffsetDecrement ctx.activeDateTime ctx.dateOffset then
        updateButtonLabels { ctx with dateOffset := ctx.dateOffset - 1 }
      else some ctx
  | .right =>
      if validateDateOffsetIncrement ctx.activeDateTime ctx.dateOffset then
        updateButtonLabels { ctx with dateOffset := ctx.dateOffset + 1 }
      else some ctx

def handleHourKey (ctx : WeatherAppCtx) : Key → Option WeatherAppCtx
  | .left =>
      if validateHrOffsetDecrement ctx.activeDateTime ctx.hrOffset then
        refreshBottomUi { ctx with hrOffset := ctx.hrOffset - 1 }
      else some ctx
  | .right =>
      if validateHrOffsetIncrement ctx.activeDateTime ctx.hrOffset then
        refreshBottomUi { ctx with hrOffset := ctx.hrOffset + 1 }
      else some ctx

def selectDate (ctx : WeatherAppCtx) (reqDate : DateTime) : WeatherAppCtx :=
  { ctx with
    activeDateTime := reqDate
    hrOffset := 0
    dateOffset := 0
    weatherData := .zero
    dateSelected := true }

/-- The context afterwards, and the date that was requested if one was. -/
def handleDateUnfocused (ctx : WeatherAppCtx) : Option (WeatherAppCtx × Option DatePayload) :=
  if ctx.dateOffset = 0 then some (ctx, none)
  else
    (calculateDateWithOffset ctx.activeDateTime ctx.dateOffset).bind fun reqDate =>
      if validateDateTime reqDate then
        (ctx.selectDate reqDate).enterLoadingState.map fun loading =>
          (loading, some (datePayload reqDate))
      else some (ctx, none)

def initializeWeatherApp (epoch : Nat) (stored : DayWeather) : Option WeatherAppCtx :=
  initializeWeatherUi
    { weatherData := stored
      activeDateTime := getDateTimeFromEpoch epoch
      dateOffset := 0
      hrOffset := 0
      topCard := none
      bottomCard := none
      hourlyLbl := none
      dateLbl := none
      spinner := false
      today := stored
      dateSelected := false }

def receiveEvent (ctx : WeatherAppCtx) (data : DayWeather) : Option WeatherAppCtx :=
  exitLoadingState { ctx with weatherData := data }

end WeatherAppCtx

end WatchFirmware.WeatherApp
