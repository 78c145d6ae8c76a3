import WatchFirmware.Common.Calendar
import WatchFirmware.Shared.Decimal
import WatchFirmware.StateManager.AlarmManager

set_option autoImplicit false

namespace WatchFirmware.AlarmApp

open Transition CommonApis Decimal
open StateManager (Alarm)

inductive LabelKey where
  | left
  | right
  deriving DecidableEq

section Picker

abbrev maxPatternLen : Nat := 20

/-- The texts of the labels that `day_time_picker_widget_draw` puts into `out_labels`. -/
def dayTimePickerWidgetDraw (pattern : List Char) : List Char :=
  (pattern.take maxPatternLen).filterMap fun c =>
    if c = '*' then some '0' else if IsDigit c then some c else none

-- none where an assertion fails.
def mergeLabels : List Char → List Char → Option (List Char)
  | [], _ => some []
  | c :: pattern, labels =>
      if c = '*' then
        match labels with
        | [] => none
        | txt :: labels => if IsDigit txt then (mergeLabels pattern labels).map (txt :: ·) else none
      else (mergeLabels pattern labels).map (c :: ·)

def dayTimePickerWidgetGetSelectedValue (pattern labels : List Char) : Option (List Char) :=
  mergeLabels (pattern.take maxPatternLen) labels

def onLabelKeyPressCb (txt : Char) (key : LabelKey) : Option Char :=
  if IsDigit txt then
    let val : Int := txt.toNat - 48
    let turned := match key with
      | .left => val - 1
      | .right => val + 1
    some (digit ((turned.tmod 10 + 10).tmod 10).toNat)
  else none

end Picker

/-- The page while `background` is not NULL. -/
structure CreatePage where
  timeLabels : List Char
  dateLabels : List Char
  errHidden : Bool

structure AlarmCreator where
  page : Option CreatePage
  -- what create_new_alarm was given so far, with its answers
  requests : List (Alarm × Bool)

inductive CreatorAction where
  /-- `draw_modify_alarm_page` with the time of the alarm, or of now. -/
  | draw (epoch : UInt32)
  | timeKey (label : Nat) (key : LabelKey)
  | dateKey (label : Nat) (key : LabelKey)
  | create (accepted : Bool)
  | esc

namespace CreatePage

-- The numbers are below the power of ten of their fields, so that snprintf fills a field and no more.
def opened (dt : DateTime) : CreatePage where
  timeLabels := dayTimePickerWidgetDraw (format 2 (dt.hr % 24) ++ [':'] ++ format 2 (dt.min % 60))
  dateLabels := dayTimePickerWidgetDraw
    (format 2 (dt.day % 100) ++ ['/'] ++ format 2 (dt.month % 100) ++ ['/'] ++ format 4 (dt.year % 10000))
  errHidden := true

/-- `sscanf` with the format `%2u:%2u`. -/
def scanTime (text : List Char) : Option (Nat × Nat) := do
  let (hr, text) ← scan 2 text
  guard (text.head? = some ':')
  let (min, _) ← scan 2 text.tail
  some (hr, min)

/-- `sscanf` with the format `%2u/%2u/%4u`. -/
def scanDate (text : List Char) : Option (Nat × Nat × Nat) := do
  let (day, text) ← scan 2 text
  guard (text.head? = some '/')
  let (mth, text) ← scan 2 text.tail
  guard (text.head? = some '/')
  let (year, _) ← scan 4 text.tail
  some (day, mth, year)

/-- `alarm_date` in `on_btn_clicked_cb`. -/
def alarmDate (page : CreatePage) : Option DateTime := do
  let timeStr ← dayTimePickerWidgetGetSelectedValue "**:**".toList page.timeLabels
  let dateStr ← dayTimePickerWidgetGetSelectedValue "**/**/****".toList page.dateLabels
  let (hr, min) ← scanTime timeStr
  let (day, mth, year) ← scanDate dateStr
  some { hr, min, sec := 0, day, month := mth, year, dWeek := 0 }

end CreatePage

namespace AlarmCreator

def drawModifyAlarmPage (creator : AlarmCreator) (epoch : UInt32) : Option AlarmCreator :=
  if creator.page.isSome then none
  else some { creator with page := some (CreatePage.opened (getDateTimeFromEpoch epoch.toNat)) }

def onBtnClickedCb (creator : AlarmCreator) (page : CreatePage) (accepted : Bool) : Option AlarmCreator :=
  page.alarmDate.map fun alarmDate =>
    if validateDateTime alarmDate then
      let newAlarm : Alarm := ⟨UInt32.ofNat (getEpochFromDateTime alarmDate), .watch, false⟩
      { page := if accepted then none else some { page with errHidden := false }
        requests := creator.requests ++ [(newAlarm, accepted)] }
    else { creator with page := some { page with errHidden := false } }

def step : Step AlarmCreator CreatorAction := fun creator action =>
  match action, creator.page with
  | .draw epoch, _ => creator.drawModifyAlarmPage epoch
  | .timeKey label key, some page => do
      let txt ← page.timeLabels[label]?
      let txt ← onLabelKeyPressCb txt key
      some { creator with page := some { page with timeLabels := page.timeLabels.set label txt } }
  | .dateKey label key, some page => do
      let txt ← page.dateLabels[label]?
      let txt ← onLabelKeyPressCb txt key
      some { creator with page := some { page with dateLabels := page.dateLabels.set label txt } }
  | .create accepted, some page => creator.onBtnClickedCb page accepted
  | .esc, some _ => some { creator with page := none }
  | _, none => none

end AlarmCreator

end WatchFirmware.AlarmApp
