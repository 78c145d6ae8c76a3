import WatchFirmware.AlarmApp.CreatePage
import WatchFirmware.Shared.Refinement

set_option autoImplicit false

namespace WatchFirmware.AlarmApp

open Transition CommonApis Decimal
open StateManager (Alarm)

section Picker

theorem mergeLabels_stars {text : List Char} (digits : ∀ c ∈ text, IsDigit c) (pattern labels : List Char) :
    mergeLabels (List.replicate text.length '*' ++ pattern) (text ++ labels) =
      (mergeLabels pattern labels).map (text ++ ·) := by
  induction text with
  | nil =>
      cases merged : mergeLabels pattern labels with
      | none => simp [merged]
      | some _ => simp [merged]
  | cons c text ih =>
      have first := digits c List.mem_cons_self
      have rest := ih fun other member => digits other (List.mem_cons_of_mem _ member)
      simp only [List.length_cons, List.replicate_succ, List.cons_append, mergeLabels, if_true, first, rest,
        Option.map_map]
      rfl

theorem mergeLabels_separator {c : Char} (separator : c ≠ '*') (pattern labels : List Char) :
    mergeLabels (c :: pattern) labels = (mergeLabels pattern labels).map (c :: ·) := by
  cases labels with
  | nil | cons _ _ => simp only [mergeLabels, if_neg separator]

theorem mergeLabels_last {text : List Char} (digits : ∀ c ∈ text, IsDigit c) :
    mergeLabels (List.replicate text.length '*') text = some text := by
  have merged := mergeLabels_stars digits [] []
  rw [List.append_nil, List.append_nil] at merged
  rw [merged, mergeLabels, Option.map_some, List.append_nil]

theorem isDigit_ne_star {c : Char} (isDigit : IsDigit c) : c ≠ '*' := by
  rintro rfl
  exact absurd isDigit (by decide)

theorem draw_digits {text : List Char} (digits : ∀ c ∈ text, IsDigit c) :
    (text.filterMap fun c => if c = '*' then some '0' else if IsDigit c then some c else none) = text := by
  induction text with
  | nil => rfl
  | cons c text ih =>
      have first := digits c List.mem_cons_self
      rw [List.filterMap_cons, if_neg (isDigit_ne_star first), if_pos first,
        ih fun other member => digits other (List.mem_cons_of_mem _ member)]

theorem onLabelKeyPressCb_isDigit {txt : Char} (isDigit : IsDigit txt) (key : LabelKey) :
    ∃ turned, onLabelKeyPressCb txt key = some turned ∧ IsDigit turned := by
  rw [onLabelKeyPressCb, if_pos isDigit]
  exact ⟨_, rfl, digit_isDigit _⟩

end Picker

namespace CreatePage

structure Wf (page : CreatePage) : Prop where
  timeLength : page.timeLabels.length = 4
  dateLength : page.dateLabels.length = 8
  time : ∀ c ∈ page.timeLabels, IsDigit c
  date : ∀ c ∈ page.dateLabels, IsDigit c

def shown (page : CreatePage) : DateTime where
  hr := value (page.timeLabels.take 2)
  min := value (page.timeLabels.drop 2)
  sec := 0
  day := value (page.dateLabels.take 2)
  month := value ((page.dateLabels.drop 2).take 2)
  year := value (page.dateLabels.drop 4)
  dWeek := 0

variable {page : CreatePage}

theorem scan_field {text : List Char} {width : Nat} (sized : text.length = width) (filled : 0 < width)
    (digits : ∀ c ∈ text, IsDigit c) (rest : List Char) : scan width (text ++ rest) = some (value text, rest) := by
  have nonempty : text ≠ [] := by
    rintro rfl
    rw [List.length_nil] at sized
    omega
  rw [← sized]
  exact scan_append digits nonempty rest

theorem digits_split {labels : List Char} (digits : ∀ c ∈ labels, IsDigit c) (width : Nat) :
    (∀ c ∈ labels.take width, IsDigit c) ∧ ∀ c ∈ labels.drop width, IsDigit c :=
  ⟨fun c member => digits c (List.mem_of_mem_take member), fun c member => digits c (List.mem_of_mem_drop member)⟩

theorem scanTime_labels {hr min : List Char} (hrLength : hr.length = 2) (minLength : min.length = 2)
    (hrDigits : ∀ c ∈ hr, IsDigit c) (minDigits : ∀ c ∈ min, IsDigit c) :
    (dayTimePickerWidgetGetSelectedValue "**:**".toList (hr ++ min)).bind scanTime = some (value hr, value min) := by
  have pattern : "**:**".toList.take maxPatternLen =
      List.replicate hr.length '*' ++ ':' :: List.replicate min.length '*' := by
    rw [hrLength, minLength]
    rfl
  have last := scan_field minLength (by decide) minDigits []
  rw [List.append_nil] at last
  rw [dayTimePickerWidgetGetSelectedValue, pattern, mergeLabels_stars hrDigits,
    mergeLabels_separator (by decide), mergeLabels_last minDigits]
  simp [scanTime, scan_field hrLength (by decide) hrDigits, last, guard]

theorem scanDate_labels {day month year : List Char} (dayLength : day.length = 2) (monthLength : month.length = 2)
    (yearLength : year.length = 4) (dayDigits : ∀ c ∈ day, IsDigit c) (monthDigits : ∀ c ∈ month, IsDigit c)
    (yearDigits : ∀ c ∈ year, IsDigit c) :
    (dayTimePickerWidgetGetSelectedValue "**/**/****".toList (day ++ (month ++ year))).bind scanDate =
      some (value day, value month, value year) := by
  have pattern : "**/**/****".toList.take maxPatternLen = List.replicate day.length '*' ++
      '/' :: (List.replicate month.length '*' ++ '/' :: List.replicate year.length '*') := by
    rw [dayLength, monthLength, yearLength]
    rfl
  have last := scan_field yearLength (by decide) yearDigits []
  rw [List.append_nil] at last
  rw [dayTimePickerWidgetGetSelectedValue, pattern, mergeLabels_stars dayDigits, mergeLabels_separator (by decide),
    mergeLabels_stars monthDigits, mergeLabels_separator (by decide), mergeLabels_last yearDigits]
  simp [scanDate, scan_field dayLength (by decide) dayDigits, scan_field monthLength (by decide) monthDigits, last,
    guard]

theorem Wf.alarmDate (wf : page.Wf) : page.alarmDate = some page.shown := by
  obtain ⟨hr, min⟩ := digits_split wf.time 2
  obtain ⟨day, others⟩ := digits_split wf.date 2
  obtain ⟨month, year⟩ := digits_split others 2
  have time := scanTime_labels (by simp [wf.timeLength]) (by simp [wf.timeLength]) hr min
  have date := scanDate_labels (by simp [wf.dateLength]) (by simp [wf.dateLength]) (by simp [wf.dateLength]) day month
    year
  rw [List.take_append_drop] at time
  rw [List.take_append_drop, List.take_append_drop, List.drop_drop] at date
  obtain ⟨timeStr, merged, timeScanned⟩ := Option.bind_eq_some_iff.mp time
  obtain ⟨dateStr, joined, dateScanned⟩ := Option.bind_eq_some_iff.mp date
  simp only [CreatePage.alarmDate, merged, joined, timeScanned, dateScanned, Option.bind_eq_bind, Option.bind_some]
  rfl

theorem opened_timeLabels (dt : DateTime) :
    (opened dt).timeLabels = format 2 (dt.hr % 24) ++ format 2 (dt.min % 60) := by
  have short : (format 2 (dt.hr % 24) ++ [':'] ++ format 2 (dt.min % 60)).length ≤ maxPatternLen := by
    simp only [List.length_append, format_length]
    decide
  rw [opened, dayTimePickerWidgetDraw, List.take_of_length_le short, List.filterMap_append, List.filterMap_append,
    draw_digits format_isDigit, draw_digits format_isDigit]
  exact congrArg (· ++ _) (List.append_nil _)

theorem opened_dateLabels (dt : DateTime) :
    (opened dt).dateLabels =
      format 2 (dt.day % 100) ++ (format 2 (dt.month % 100) ++ format 4 (dt.year % 10000)) := by
  have short : (format 2 (dt.day % 100) ++ ['/'] ++ format 2 (dt.month % 100) ++ ['/'] ++
      format 4 (dt.year % 10000)).length ≤ maxPatternLen := by
    simp only [List.length_append, format_length]
    decide
  have separator : ['/'].filterMap (fun c => if c = '*' then some '0' else if IsDigit c then some c else none) = [] :=
    rfl
  have drawn : (opened dt).dateLabels = dayTimePickerWidgetDraw (format 2 (dt.day % 100) ++ ['/'] ++
      format 2 (dt.month % 100) ++ ['/'] ++ format 4 (dt.year % 10000)) := rfl
  rw [drawn, dayTimePickerWidgetDraw, List.take_of_length_le short]
  simp only [List.filterMap_append, draw_digits format_isDigit, separator, List.nil_append, List.append_assoc]

theorem opened_wf (dt : DateTime) : (opened dt).Wf := by
  constructor
  case timeLength => rw [opened_timeLabels, List.length_append, format_length, format_length]
  case dateLength => simp only [opened_dateLabels, List.length_append, format_length]
  case time =>
    intro c member
    rw [opened_timeLabels, List.mem_append] at member
    obtain hr | min := member
    next => exact format_isDigit c hr
    next => exact format_isDigit c min
  case date =>
    intro c member
    rw [opened_dateLabels, List.mem_append, List.mem_append] at member
    obtain day | month | year := member
    next => exact format_isDigit c day
    next => exact format_isDigit c month
    next => exact format_isDigit c year

theorem opened_shown {dt : DateTime} (there : dt.Exists) (near : dt.year < 10000) :
    (opened dt).shown = { dt with sec := 0, dWeek := 0 } := by
  have hr := there.hr
  have min := there.min
  obtain ⟨⟨january, december⟩, first, last⟩ := there.date
  have long := daysInMonth_le dt.date.year dt.date.month
  have month : dt.month < 100 := by
    have bound : (dt.month : Int) ≤ 12 := december
    omega
  have day : dt.day < 100 := by
    have bound : (dt.day : Int) ≤ 31 := last.trans long
    omega
  have hour : dt.hr < 10 ^ 2 := by omega
  have minute : dt.min < 10 ^ 2 := by omega
  have monthText : value (format 2 dt.month) = dt.month := value_format month
  have dayText : value (format 2 dt.day) = dt.day := value_format day
  simp only [shown, opened_timeLabels, opened_dateLabels, List.take_left' (format_length _ _),
    List.drop_left' (format_length _ _), Nat.mod_eq_of_lt hr, Nat.mod_eq_of_lt min, Nat.mod_eq_of_lt day,
    Nat.mod_eq_of_lt month, Nat.mod_eq_of_lt near, value_format hour, value_format minute, monthText, dayText]
  have year : (format 2 dt.day ++ (format 2 dt.month ++ format 4 dt.year)).drop 4 = format 4 dt.year := by
    rw [← List.append_assoc]
    exact List.drop_left' (by simp)
  rw [year, value_format near]

theorem Wf.timeKey (wf : page.Wf) (label : Nat) {txt : Char} (isDigit : IsDigit txt) :
    CreatePage.Wf { page with timeLabels := page.timeLabels.set label txt } where
  timeLength := by rw [List.length_set, wf.timeLength]
  dateLength := wf.dateLength
  time := fun c member => (List.mem_or_eq_of_mem_set member).elim (wf.time c) fun same => same ▸ isDigit
  date := wf.date

theorem Wf.dateKey (wf : page.Wf) (label : Nat) {txt : Char} (isDigit : IsDigit txt) :
    CreatePage.Wf { page with dateLabels := page.dateLabels.set label txt } where
  timeLength := wf.timeLength
  dateLength := by rw [List.length_set, wf.dateLength]
  time := wf.time
  date := fun c member => (List.mem_or_eq_of_mem_set member).elim (wf.date c) fun same => same ▸ isDigit

end CreatePage

namespace AlarmCreator

def closed : AlarmCreator := ⟨none, []⟩

def Allowed (creator : AlarmCreator) : CreatorAction → Prop
  | .draw _ => creator.page.isNone
  | .timeKey label _ => creator.page.isSome ∧ label < 4
  | .dateKey label _ => creator.page.isSome ∧ label < 8
  | .create _ | .esc => creator.page.isSome

instance (creator : AlarmCreator) (action : CreatorAction) : Decidable (creator.Allowed action) := by
  unfold Allowed
  split <;> infer_instance

def alarmOf (dt : DateTime) : Alarm := ⟨UInt32.ofNat (getEpochFromDateTime dt), .watch, false⟩

structure Sound (creator : AlarmCreator) : Prop where
  wf : ∀ page, creator.page = some page → page.Wf
  real : ∀ request ∈ creator.requests, ∃ dt : DateTime, dt.Exists ∧ dt.sec = 0 ∧ request.1 = alarmOf dt

variable {creator : AlarmCreator}

theorem Sound.closePage (sound : creator.Sound) : Sound { creator with page := none } where
  wf := fun page open_ => by cases open_
  real := sound.real

theorem Sound.openPage (sound : creator.Sound) {page : CreatePage} (wf : page.Wf) :
    Sound { creator with page := some page } where
  wf := fun other open_ => by
    cases open_
    exact wf
  real := sound.real

theorem create_page {page : CreatePage} (isOpen : creator.page = some page) (date : page.alarmDate = some page.shown)
    (accepted : Bool) :
    (page.shown.Exists → step creator (.create accepted) = some
      { page := if accepted then none else some { page with errHidden := false }
        requests := creator.requests ++ [(alarmOf page.shown, accepted)] }) ∧
      (¬page.shown.Exists → step creator (.create accepted) =
        some { creator with page := some { page with errHidden := false } }) := by
  have other : ¬page.shown.LastOf1969 := by
    rintro ⟨_, _, _, sec⟩
    have seconds : 0 = 59 := sec
    cases seconds
  have pressed : step creator (.create accepted) = creator.onBtnClickedCb page accepted := by
    simp only [step, isOpen]
  rw [pressed, onBtnClickedCb, date, Option.map_some]
  constructor
  next =>
    intro there
    rw [if_pos ((validateDateTime_iff _).mpr ⟨there, other⟩)]
    rfl
  next =>
    intro absent
    rw [if_neg (mt (fun valid => ((validateDateTime_iff _).mp valid).1) absent)]

theorem Sound.step (sound : creator.Sound) {action : CreatorAction} (allowed : creator.Allowed action) :
    ∃ after, AlarmCreator.step creator action = some after ∧ after.Sound := by
  cases action with
  | draw epoch =>
      have isClosed : creator.page.isNone = true := allowed
      have free : ¬creator.page.isSome = true := by simpa using isClosed
      exact ⟨_, if_neg free, sound.openPage (CreatePage.opened_wf _)⟩
  | timeKey label key =>
      obtain ⟨isOpen, inside⟩ := allowed
      obtain ⟨page, page_eq⟩ := Option.isSome_iff_exists.mp isOpen
      have wf := sound.wf page page_eq
      have bound : label < page.timeLabels.length := by rw [wf.timeLength]; exact inside
      obtain ⟨turned, taken, isDigit⟩ := onLabelKeyPressCb_isDigit (wf.time _ (List.getElem_mem bound)) key
      refine ⟨_, ?_, sound.openPage (wf.timeKey label isDigit)⟩
      simp only [AlarmCreator.step, page_eq, List.getElem?_eq_getElem bound, taken, Option.bind_eq_bind,
        Option.bind_some]
  | dateKey label key =>
      obtain ⟨isOpen, inside⟩ := allowed
      obtain ⟨page, page_eq⟩ := Option.isSome_iff_exists.mp isOpen
      have wf := sound.wf page page_eq
      have bound : label < page.dateLabels.length := by rw [wf.dateLength]; exact inside
      obtain ⟨turned, taken, isDigit⟩ := onLabelKeyPressCb_isDigit (wf.date _ (List.getElem_mem bound)) key
      refine ⟨_, ?_, sound.openPage (wf.dateKey label isDigit)⟩
      simp only [AlarmCreator.step, page_eq, List.getElem?_eq_getElem bound, taken, Option.bind_eq_bind,
        Option.bind_some]
  | create accepted =>
      obtain ⟨page, page_eq⟩ := Option.isSome_iff_exists.mp allowed
      have wf := sound.wf page page_eq
      have shows : CreatePage.Wf { page with errHidden := false } := ⟨wf.timeLength, wf.dateLength, wf.time, wf.date⟩
      obtain ⟨sets, refuses⟩ := create_page page_eq wf.alarmDate accepted
      by_cases there : page.shown.Exists
      next =>
        have asked : ∀ page? : Option CreatePage, (∀ page, page? = some page → page.Wf) →
            Sound { page := page?, requests := creator.requests ++ [(alarmOf page.shown, accepted)] } := by
          intro page? wf
          refine ⟨wf, fun request member => ?_⟩
          rw [List.mem_append, List.mem_singleton] at member
          obtain earlier | rfl := member
          next => exact sound.real request earlier
          next => exact ⟨page.shown, there, rfl, rfl⟩
        refine ⟨_, sets there, asked _ ?_⟩
        intro other isOpen
        cases accepted with
        | true => cases isOpen
        | false =>
            cases isOpen
            exact shows
      next => exact ⟨_, refuses there, sound.openPage shows⟩
  | esc =>
      obtain ⟨page, page_eq⟩ := Option.isSome_iff_exists.mp allowed
      exact ⟨_, by simp only [AlarmCreator.step, page_eq], sound.closePage⟩

theorem closed_sound : closed.Sound where
  wf := fun page isOpen => by cases isOpen
  real := fun request member => absurd member List.not_mem_nil

theorem alarmOf_epoch {dt : DateTime} (past : 0 ≤ timegm dt.toTm) (future : timegm dt.toTm < 2 ^ 32) :
    ((alarmOf dt).epoch.toNat : Int) = timegm dt.toTm := by
  have wrapped : (alarmOf dt).epoch = UInt32.ofNat (getEpochFromDateTime dt) := rfl
  rw [wrapped, UInt32.toNat_ofNat', getEpochFromDateTime]
  generalize timegm dt.toTm = time at past future ⊢
  clear wrapped
  omega

theorem epoch_of_minute {epoch minute : UInt32} (number : (minute.toNat : Int) = epoch.toNat - epoch.toNat % 60) :
    minute = epoch - epoch % 60 := by
  have wrapped : (epoch % 60).toNat = epoch.toNat % 60 := UInt32.toNat_mod epoch 60
  have least : epoch % 60 ≤ epoch := by
    rw [UInt32.le_iff_toNat_le, wrapped]
    exact Nat.mod_le _ _
  apply UInt32.toNat_inj.mp
  rw [UInt32.toNat_sub_of_le _ _ least, wrapped]
  omega

theorem alarmOf_shown {dt : DateTime} (there : dt.Exists) (past : 0 ≤ timegm dt.toTm)
    (future : timegm dt.toTm < 2 ^ 32) :
    getDateTimeFromEpoch (alarmOf dt).epoch.toNat =
      { dt with dWeek := ((alarmOf dt).epoch.toNat / 86400 + 4) % 7 } := by
  have epoch := alarmOf_epoch past future
  have small := (alarmOf dt).epoch.toNat_lt
  have same := eq_of_timegm_eq (getDateTimeFromEpoch_exists small) there
    ((timegm_getDateTimeFromEpoch small).trans epoch)
  rw [(getDateTimeFromEpoch_clock _).2.2.2] at same
  exact same

theorem alarmOf_minute (epoch : UInt32) :
    alarmOf { getDateTimeFromEpoch epoch.toNat with sec := 0, dWeek := 0 } = ⟨epoch - epoch % 60, .watch, false⟩ := by
  have small := epoch.toNat_lt
  have there := getDateTimeFromEpoch_exists small
  have time := timegm_getDateTimeFromEpoch small
  obtain ⟨_, _, seconds, _⟩ := getDateTimeFromEpoch_clock epoch.toNat
  have january : (1 : Int) ≤ (getDateTimeFromEpoch epoch.toNat).month := there.date.month.1
  have december : ((getDateTimeFromEpoch epoch.toNat).month : Int) ≤ 12 := there.date.month.2
  have low : 1 ≤ (getDateTimeFromEpoch epoch.toNat).month := by omega
  have high : (getDateTimeFromEpoch epoch.toNat).month ≤ 12 := by omega
  have minute := @timegm_eq { getDateTimeFromEpoch epoch.toNat with sec := 0, dWeek := 0 } low high
  rw [timegm_eq low high] at time
  have days : DateTime.date { getDateTimeFromEpoch epoch.toNat with sec := 0, dWeek := 0 } =
      (getDateTimeFromEpoch epoch.toNat).date := rfl
  rw [days] at minute
  have kept : timegm (DateTime.toTm { getDateTimeFromEpoch epoch.toNat with sec := 0, dWeek := 0 }) =
      epoch.toNat - epoch.toNat % 60 := by
    rw [minute]
    generalize (getDateTimeFromEpoch epoch.toNat).date.toDays = days at time ⊢
    dsimp only
    generalize getDateTimeFromEpoch epoch.toNat = dt at time seconds ⊢
    omega
  clear time minute days there
  have past : (0 : Int) ≤ epoch.toNat - epoch.toNat % 60 := by omega
  have future : (epoch.toNat : Int) - epoch.toNat % 60 < 2 ^ 32 := by omega
  rw [← kept] at past future
  have number := (alarmOf_epoch past future).trans kept
  rw [← epoch_of_minute number]
  rfl

theorem drawn_as_given (isClosed : creator.page = none) (epoch : UInt32) (accepted : Bool) :
    ∃ after, run step creator [.draw epoch, .create accepted] = some after ∧
      after.requests = creator.requests ++ [(⟨epoch - epoch % 60, .watch, false⟩, accepted)] := by
  have small := epoch.toNat_lt
  have there := getDateTimeFromEpoch_exists small
  have near : (getDateTimeFromEpoch epoch.toNat).year < 10000 := by
    have date := congrArg Gregorian.Date.year (getDateTimeFromEpoch_date small)
    have year : (getDateTimeFromEpoch epoch.toNat).date.year = (getDateTimeFromEpoch epoch.toNat).year := rfl
    obtain ⟨_, latest⟩ := ofDays_year (epoch.toNat / 86400 : Nat) (Int.natCast_nonneg _) (by omega)
    omega
  have shown := CreatePage.opened_shown there near
  have shownThere : (CreatePage.opened (getDateTimeFromEpoch epoch.toNat)).shown.Exists := by
    rw [shown]
    exact ⟨there.date, there.hr, there.min, Nat.zero_lt_succ 59⟩
  have free : ¬creator.page.isSome = true := by simp [isClosed]
  have drawn : step creator (.draw epoch) =
      some { creator with page := some (CreatePage.opened (getDateTimeFromEpoch epoch.toNat)) } := if_neg free
  have date := (CreatePage.opened_wf (getDateTimeFromEpoch epoch.toNat)).alarmDate
  generalize CreatePage.opened (getDateTimeFromEpoch epoch.toNat) = page at shown shownThere drawn date
  have pressed := @create_page { creator with page := some page } page rfl date accepted
  have set := pressed.1 shownThere
  rw [shown, alarmOf_minute] at set
  have ran : run step creator [.draw epoch, .create accepted] =
      step { creator with page := some page } (.create accepted) := by
    simp [run, drawn]
  exact ⟨_, ran.trans set, rfl⟩

/-- Over any run, only alarms for dates and times that exist, at the start of a minute, are set. The button sets
the alarm that the labels show, which rings when the watch shows the same, or it shows the error message; and
an alarm that is drawn and set unchanged moves to the start of its minute. -/
theorem alarm_set_as_shown {actions : List CreatorAction} (allowed : Guarded step Allowed closed actions) :
    ∃ creator, run step closed actions = some creator ∧
      (∀ request ∈ creator.requests, ∃ dt : DateTime, dt.Exists ∧ dt.sec = 0 ∧ request.1 = alarmOf dt) ∧
      (∀ page, creator.page = some page → ∀ accepted,
        (page.shown.Exists → step creator (.create accepted) = some
          { page := if accepted then none else some { page with errHidden := false }
            requests := creator.requests ++ [(alarmOf page.shown, accepted)] }) ∧
        (¬page.shown.Exists → step creator (.create accepted) =
          some { creator with page := some { page with errHidden := false } }) ∧
        (page.shown.Exists → 0 ≤ timegm page.shown.toTm → timegm page.shown.toTm < 2 ^ 32 →
          getDateTimeFromEpoch (alarmOf page.shown).epoch.toNat =
            { page.shown with dWeek := ((alarmOf page.shown).epoch.toNat / 86400 + 4) % 7 })) ∧
      (creator.page = none → ∀ epoch accepted, ∃ after,
        run step creator [.draw epoch, .create accepted] = some after ∧
          after.requests = creator.requests ++ [(⟨epoch - epoch % 60, .watch, false⟩, accepted)]) := by
  obtain ⟨creator, ran, sound⟩ :=
    Refinement.run_guarded (fun _ _ sound allowed => Sound.step sound allowed) closed_sound allowed
  refine ⟨creator, ran, sound.real, fun page isOpen accepted => ?_, drawn_as_given⟩
  obtain ⟨sets, refuses⟩ := create_page isOpen (sound.wf page isOpen).alarmDate accepted
  exact ⟨sets, refuses, alarmOf_shown⟩

theorem alarm_set_as_shown_february : ∃ creator page,
    run step closed [.draw 1709210096, .dateKey 0 .right, .dateKey 1 .right] = some creator ∧
      creator.page = some page ∧ page.shown.date = ⟨2024, 2, 30⟩ ∧
      step creator (.create true) = some { creator with page := some { page with errHidden := false } } := by
  have drawn : run step closed [.draw 1709210096, .dateKey 0 .right, .dateKey 1 .right] =
      some ⟨some ⟨"1234".toList, "30022024".toList, true⟩, []⟩ := rfl
  obtain ⟨creator, ran, _, page, _⟩ := @alarm_set_as_shown
    [.draw 1709210096, .dateKey 0 .right, .dateKey 1 .right] (of_decide_eq_true (by decide +kernel))
  rw [drawn] at ran
  cases ran
  refine ⟨_, _, drawn, rfl, rfl, (page _ rfl true).2.1 fun there => ?_⟩
  exact absurd there.date.day.2 (by decide)

end AlarmCreator

end WatchFirmware.AlarmApp
