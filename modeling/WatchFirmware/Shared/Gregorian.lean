import Mathlib

set_option autoImplicit false

namespace Gregorian

structure Date where
  year : Int
  month : Int
  day : Int
  deriving DecidableEq, Repr

def IsLeap (year : Int) : Prop := year % 4 = 0 ∧ (year % 100 = 0 → year % 400 = 0)

instance (year : Int) : Decidable (IsLeap year) := inferInstanceAs (Decidable (_ ∧ (_ → _)))

def daysInMonth (year month : Int) : Int :=
  if month = 2 then if IsLeap year then 29 else 28
  else if month = 4 ∨ month = 6 ∨ month = 9 ∨ month = 11 then 30
  else 31

structure Date.Valid (date : Date) : Prop where
  month : 1 ≤ date.month ∧ date.month ≤ 12
  day : 1 ≤ date.day ∧ date.day ≤ daysInMonth date.year date.month

instance (date : Date) : Decidable date.Valid :=
  decidable_of_iff
    ((1 ≤ date.month ∧ date.month ≤ 12) ∧ 1 ≤ date.day ∧ date.day ≤ daysInMonth date.year date.month)
    ⟨fun valid => ⟨valid.1, valid.2⟩, fun valid => ⟨valid.month, valid.day⟩⟩

def Date.next (date : Date) : Date :=
  if date.day < daysInMonth date.year date.month then { date with day := date.day + 1 }
  else if date.month < 12 then ⟨date.year, date.month + 1, 1⟩
  else ⟨date.year + 1, 1, 1⟩

/-- Where a day stands in its era of 400 years, in years that begin in March so that the leap day is the last. -/
structure MarchDay where
  century : Int
  olympiad : Int
  year : Int
  day : Int

namespace MarchDay

structure Valid (march : MarchDay) : Prop where
  century : 0 ≤ march.century ∧ march.century ≤ 3
  olympiad : 0 ≤ march.olympiad ∧ march.olympiad ≤ 24
  year : 0 ≤ march.year ∧ march.year ≤ 3
  first : 0 ≤ march.day
  last : march.day ≤ 364 ∨ march.day = 365 ∧ march.year = 3 ∧ (march.olympiad < 24 ∨ march.century = 3)

def yearOfEra (march : MarchDay) : Int := 100 * march.century + 4 * march.olympiad + march.year

def dayOfEra (march : MarchDay) : Int :=
  36524 * march.century + 1461 * march.olympiad + 365 * march.year + march.day

variable {march : MarchDay}

theorem exists_dayOfEra {dayOfEra : Int} (low : 0 ≤ dayOfEra) (high : dayOfEra < 146097) :
    ∃ march : MarchDay, march.Valid ∧ march.dayOfEra = dayOfEra := by
  by_cases last : dayOfEra = 146096
  next => exact ⟨⟨3, 24, 3, 365⟩, by constructor <;> decide, last.symm⟩
  next =>
    have century : 0 ≤ dayOfEra / 36524 ∧ dayOfEra / 36524 ≤ 3 := by omega
    by_cases leap : dayOfEra % 36524 % 1461 = 1460
    next =>
      have olympiad : 0 ≤ dayOfEra % 36524 / 1461 ∧ dayOfEra % 36524 / 1461 < 24 := by omega
      refine ⟨⟨dayOfEra / 36524, dayOfEra % 36524 / 1461, 3, 365⟩, ?_, ?_⟩
      · exact ⟨century, ⟨olympiad.1, olympiad.2.le⟩, by simp, by simp, .inr ⟨rfl, rfl, .inl olympiad.2⟩⟩
      · simp only [MarchDay.dayOfEra]
        omega
    next =>
      refine ⟨⟨dayOfEra / 36524, dayOfEra % 36524 / 1461, dayOfEra % 36524 % 1461 / 365,
        dayOfEra % 36524 % 1461 % 365⟩, ?_, ?_⟩
      · constructor <;> simp only <;> omega
      · simp only [MarchDay.dayOfEra]
        omega

theorem Valid.yearOfEra_lt (valid : march.Valid) : 0 ≤ march.yearOfEra ∧ march.yearOfEra < 400 := by
  have century := valid.century
  have olympiad := valid.olympiad
  have year := valid.year
  rw [yearOfEra]
  omega

theorem Valid.dayOfEra_lt (valid : march.Valid) : 0 ≤ march.dayOfEra ∧ march.dayOfEra < 146097 := by
  have century := valid.century
  have olympiad := valid.olympiad
  have year := valid.year
  have first := valid.first
  have last := valid.last
  rw [dayOfEra]
  omega

/-- Every fourth year is a day longer, but for the last of a century, but for the last of the era. -/
theorem Valid.dayOfEra_eq (valid : march.Valid) :
    march.dayOfEra = march.yearOfEra * 365 + march.yearOfEra / 4 - march.yearOfEra / 100 + march.day := by
  have century := valid.century
  have olympiad := valid.olympiad
  have year := valid.year
  have fours : march.yearOfEra / 4 = 25 * march.century + march.olympiad := by
    rw [yearOfEra]
    omega
  have hundreds : march.yearOfEra / 100 = march.century := by
    rw [yearOfEra]
    omega
  rw [fours, hundreds, dayOfEra, yearOfEra]
  omega

theorem Valid.yearOfEra_eq (valid : march.Valid) :
    (march.dayOfEra - march.dayOfEra / 1460 + march.dayOfEra / 36524 - march.dayOfEra / 146096) / 365 =
      march.yearOfEra := by
  have century := valid.century
  have olympiad := valid.olympiad
  have year := valid.year
  have first := valid.first
  have last := valid.last
  have defined : march.dayOfEra =
      36524 * march.century + 1461 * march.olympiad + 365 * march.year + march.day := rfl
  have centuries : march.dayOfEra / 36524 - march.dayOfEra / 146096 = march.century := by
    by_cases final : march.dayOfEra = 146096
    next =>
      rw [final]
      omega
    next =>
      have none : march.dayOfEra / 146096 = 0 := by omega
      have whole : march.dayOfEra / 36524 = march.century := by omega
      omega
  -- the leap days so far, or one more near the end of an olympiad
  have fours : march.dayOfEra / 1460 = 25 * march.century + march.olympiad ∧ march.day ≤ 364 ∨
      march.dayOfEra / 1460 = 25 * march.century + march.olympiad + 1 ∧ 1 ≤ march.day := by
    by_cases early : 24 * march.century + march.olympiad + 365 * march.year + march.day < 1460
    next =>
      left
      omega
    next =>
      right
      omega
  have sum : march.dayOfEra - march.dayOfEra / 1460 + march.dayOfEra / 36524 - march.dayOfEra / 146096 =
      march.dayOfEra - march.dayOfEra / 1460 + march.century := by omega
  rw [sum, yearOfEra]
  obtain ⟨even, _⟩ | ⟨above, _⟩ := fours
  next =>
    rw [even]
    omega
  next =>
    rw [above]
    omega

end MarchDay

def monthStart (march : Int) : Int := (153 * march + 2) / 5

def monthOf (march : Int) : Int := if march < 10 then march + 3 else march - 9

def marchOf (month : Int) : Int := if 2 < month then month - 3 else month + 9

def Date.toDays (date : Date) : Int :=
  let marchYear := if date.month ≤ 2 then date.year - 1 else date.year
  let era := marchYear / 400
  let yearOfEra := marchYear - era * 400
  let dayOfYear := monthStart (marchOf date.month) + date.day - 1
  era * 146097 + (yearOfEra * 365 + yearOfEra / 4 - yearOfEra / 100 + dayOfYear) - 719468

def Date.ofDays (days : Int) : Date :=
  let era := (days + 719468) / 146097
  let dayOfEra := days + 719468 - era * 146097
  let yearOfEra := (dayOfEra - dayOfEra / 1460 + dayOfEra / 36524 - dayOfEra / 146096) / 365
  let dayOfYear := dayOfEra - (365 * yearOfEra + yearOfEra / 4 - yearOfEra / 100)
  let march := (5 * dayOfYear + 2) / 153
  let month := monthOf march
  ⟨yearOfEra + era * 400 + (if month ≤ 2 then 1 else 0), month, dayOfYear - monthStart march + 1⟩

example : (Date.ofDays 19782, Date.toDays ⟨2024, 2, 29⟩) = (⟨2024, 2, 29⟩, 19782) := by decide

def MarchDay.date (march : MarchDay) (era : Int) : Date :=
  let month := monthOf ((5 * march.day + 2) / 153)
  ⟨march.yearOfEra + era * 400 + (if month ≤ 2 then 1 else 0), month,
    march.day - monthStart ((5 * march.day + 2) / 153) + 1⟩

namespace MarchDay

variable {march : MarchDay}

theorem Valid.ofDays (valid : march.Valid) (era : Int) :
    Date.ofDays (era * 146097 + march.dayOfEra - 719468) = march.date era := by
  have inEra := valid.dayOfEra_lt
  have eraOf : (era * 146097 + march.dayOfEra - 719468 + 719468) / 146097 = era := by omega
  have rest : era * 146097 + march.dayOfEra - 719468 + 719468 - era * 146097 = march.dayOfEra := by omega
  have dayOfYear : march.dayOfEra - (365 * march.yearOfEra + march.yearOfEra / 4 - march.yearOfEra / 100) = march.day := by
    rw [valid.dayOfEra_eq]
    omega
  simp only [Date.ofDays, eraOf, rest, valid.yearOfEra_eq, dayOfYear]
  rfl

end MarchDay

theorem exists_march (days : Int) :
    ∃ (march : MarchDay) (era : Int), march.Valid ∧ days = era * 146097 + march.dayOfEra - 719468 := by
  have low : 0 ≤ (days + 719468) % 146097 := by omega
  obtain ⟨march, valid, same⟩ := MarchDay.exists_dayOfEra low (by omega)
  exact ⟨march, (days + 719468) / 146097, valid, by omega⟩

theorem month_bounds {day : Int} (first : 0 ≤ day) (last : day ≤ 365) :
    0 ≤ (5 * day + 2) / 153 ∧ (5 * day + 2) / 153 ≤ 11 ∧ monthStart ((5 * day + 2) / 153) ≤ day ∧
      ((5 * day + 2) / 153 < 11 → day < monthStart ((5 * day + 2) / 153 + 1)) := by
  unfold monthStart
  omega

theorem monthOf_bounds {march : Int} (low : 0 ≤ march) (high : march ≤ 11) :
    1 ≤ monthOf march ∧ monthOf march ≤ 12 ∧ marchOf (monthOf march) = march ∧ (monthOf march ≤ 2 ↔ 10 ≤ march) := by
  unfold marchOf monthOf
  omega

theorem monthStart_succ (year : Int) {march : Int} (low : 0 ≤ march) (high : march < 11) :
    monthStart (march + 1) = monthStart march + daysInMonth year (monthOf march) := by
  interval_cases march <;> rfl

theorem MarchDay.Valid.isLeap {march : MarchDay} (valid : march.Valid) (era : Int) (last : march.day = 365) :
    IsLeap (march.yearOfEra + era * 400 + 1) := by
  have century := valid.century
  have olympiad := valid.olympiad
  have bound := valid.last
  rw [last] at bound
  unfold IsLeap yearOfEra
  omega

theorem MarchDay.Valid.date_valid {march : MarchDay} (valid : march.Valid) (era : Int) : (march.date era).Valid := by
  have first := valid.first
  have last := valid.last
  obtain ⟨low, high, begun, ended⟩ := month_bounds first (by omega)
  obtain ⟨january, december, _, _⟩ := monthOf_bounds low high
  constructor
  case month => exact ⟨january, december⟩
  case day =>
    simp only [MarchDay.date]
    by_cases february : (5 * march.day + 2) / 153 < 11
    next =>
      have length := monthStart_succ
        (march.yearOfEra + era * 400 + if monthOf ((5 * march.day + 2) / 153) ≤ 2 then 1 else 0) low february
      have ended := ended february
      omega
    next =>
      have final : (5 * march.day + 2) / 153 = 11 := by omega
      rw [final] at begun ⊢
      have month : monthOf 11 = 2 := rfl
      have start : monthStart 11 = 337 := rfl
      rw [start] at begun ⊢
      simp only [month, daysInMonth, if_true, le_refl]
      split
      next => omega
      next notLeap =>
        have short : march.day ≠ 365 := fun leapDay => notLeap (valid.isLeap era leapDay)
        omega

theorem toDays_date {march : MarchDay} (valid : march.Valid) (era : Int) :
    (march.date era).toDays = era * 146097 + march.dayOfEra - 719468 := by
  have first := valid.first
  have last := valid.last
  obtain ⟨low, high, _, _⟩ := month_bounds first (by omega)
  obtain ⟨_, _, back, winter⟩ := monthOf_bounds low high
  have inEra := valid.yearOfEra_lt
  have year : (if (march.date era).month ≤ 2 then (march.date era).year - 1 else (march.date era).year) =
      march.yearOfEra + era * 400 := by
    simp only [MarchDay.date]
    split
    next => omega
    next => omega
  have eraOf : (march.yearOfEra + era * 400) / 400 = era := by omega
  have rest : march.yearOfEra + era * 400 - era * 400 = march.yearOfEra := by omega
  have dayOfYear : monthStart (marchOf (march.date era).month) + (march.date era).day - 1 = march.day := by
    simp only [MarchDay.date, back]
    omega
  simp only [Date.toDays, year, eraOf, rest, dayOfYear, valid.dayOfEra_eq]

theorem toDays_ofDays (days : Int) : (Date.ofDays days).toDays = days := by
  obtain ⟨march, era, valid, same⟩ := exists_march days
  rw [same, valid.ofDays, toDays_date valid]

theorem ofDays_valid (days : Int) : (Date.ofDays days).Valid := by
  obtain ⟨march, era, valid, same⟩ := exists_march days
  rw [same, valid.ofDays]
  exact valid.date_valid era

theorem marchOf_bounds {month : Int} (low : 1 ≤ month) (high : month ≤ 12) :
    0 ≤ marchOf month ∧ marchOf month ≤ 11 ∧ monthOf (marchOf month) = month ∧ (month ≤ 2 ↔ 10 ≤ marchOf month) := by
  unfold monthOf marchOf
  omega

theorem february_length (year : Int) : daysInMonth year 2 ≤ 29 ∧ (daysInMonth year 2 = 29 → IsLeap year) := by
  simp only [daysInMonth, if_true]
  split
  next leap => exact ⟨le_refl _, fun _ => leap⟩
  next => exact ⟨by decide, fun long => by cases long⟩

theorem month_of_day (year : Int) {march day : Int} (low : 0 ≤ march) (high : march ≤ 11) (first : 1 ≤ day)
    (last : day ≤ daysInMonth year (monthOf march)) : (5 * (monthStart march + day - 1) + 2) / 153 = march := by
  have short := february_length year
  by_cases february : march < 11
  next =>
    have length := monthStart_succ year low february
    unfold monthStart at length ⊢
    omega
  next =>
    obtain rfl : march = 11 := by omega
    have month : monthOf 11 = 2 := rfl
    rw [month] at last
    unfold monthStart
    omega

theorem exists_date {date : Date} (valid : date.Valid) :
    ∃ (march : MarchDay) (era : Int), march.Valid ∧ march.date era = date := by
  obtain ⟨january, december⟩ := valid.month
  obtain ⟨first, last⟩ := valid.day
  obtain ⟨low, high, back, winter⟩ := marchOf_bounds january december
  have within := month_of_day date.year low high first (by rw [back]; exact last)
  generalize marchYear_eq : (if date.month ≤ 2 then date.year - 1 else date.year) = marchYear
  generalize day_eq : monthStart (marchOf date.month) + date.day - 1 = day at within
  have bounds : 0 ≤ day ∧ (day ≤ 364 ∨ day = 365 ∧ date.month = 2 ∧ IsLeap date.year) := by
    unfold monthStart at day_eq
    by_cases february : date.month = 2
    next =>
      rw [february] at last day_eq
      obtain ⟨short, leap⟩ := february_length date.year
      have start : marchOf 2 = 11 := rfl
      rw [start] at day_eq
      by_cases leapDay : day = 365
      next => exact ⟨by omega, .inr ⟨leapDay, february, leap (by omega)⟩⟩
      next => exact ⟨by omega, .inl (by omega)⟩
    next =>
      have early : marchOf date.month ≤ 10 := by
        unfold marchOf
        omega
      exact ⟨by omega, .inl (by omega)⟩
  have yearOfEra : 100 * (marchYear % 400 / 100) + 4 * (marchYear % 400 % 100 / 4) + marchYear % 4 = marchYear % 400 := by
    omega
  refine ⟨⟨marchYear % 400 / 100, marchYear % 400 % 100 / 4, marchYear % 4, day⟩, marchYear / 400, ?_, ?_⟩
  · constructor
    case century => simp only; omega
    case olympiad => simp only; omega
    case year => simp only; omega
    case first => exact bounds.1
    case last =>
      obtain early | ⟨leapDay, february, leap⟩ := bounds.2
      next => exact .inl early
      next =>
        refine .inr ⟨leapDay, ?_, ?_⟩
        · unfold IsLeap at leap
          rw [february] at marchYear_eq
          simp only
          omega
        · unfold IsLeap at leap
          rw [february] at marchYear_eq
          simp only
          omega
  · simp only [MarchDay.date, MarchDay.yearOfEra, within, back, yearOfEra]
    have year : marchYear % 400 + marchYear / 400 * 400 + (if date.month ≤ 2 then 1 else 0) = date.year := by
      rw [← marchYear_eq]
      split
      next => omega
      next => omega
    have day : day - monthStart (marchOf date.month) + 1 = date.day := by omega
    rw [year, day]

theorem ofDays_toDays {date : Date} (valid : date.Valid) : Date.ofDays date.toDays = date := by
  obtain ⟨march, era, inEra, same⟩ := exists_date valid
  rw [← same, toDays_date inEra, inEra.ofDays]

theorem daysInMonth_pos (year month : Int) : 28 ≤ daysInMonth year month := by
  unfold daysInMonth
  repeat' split
  all_goals decide

theorem next_valid {date : Date} (valid : date.Valid) : date.next.Valid := by
  obtain ⟨january, december⟩ := valid.month
  obtain ⟨first, last⟩ := valid.day
  unfold Date.next
  split
  next inside => exact ⟨⟨january, december⟩, ⟨by simp only; omega, by simp only; omega⟩⟩
  next =>
    split
    next early =>
      have long := daysInMonth_pos date.year (date.month + 1)
      exact ⟨⟨by simp only; omega, by simp only; omega⟩, ⟨le_refl _, by simp only; omega⟩⟩
    next =>
      have long := daysInMonth_pos (date.year + 1) 1
      exact ⟨⟨le_refl _, by simp only; omega⟩, ⟨le_refl _, by simp only; omega⟩⟩

theorem yearStart_eq (year : Int) :
    year / 400 * 146097 + ((year - year / 400 * 400) * 365 + (year - year / 400 * 400) / 4 -
      (year - year / 400 * 400) / 100) = 365 * year + year / 4 - year / 100 + year / 400 := by
  omega

theorem toDays_eq (date : Date) :
    date.toDays = (fun year : Int => 365 * year + year / 4 - year / 100 + year / 400)
      (if date.month ≤ 2 then date.year - 1 else date.year) + monthStart (marchOf date.month) + date.day - 719469 := by
  have years := yearStart_eq (if date.month ≤ 2 then date.year - 1 else date.year)
  simp only [Date.toDays]
  omega

theorem february_ends (year : Int) :
    365 * year + year / 4 - year / 100 + year / 400 =
      365 * (year - 1) + (year - 1) / 4 - (year - 1) / 100 + (year - 1) / 400 + 337 + daysInMonth year 2 := by
  simp only [daysInMonth, if_true]
  split
  next leap =>
    unfold IsLeap at leap
    omega
  next common =>
    unfold IsLeap at common
    omega

theorem toDays_next {date : Date} (valid : date.Valid) : date.next.toDays = date.toDays + 1 := by
  obtain ⟨january, december⟩ := valid.month
  obtain ⟨first, last⟩ := valid.day
  unfold Date.next
  split
  next inside =>
    simp only [toDays_eq]
    omega
  next outside =>
    have ended : date.day = daysInMonth date.year date.month := by omega
    obtain ⟨low, high, back, _⟩ := marchOf_bounds january december
    split
    next early =>
      simp only [toDays_eq, ended]
      by_cases february : date.month = 2
      next =>
        have years := february_ends date.year
        have start : marchOf (2 + 1) = 0 := rfl
        have final : marchOf 2 = 11 := rfl
        rw [february, start, final]
        simp only [monthStart]
        omega
      next =>
        have follows : marchOf (date.month + 1) = marchOf date.month + 1 := by
          unfold marchOf
          split
          next => split <;> omega
          next => split <;> omega
        have length := monthStart_succ date.year low (by unfold marchOf; omega)
        rw [back] at length
        rw [follows, length]
        split
        next => split <;> omega
        next => split <;> omega
    next late =>
      have isDecember : date.month = 12 := by omega
      have length : daysInMonth date.year 12 = 31 := rfl
      have start : marchOf 1 = 10 := rfl
      have final : marchOf 12 = 9 := rfl
      simp only [toDays_eq, ended, isDecember, length, start, final, monthStart]
      omega

theorem ofDays_succ (days : Int) : Date.ofDays (days + 1) = (Date.ofDays days).next := by
  have valid := ofDays_valid days
  have counted := toDays_next valid
  rw [toDays_ofDays] at counted
  rw [← counted, ofDays_toDays (next_valid valid)]

end Gregorian
