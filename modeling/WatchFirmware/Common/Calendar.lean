import WatchFirmware.Common.DateTime
import WatchFirmware.Shared.Gregorian

set_option autoImplicit false

namespace WatchFirmware.CommonApis

open Gregorian

def DateTime.date (dt : DateTime) : Date := ⟨dt.year, dt.month, dt.day⟩

structure DateTime.Exists (dt : DateTime) : Prop where
  date : dt.date.Valid
  hr : dt.hr < 24
  min : dt.min < 60
  sec : dt.sec < 60

theorem daysFromCivil_eq (year month day : Int) : daysFromCivil year month day = Date.toDays ⟨year, month, day⟩ := rfl

theorem gmtime_date (t : Int) :
    (⟨(gmtime t).year + 1900, (gmtime t).mon + 1, (gmtime t).mday⟩ : Date) = Date.ofDays (t / secondsPerDay) := by
  simp only [gmtime, Date.ofDays, monthOf, monthStart, daysPerEra]
  congr 1 <;> omega

theorem gmtime_clock (t : Int) :
    (gmtime t).sec = t % 86400 % 60 ∧ (gmtime t).min = t % 86400 / 60 % 60 ∧ (gmtime t).hour = t % 86400 / 3600 ∧
      (gmtime t).wday = (t / 86400 + 4) % 7 :=
  ⟨rfl, rfl, rfl, rfl⟩

theorem timegm_eq {dt : DateTime} (low : 1 ≤ dt.month) (high : dt.month ≤ 12) :
    timegm dt.toTm = dt.date.toDays * 86400 + dt.hr * 3600 + dt.min * 60 + dt.sec := by
  have year : (dt.year : Int) - 1900 + 1900 + ((dt.month : Int) - 1) / 12 = dt.year := by omega
  have month : ((dt.month : Int) - 1) % 12 + 1 = dt.month := by omega
  simp only [timegm, DateTime.toTm, year, month, daysFromCivil_eq]
  rfl

/-- Its time is the value that `timegm` answers with on an error. -/
def DateTime.LastOf1969 (dt : DateTime) : Prop :=
  dt.date = ⟨1969, 12, 31⟩ ∧ dt.hr = 23 ∧ dt.min = 59 ∧ dt.sec = 59

instance (dt : DateTime) : Decidable dt.LastOf1969 := inferInstanceAs (Decidable (_ ∧ _))

variable {dt : DateTime}

theorem DateTime.Exists.timegm_div (there : dt.Exists) :
    timegm dt.toTm / 86400 = dt.date.toDays ∧ timegm dt.toTm % 86400 = dt.hr * 3600 + dt.min * 60 + dt.sec := by
  have january : (1 : Int) ≤ dt.month := there.date.month.1
  have december : (dt.month : Int) ≤ 12 := there.date.month.2
  have hr := there.hr
  have min := there.min
  have sec := there.sec
  rw [timegm_eq (by omega) (by omega)]
  omega

theorem DateTime.Exists.gmtime (there : dt.Exists) :
    (⟨(gmtime (timegm dt.toTm)).year + 1900, (gmtime (timegm dt.toTm)).mon + 1,
        (gmtime (timegm dt.toTm)).mday⟩ : Date) = dt.date ∧
      (gmtime (timegm dt.toTm)).hour = dt.hr ∧ (gmtime (timegm dt.toTm)).min = dt.min ∧
        (gmtime (timegm dt.toTm)).sec = dt.sec := by
  obtain ⟨days, seconds⟩ := there.timegm_div
  have hr := there.hr
  have min := there.min
  have sec := there.sec
  obtain ⟨second, minute, hour, _⟩ := gmtime_clock (timegm dt.toTm)
  rw [second, minute, hour, seconds, gmtime_date, secondsPerDay, days, ofDays_toDays there.date]
  exact ⟨rfl, by omega, by omega, by omega⟩

theorem DateTime.Exists.lastOf1969 (there : dt.Exists) : timegm dt.toTm = -1 ↔ dt.LastOf1969 := by
  obtain ⟨days, seconds⟩ := there.timegm_div
  have hr := there.hr
  have min := there.min
  have sec := there.sec
  constructor
  next =>
    intro failed
    rw [failed] at days seconds
    refine ⟨?_, by omega, by omega, by omega⟩
    rw [← ofDays_toDays there.date, ← days]
    rfl
  next =>
    rintro ⟨date, hr, min, sec⟩
    rw [date] at days
    rw [hr, min, sec] at seconds
    have before : Date.toDays ⟨1969, 12, 31⟩ = -1 := rfl
    omega

/-- `validate_date_time` accepts the dates of the calendar with a time of the day, one second excepted. -/
theorem validateDateTime_iff (dt : DateTime) : validateDateTime dt = true ↔ dt.Exists ∧ ¬dt.LastOf1969 := by
  have fields : validateDateTime dt = true ↔ timegm dt.toTm ≠ -1 ∧
      (dt.sec : Int) = (gmtime (timegm dt.toTm)).sec ∧ (dt.min : Int) = (gmtime (timegm dt.toTm)).min ∧
      (dt.hr : Int) = (gmtime (timegm dt.toTm)).hour ∧
      dt.date = ⟨(gmtime (timegm dt.toTm)).year + 1900, (gmtime (timegm dt.toTm)).mon + 1,
        (gmtime (timegm dt.toTm)).mday⟩ := by
    simp only [validateDateTime, DateTime.date, DateTime.toTm, Bool.and_eq_true, bne_iff_ne, beq_iff_eq,
      Date.mk.injEq]
    omega
  rw [fields]
  constructor
  next =>
    rintro ⟨noError, sec, min, hr, date⟩
    obtain ⟨second, minute, hour, _⟩ := gmtime_clock (timegm dt.toTm)
    have there : dt.Exists := by
      constructor
      case date =>
        rw [date, gmtime_date]
        exact ofDays_valid _
      case hr => omega
      case min => omega
      case sec => omega
    exact ⟨there, mt there.lastOf1969.mpr noError⟩
  next =>
    rintro ⟨there, other⟩
    obtain ⟨date, hr, min, sec⟩ := there.gmtime
    exact ⟨mt there.lastOf1969.mp other, sec.symm, min.symm, hr.symm, date.symm⟩

theorem daysInMonth_le (year month : Int) : daysInMonth year month ≤ 31 := by
  unfold daysInMonth
  repeat' split
  all_goals decide

theorem ofDays_year (days : Int) (past : 0 ≤ days) (near : days < 49711) :
    1969 ≤ (Date.ofDays days).year ∧ (Date.ofDays days).year ≤ 2108 := by
  obtain ⟨january, december⟩ := (ofDays_valid days).month
  obtain ⟨first, last⟩ := (ofDays_valid days).day
  have long := daysInMonth_le (Date.ofDays days).year (Date.ofDays days).month
  obtain ⟨low, high, _⟩ := marchOf_bounds january december
  have counted := toDays_ofDays days
  rw [toDays_eq] at counted
  simp only [monthStart] at counted
  split at counted
  next => omega
  next => omega

theorem getDateTimeFromEpoch_date {epoch : Nat} (small : epoch < 2 ^ 32) :
    (getDateTimeFromEpoch epoch).date = Date.ofDays (epoch / 86400 : Nat) := by
  have days : (epoch : Int) / secondsPerDay = (epoch / 86400 : Nat) := by
    rw [secondsPerDay]
    omega
  have date := gmtime_date epoch
  rw [days] at date
  have year := congrArg Date.year date
  have month := congrArg Date.month date
  have day := congrArg Date.day date
  simp only at year month day
  obtain ⟨after, before⟩ := ofDays_year (epoch / 86400 : Nat) (Int.natCast_nonneg _) (by omega)
  obtain ⟨⟨january, december⟩, first, last⟩ := ofDays_valid (epoch / 86400 : Nat)
  have long := daysInMonth_le (Date.ofDays (epoch / 86400 : Nat)).year (Date.ofDays (epoch / 86400 : Nat)).month
  simp only [getDateTimeFromEpoch, DateTime.date, year, month, day]
  generalize Date.ofDays (epoch / 86400 : Nat) = date at after before january december first last long ⊢
  have whole : ((date.year % 65536).toNat : Int) = date.year ∧ ((date.month % 256).toNat : Int) = date.month ∧
      ((date.day % 256).toNat : Int) = date.day := by omega
  rw [whole.1, whole.2.1, whole.2.2]

theorem getDateTimeFromEpoch_clock (epoch : Nat) :
    (getDateTimeFromEpoch epoch).hr = epoch % 86400 / 3600 ∧
      (getDateTimeFromEpoch epoch).min = epoch % 86400 / 60 % 60 ∧
      (getDateTimeFromEpoch epoch).sec = epoch % 86400 % 60 ∧
      (getDateTimeFromEpoch epoch).dWeek = (epoch / 86400 + 4) % 7 := by
  obtain ⟨second, minute, hour, weekday⟩ := gmtime_clock epoch
  simp only [getDateTimeFromEpoch, hour, minute, second, weekday]
  omega

theorem getDateTimeFromEpoch_exists {epoch : Nat} (small : epoch < 2 ^ 32) : (getDateTimeFromEpoch epoch).Exists := by
  obtain ⟨hr, min, sec, _⟩ := getDateTimeFromEpoch_clock epoch
  constructor
  case date =>
    rw [getDateTimeFromEpoch_date small]
    exact ofDays_valid _
  case hr => omega
  case min => omega
  case sec => omega

theorem eq_of_timegm_eq {other : DateTime} (there : dt.Exists) (otherThere : other.Exists)
    (same : timegm dt.toTm = timegm other.toTm) : dt = { other with dWeek := dt.dWeek } := by
  obtain ⟨date, hr, min, sec⟩ := there.gmtime
  obtain ⟨otherDate, otherHr, otherMin, otherSec⟩ := otherThere.gmtime
  rw [same] at date hr min sec
  generalize gmtime (timegm other.toTm) = tm at date hr min sec otherDate otherHr otherMin otherSec
  have dates := date.symm.trans otherDate
  simp only [DateTime.date, Date.mk.injEq, Int.natCast_inj] at dates
  obtain ⟨year, month, day⟩ := dates
  have hours : dt.hr = other.hr := by omega
  have minutes : dt.min = other.min := by omega
  have seconds : dt.sec = other.sec := by omega
  rw [← year, ← month, ← day, ← hours, ← minutes, ← seconds]

theorem timegm_getDateTimeFromEpoch {epoch : Nat} (small : epoch < 2 ^ 32) :
    timegm (getDateTimeFromEpoch epoch).toTm = epoch := by
  obtain ⟨hr, min, sec, _⟩ := getDateTimeFromEpoch_clock epoch
  obtain ⟨days, seconds⟩ := (getDateTimeFromEpoch_exists small).timegm_div
  rw [getDateTimeFromEpoch_date small, toDays_ofDays] at days
  rw [hr, min, sec] at seconds
  generalize timegm (getDateTimeFromEpoch epoch).toTm = time at days seconds ⊢
  omega

/-- Every epoch is taken apart into a date that is accepted and that gives the epoch again, that gives the same
date as any other way to write it, and a day later gives the next date of the calendar. -/
theorem date_time_round_trip {epoch : Nat} (small : epoch < 2 ^ 32) :
    validateDateTime (getDateTimeFromEpoch epoch) = true ∧
      getEpochFromDateTime (getDateTimeFromEpoch epoch) = epoch ∧
      (∀ dt : DateTime, validateDateTime dt = true → 0 ≤ timegm dt.toTm → timegm dt.toTm < 2 ^ 32 →
        getEpochFromDateTime dt = epoch → getDateTimeFromEpoch epoch = { dt with dWeek := (epoch / 86400 + 4) % 7 }) ∧
      (epoch + 86400 < 2 ^ 32 →
        (getDateTimeFromEpoch (epoch + 86400)).date = (getDateTimeFromEpoch epoch).date.next) := by
  have there := getDateTimeFromEpoch_exists small
  have time := timegm_getDateTimeFromEpoch small
  refine ⟨?_, ?_, ?_, ?_⟩
  · refine (validateDateTime_iff _).mpr ⟨there, fun last => ?_⟩
    have failed := there.lastOf1969.mpr last
    rw [time] at failed
    cases failed
  · rw [getEpochFromDateTime, time]
    omega
  · intro dt valid past future same
    have sameTime : timegm (getDateTimeFromEpoch epoch).toTm = timegm dt.toTm := by
      rw [time, ← same, getEpochFromDateTime]
      generalize timegm dt.toTm = other at past future ⊢
      omega
    rw [← (getDateTimeFromEpoch_clock epoch).2.2.2]
    exact eq_of_timegm_eq there ((validateDateTime_iff dt).mp valid).1 sameTime
  · intro later
    rw [getDateTimeFromEpoch_date small, getDateTimeFromEpoch_date later, ← ofDays_succ]
    congr 1
    omega

theorem date_time_round_trip_leapDay :
    getEpochFromDateTime (getDateTimeFromEpoch 1709210096) = 1709210096 ∧
      (getDateTimeFromEpoch (1709210096 + 86400)).date = ⟨2024, 3, 1⟩ := by
  have small : 1709210096 < 2 ^ 32 := by decide
  obtain ⟨_, same, _, later⟩ := date_time_round_trip small
  have next := later (by decide)
  rw [next]
  exact ⟨same, by decide⟩

end WatchFirmware.CommonApis
