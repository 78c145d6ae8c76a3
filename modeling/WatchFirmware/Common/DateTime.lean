import Mathlib

set_option autoImplicit false

namespace WatchFirmware.CommonApis

structure DateTime where
  day : Nat
  month : Nat
  year : Nat
  hr : Nat
  min : Nat
  sec : Nat
  dWeek : Nat
  deriving DecidableEq, Repr

abbrev DateTime.zero : DateTime := ⟨0, 0, 0, 0, 0, 0, 0⟩

/-- `struct tm`: the month counts from 0 and the year from 1900. -/
structure Tm where
  sec : Int
  min : Int
  hour : Int
  mday : Int
  mon : Int
  year : Int
  wday : Int
  deriving DecidableEq, Repr

abbrev secondsPerDay : Int := 86400
abbrev daysPerEra : Int := 146097

def daysFromCivil (year month day : Int) : Int :=
  -- A year is taken from March, so that the leap day is its last one.
  let marchYear := if month ≤ 2 then year - 1 else year
  let era := marchYear / 400
  let yearOfEra := marchYear - era * 400
  let dayOfYear := (153 * (if 2 < month then month - 3 else month + 9) + 2) / 5 + day - 1
  era * daysPerEra + (yearOfEra * 365 + yearOfEra / 4 - yearOfEra / 100 + dayOfYear) - 719468

/-- Seconds since 1970; what is out of range in a field is carried over, as timegm does. -/
def timegm (tm : Tm) : Int :=
  daysFromCivil (tm.year + 1900 + tm.mon / 12) (tm.mon % 12 + 1) tm.mday * secondsPerDay +
    tm.hour * 3600 + tm.min * 60 + tm.sec

def gmtime (t : Int) : Tm :=
  let days := t / secondsPerDay
  let rest := t % secondsPerDay
  let shifted := days + 719468
  let era := shifted / daysPerEra
  let dayOfEra := shifted - era * daysPerEra
  let yearOfEra := (dayOfEra - dayOfEra / 1460 + dayOfEra / 36524 - dayOfEra / 146096) / 365
  let dayOfYear := dayOfEra - (365 * yearOfEra + yearOfEra / 4 - yearOfEra / 100)
  let march := (5 * dayOfYear + 2) / 153
  let month := if march < 10 then march + 3 else march - 9
  { sec := rest % 60
    min := rest / 60 % 60
    hour := rest / 3600
    mday := dayOfYear - (153 * march + 2) / 5 + 1
    mon := month - 1
    year := yearOfEra + era * 400 + (if month ≤ 2 then 1 else 0) - 1900
    wday := (days + 4) % 7 }

example : gmtime 1709210096 = ⟨56, 34, 12, 29, 1, 124, 4⟩ := by decide

def DateTime.toTm (dt : DateTime) : Tm :=
  { sec := dt.sec
    min := dt.min
    hour := dt.hr
    mday := dt.day
    mon := dt.month - 1
    year := dt.year - 1900
    wday := 0 }

-- The fields of date_time_t are bytes, but for the year of 16 bits.
def getDateTimeFromEpoch (epoch : Nat) : DateTime :=
  let tm := gmtime epoch
  { day := (tm.mday % 256).toNat
    month := ((tm.mon + 1) % 256).toNat
    year := ((tm.year + 1900) % 65536).toNat
    hr := (tm.hour % 256).toNat
    min := (tm.min % 256).toNat
    sec := (tm.sec % 256).toNat
    dWeek := (tm.wday % 256).toNat }

def getEpochFromDateTime (dt : DateTime) : Nat := (timegm dt.toTm % 4294967296).toNat

/-- A date is valid if timegm had nothing to carry over. -/
def validateDateTime (dt : DateTime) : Bool :=
  let temp := dt.toTm
  let t := timegm temp
  let check := gmtime t
  t != -1 && temp.sec == check.sec && temp.min == check.min && temp.hour == check.hour &&
    temp.mday == check.mday && temp.mon == check.mon && temp.year == check.year

end WatchFirmware.CommonApis
