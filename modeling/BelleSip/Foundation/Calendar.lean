import Mathlib.Tactic.Common

/-
This file develops the calendar of the C library: the broken-down time of a number of seconds since 1970 in UTC, and the
number of seconds of a broken-down time.
-/

namespace Foundation

/-- The fields of `struct tm`; the year counts from 1900, and the month from 0. -/
structure Tm where
  sec : Int := 0
  min : Int := 0
  hour : Int := 0
  mday : Int := 0
  mon : Int := 0
  year : Int := 0
  wday : Int := 0
  isdst : Int := 0
deriving DecidableEq, Repr

namespace Calendar

/-- The days of the months from March on that come before a month. -/
def marchDays (month : Int) : Int := (153 * month + 2) / 5

/-- The days of the years of a cycle of 400 years that come before a year. The leap day is the last day of a year, which
begins in March. -/
def yearDays (year : Int) : Int := 365 * year + year / 4 - year / 100

/-- The days from 1970-01-01 to a day of a month; the month counts from 0, and the day from 1. -/
def epochDay (year mon mday : Int) : Int :=
  let marchYear := if mon < 2 then year - 1 else year
  let marchMonth := if mon < 2 then mon + 10 else mon - 2
  marchYear / 400 * 146097 + yearDays (marchYear % 400) + marchDays marchMonth + mday - 719469

/-- The parts of a day of a cycle of 400 years: the year, and the day of the year. -/
def yearOfCycle (day : Int) : Int × Int :=
  let century := min (day / 36524) 3
  let rest := day - century * 36524
  let leaps := rest / 1461
  let rest := rest - leaps * 1461
  let year := min (rest / 365) 3
  (100 * century + 4 * leaps + year, rest - year * 365)

/-- The year, the month and the day of the month of a day since 1970-01-01. -/
def civil (day : Int) : Int × Int × Int :=
  let cycle := (day + 719468) / 146097
  let parts := yearOfCycle ((day + 719468) % 146097)
  let month := (5 * parts.2 + 2) / 153
  let mon := if month < 10 then month + 2 else month - 10
  (cycle * 400 + parts.1 + (if mon < 2 then 1 else 0), mon, parts.2 - marchDays month + 1)

/-- This is `timegm`. -/
def timegm (time : Tm) : Int :=
  86400 * epochDay (time.year + 1900) time.mon time.mday + 3600 * time.hour + 60 * time.min + time.sec

/-- This is `gmtime_r`. -/
def gmtime (seconds : Int) : Tm :=
  let day := seconds / 86400
  let rest := seconds % 86400
  let date := civil day
  { sec := rest % 60, min := rest / 60 % 60, hour := rest / 3600, mday := date.2.2, mon := date.2.1,
    year := date.1 - 1900, wday := (day + 4) % 7 }

variable {day : Int}

/-- A day of the cycle is the day of its year. -/
theorem yearOfCycle_facts (natural : 0 ≤ day) (inside : day < 146097) :
    0 ≤ (yearOfCycle day).1 ∧ (yearOfCycle day).1 < 400 ∧ 0 ≤ (yearOfCycle day).2 ∧ (yearOfCycle day).2 ≤ 365 ∧
      yearDays (yearOfCycle day).1 + (yearOfCycle day).2 = day := by
  simp only [yearOfCycle]
  generalize isCentury : min (day / 36524) 3 = century
  generalize isRest : day - century * 36524 = rest
  have within : 0 ≤ century ∧ century ≤ 3 ∧ 0 ≤ rest ∧ rest ≤ 36524 := by omega
  generalize isLeaps : rest / 1461 = leaps
  generalize isLast : rest - leaps * 1461 = last
  have cycles : 0 ≤ leaps ∧ leaps ≤ 24 ∧ 0 ≤ last ∧ last ≤ 1460 := by omega
  generalize isYear : min (last / 365) 3 = year
  have years : 0 ≤ year ∧ year ≤ 3 ∧ 0 ≤ last - year * 365 ∧ last - year * 365 ≤ 365 := by omega
  have quarters : (100 * century + 4 * leaps + year) / 4 = 25 * century + leaps := by omega
  have centuries : (100 * century + 4 * leaps + year) / 100 = century := by omega
  rw [yearDays, quarters, centuries]
  omega

theorem civil_month (day : Int) : 0 ≤ (civil day).2.1 ∧ (civil day).2.1 < 12 := by
  have facts := @yearOfCycle_facts ((day + 719468) % 146097) (by omega) (by omega)
  simp only [civil]
  split <;> omega

theorem civil_mday (day : Int) : 1 ≤ (civil day).2.2 ∧ (civil day).2.2 ≤ 31 := by
  have facts := @yearOfCycle_facts ((day + 719468) % 146097) (by omega) (by omega)
  simp only [civil, marchDays]
  omega

/-- The calendar date of a day is the date of this day. -/
theorem epochDay_civil (day : Int) : epochDay (civil day).1 (civil day).2.1 (civil day).2.2 = day := by
  obtain ⟨first, last, natural, bounded, whole⟩ :=
    @yearOfCycle_facts ((day + 719468) % 146097) (by omega) (by omega)
  generalize parts : yearOfCycle ((day + 719468) % 146097) = pair at *
  simp only [civil, parts, epochDay]
  by_cases spring : (5 * pair.2 + 2) / 153 < 10
  · have late : ¬(5 * pair.2 + 2) / 153 + 2 < 2 := by omega
    have year : ((day + 719468) / 146097 * 400 + pair.1 + 0) / 400 = (day + 719468) / 146097 := by omega
    have place : ((day + 719468) / 146097 * 400 + pair.1 + 0) % 400 = pair.1 := by omega
    simp only [spring, late, if_true, if_false, year, place, Int.add_sub_cancel]
    omega
  · have early : (5 * pair.2 + 2) / 153 - 10 < 2 := by omega
    have year : ((day + 719468) / 146097 * 400 + pair.1 + 1 - 1) / 400 = (day + 719468) / 146097 := by omega
    have place : ((day + 719468) / 146097 * 400 + pair.1 + 1 - 1) % 400 = pair.1 := by omega
    simp only [spring, early, if_true, if_false, year, place, Int.sub_add_cancel]
    omega

/-- The seconds of a broken-down time in UTC are the seconds that it comes from. -/
theorem timegm_gmtime (seconds : Int) : timegm (gmtime seconds) = seconds := by
  have date := epochDay_civil (seconds / 86400)
  simp only [timegm, gmtime, Int.sub_add_cancel, date]
  omega

theorem gmtime_ranges (seconds : Int) :
    0 ≤ (gmtime seconds).wday ∧ (gmtime seconds).wday < 7 ∧ 0 ≤ (gmtime seconds).mon ∧ (gmtime seconds).mon < 12 ∧
      1 ≤ (gmtime seconds).mday ∧ (gmtime seconds).mday ≤ 31 ∧ 0 ≤ (gmtime seconds).hour ∧ (gmtime seconds).hour < 24 ∧
      0 ≤ (gmtime seconds).min ∧ (gmtime seconds).min < 60 ∧ 0 ≤ (gmtime seconds).sec ∧ (gmtime seconds).sec < 60 := by
  have month := civil_month (seconds / 86400)
  have mday := civil_mday (seconds / 86400)
  simp only [gmtime]
  omega

end Calendar

end Foundation
