import Mathlib.Order.Basic
import Mathlib.Tactic.Common

/-! Dates of the proleptic Gregorian calendar by year and day of the year, their weekdays, and
the week numbers of ISO 8601. A week belongs to the year that its Thursday is in. -/
namespace Calendar

def IsLeap (year : Int) : Prop := year % 4 = 0 ∧ (year % 100 ≠ 0 ∨ year % 400 = 0)

instance (year : Int) : Decidable (IsLeap year) :=
  inferInstanceAs (Decidable (year % 4 = 0 ∧ (year % 100 ≠ 0 ∨ year % 400 = 0)))

def daysInYear (year : Int) : Int := if IsLeap year then 366 else 365

/-- The days from 1 January of the year 1 to 1 January of a year. -/
def yearStart (year : Int) : Int := 365 * (year - 1) + (year - 1) / 4 - (year - 1) / 100 + (year - 1) / 400

theorem yearStart_succ (year : Int) : yearStart (year + 1) = yearStart year + daysInYear year := by
  unfold yearStart daysInYear
  split <;> rename_i leap <;> unfold IsLeap at leap <;> omega

theorem daysInYear_range (year : Int) : daysInYear year = 365 ∨ daysInYear year = 366 := by
  unfold daysInYear
  split <;> simp

theorem isLeap_iff (year : Int) : IsLeap year ↔ daysInYear year = 366 := by
  unfold daysInYear
  split <;> simp_all

/-- A leap year follows a common one. -/
theorem daysInYear_pred {year : Int} (leap : daysInYear year = 366) : daysInYear (year - 1) = 365 := by
  rw [← isLeap_iff] at leap
  apply if_neg
  unfold IsLeap at *
  omega

@[ext] structure Date where
  year : Int
  /-- The days since 1 January. -/
  yday : Int
  nonneg : 0 ≤ yday
  inside : yday < daysInYear year
  deriving DecidableEq, Repr

namespace Date

variable (date : Date)

/-- The days since 1 January of the year 1. -/
def number : Int := yearStart date.year + date.yday

instance : LT Date := ⟨fun first second =>
  first.year < second.year ∨ first.year = second.year ∧ first.yday < second.yday⟩

theorem lt_iff {first second : Date} : first < second ↔
    first.year < second.year ∨ first.year = second.year ∧ first.yday < second.yday := Iff.rfl

instance (first second : Date) : Decidable (first < second) := decidable_of_iff _ lt_iff.symm

/-- Counted from Monday. -/
def weekday : Int := date.number % 7

/-- The day of the date's year that the Thursday of its week is, if it is in that year. -/
def thursday : Int := date.yday - date.weekday + 3

def isoYear : Int :=
  if date.thursday < 0 then date.year - 1
  else if date.thursday < daysInYear date.year then date.year
  else date.year + 1

/-- The day of the ISO year that the Thursday of the week is. -/
def isoThursday : Int :=
  if date.thursday < 0 then date.thursday + daysInYear (date.year - 1)
  else if date.thursday < daysInYear date.year then date.thursday
  else date.thursday - daysInYear date.year

def isoWeek : Int := date.isoThursday / 7 + 1

/-- The weekday that the date's year begins on. -/
def firstWeekday : Int := yearStart date.year % 7

theorem weekday_eq : date.weekday = (date.firstWeekday + date.yday) % 7 := by
  unfold weekday number firstWeekday
  omega

theorem weekday_range : 0 ≤ date.weekday ∧ date.weekday < 7 := by
  unfold weekday
  omega

theorem firstWeekday_range : 0 ≤ date.firstWeekday ∧ date.firstWeekday < 7 := by
  unfold firstWeekday
  omega

/-- The Thursday of the week is in the year before, in the date's year, or in the year after. -/
theorem iso_cases :
    (date.thursday < 0 ∧ date.isoYear = date.year - 1 ∧
      date.isoThursday = date.thursday + daysInYear (date.year - 1)) ∨
    ((0 ≤ date.thursday ∧ date.thursday < daysInYear date.year) ∧ date.isoYear = date.year ∧
      date.isoThursday = date.thursday) ∨
    (daysInYear date.year ≤ date.thursday ∧ date.isoYear = date.year + 1 ∧
      date.isoThursday = date.thursday - daysInYear date.year) := by
  have positive := daysInYear_range date.year
  unfold isoYear isoThursday
  by_cases early : date.thursday < 0
  · exact .inl ⟨early,if_pos early,if_pos early⟩
  · rw [if_neg early,if_neg early]
    by_cases within : date.thursday < daysInYear date.year
    · exact .inr (.inl ⟨⟨by omega,within⟩,if_pos within,if_pos within⟩)
    · exact .inr (.inr ⟨by omega,if_neg within,if_neg within⟩)

theorem isoThursday_range : 0 ≤ date.isoThursday ∧ date.isoThursday < 366 := by
  have first := date.nonneg
  have last := date.inside
  have weekday := date.weekday_range
  have year := daysInYear_range date.year
  have before := daysInYear_range (date.year - 1)
  rcases date.iso_cases with ⟨early,_,place⟩ | ⟨within,_,place⟩ | ⟨late,_,place⟩ <;> rw [place] <;>
    unfold thursday at * <;> omega

theorem isoWeek_range : 1 ≤ date.isoWeek ∧ date.isoWeek ≤ 53 := by
  have thursday := date.isoThursday_range
  unfold isoWeek
  omega

/-! ### Weeks of one calendar year -/

/-- The weekdays numbered by their ISO weeks, whatever the year of the week. -/
def weekdayNumber : Int := date.isoWeek * 7 + date.weekday

/-- 1 January and 31 December of a leap year that begins on a Monday, a Tuesday or a Saturday.
They are in weeks of two ISO years with one number, and yet their weekdays are in order. -/
def LeapEnds (first second : Date) : Prop :=
  IsLeap first.year ∧ first.yday = 0 ∧ second.yday = 365 ∧
    (first.firstWeekday = 0 ∨ first.firstWeekday = 1 ∨ first.firstWeekday = 5)

instance (first second : Date) : Decidable (LeapEnds first second) :=
  inferInstanceAs (Decidable (IsLeap first.year ∧ first.yday = 0 ∧ second.yday = 365 ∧
    (first.firstWeekday = 0 ∨ first.firstWeekday = 1 ∨ first.firstWeekday = 5)))

/-- Numbering the weekdays of a calendar year by ISO weeks puts two days in their order when
their weeks belong to one ISO year; otherwise only by chance. -/
theorem weekdayNumber_lt_iff {first second : Date} (sameYear : first.year = second.year)
    (before : first.yday < second.yday) :
    first.weekdayNumber < second.weekdayNumber ↔ first.isoYear = second.isoYear ∨ LeapEnds first second := by
  have nonneg := first.nonneg
  have last := second.inside
  have start := first.firstWeekday_range
  have one := first.weekday_eq
  have other := second.weekday_eq
  have sameStart : second.firstWeekday = first.firstWeekday := by rw [firstWeekday,firstWeekday,sameYear]
  have length := daysInYear_range first.year
  have priorLength := daysInYear_range (first.year - 1)
  have prior := @daysInYear_pred first.year
  have secondCases := second.iso_cases
  rw [sameStart] at other
  rw [← sameYear] at last secondCases
  rw [LeapEnds,isLeap_iff]
  unfold weekdayNumber isoWeek
  unfold thursday at secondCases
  have firstCases := first.iso_cases
  unfold thursday at firstCases
  rcases firstCases with early | within | late <;> rcases secondCases with early' | within' | late' <;> omega

end Date

/-! ### Dates of day numbers -/

/-- The year that a day is in: an estimate by the length of 400 years, corrected by one. -/
def yearOf (number : Int) : Int :=
  let estimate := 400 * number / 146097 + 1
  if number < yearStart estimate then estimate - 1
  else if number < yearStart (estimate + 1) then estimate
  else estimate + 1

theorem yearOf_spec (number : Int) :
    yearStart (yearOf number) ≤ number ∧ number < yearStart (yearOf number + 1) := by
  unfold yearOf yearStart
  dsimp only
  split
  · omega
  · split <;> omega

def ofNumber (number : Int) : Date where
  year := yearOf number
  yday := number - yearStart (yearOf number)
  nonneg := by have := yearOf_spec number; omega
  inside := by
    have := yearOf_spec number
    have := yearStart_succ (yearOf number)
    omega

@[simp] theorem ofNumber_number (number : Int) : (ofNumber number).number = number := by
  change yearStart (yearOf number) + (number - yearStart (yearOf number)) = number
  omega

end Calendar
