import Irrigation.Library.Calendar
import Irrigation.Library.Numerals
import Irrigation.Services

/-! How the scheduler reads the wall clock. Its week index takes the year from the calendar and
the week from ISO 8601, which do not agree on the days around New Year. -/
namespace Irrigation

open Calendar Numerals

/-! ### Reading the clock -/

/-- The fields of `struct tm` that count here; weekdays are counted from Sunday. -/
structure LocalTime where
  tmYear : Int
  tmYday : Int
  tmWday : Int
  tmHour : Int
  tmMin : Int
  deriving DecidableEq, Repr

/-- The C library: `localtime_r`, and what `strftime` stores for `%V`, nothing when it returns 0. -/
structure ClockLibrary where
  localtimeR : Int → LocalTime
  strftimeIsoWeek : LocalTime → List UInt8

/-- `unavailable` stands for false. Beyond the range of `int` the arithmetic is undefined. -/
inductive ClockReading where
  | unavailable
  | overflow
  | time (time : SchedulerTime)
  deriving DecidableEq, Repr

def intResult (value : Int) : Option Int := if -2147483648 ≤ value ∧ value ≤ 2147483647 then some value else none

/-- `(tm_year + 1900) * 54 + strtoul(iso_week, NULL, 10)`; the sum is unsigned. -/
def weekIndexOf (localTime : LocalTime) (isoWeek : List UInt8) : Option UInt32 := do
  let year ← intResult (localTime.tmYear + 1900)
  let weeks ← intResult (year * 54)
  pure (UInt32.ofInt weeks + (strtoul isoWeek).1)

def schedulerTimeFromSystem (library : ClockLibrary) (now : Int) : ClockReading :=
  if now < 1700000000 then .unavailable
  else
    let localTime := library.localtimeR now
    let isoWeek := library.strftimeIsoWeek localTime
    if isoWeek = [] then .unavailable
    else match weekIndexOf localTime isoWeek with
      | none => .overflow
      | some weekIndex => .time {
          weekIndex
          weekday := UInt8.ofInt ((localTime.tmWday + 6).tmod 7)
          hour := UInt8.ofInt localTime.tmHour
          minute := UInt8.ofInt localTime.tmMin }

/-! ### What the library promises -/

/-- The days from 1 January of the year 1 to 1 January 1970. -/
def epochDay : Int := 719162

def LocalTime.of (date : Date) (hour minute : Int) : LocalTime where
  tmYear := date.year - 1900
  tmYday := date.yday
  tmWday := (date.weekday + 1) % 7
  tmHour := hour
  tmMin := minute

/-- The library returns the local date, which is at most a day from the UTC date in any time
zone, and its ISO 8601 week number. -/
structure KeepsLocalDate (library : ClockLibrary) (localDate : Int → Date) : Prop where
  zone : ∀ now, -1 ≤ (localDate now).number - (epochDay + now / 86400) ∧
    (localDate now).number - (epochDay + now / 86400) ≤ 1
  localtime : ∀ now, ∃ hour minute, library.localtimeR now = .of (localDate now) hour minute ∧
    (0 ≤ hour ∧ hour < 24) ∧ 0 ≤ minute ∧ minute < 60
  isoWeek : ∀ date hour minute, library.strftimeIsoWeek (.of date hour minute) = twoDigits date.isoWeek.toNat

variable {library : ClockLibrary} {localDate : Int → Date}

theorem KeepsLocalDate.year_pos (keeps : KeepsLocalDate library localDate) {now : Int} (set : 1700000000 ≤ now) :
    0 < (localDate now).year := by
  have zone := keeps.zone now
  have inside := (localDate now).inside
  have length := daysInYear_range (localDate now).year
  unfold Date.number yearStart epochDay at zone
  omega

/-- The number that a date gets, before any arithmetic on words. -/
def dayNumber (date : Date) : Int := date.year * 378 + date.weekdayNumber

theorem intResult_some {value : Int} (nonneg : 0 ≤ value) (small : value ≤ 2147483647) : intResult value = some value :=
  if_pos ⟨by omega,small⟩

theorem weekIndexOf_date {date : Date} {hour minute : Int} (positive : 0 < date.year) :
    weekIndexOf (.of date hour minute) (twoDigits date.isoWeek.toNat) =
      if date.year ≤ 39768215 then some (UInt32.ofInt (date.year * 54) + date.isoWeek.toNat.toUInt32) else none := by
  have week := date.isoWeek_range
  have back : (LocalTime.of date hour minute).tmYear + 1900 = date.year := Int.sub_add_cancel _ _
  unfold weekIndexOf
  rw [back,strtoul_twoDigits (by omega)]
  split
  · next small =>
    rw [intResult_some (by omega) (by omega),Option.bind_eq_bind,Option.bind_some,
      intResult_some (by omega) (by omega)]
    rfl
  · next large =>
    have above : ¬(-2147483648 ≤ date.year * 54 ∧ date.year * 54 ≤ 2147483647) := by omega
    by_cases year : date.year ≤ 2147483647
    · rw [intResult_some (by omega) year,Option.bind_eq_bind,Option.bind_some,intResult,if_neg above]
      rfl
    · rw [intResult,if_neg (by omega)]
      rfl

theorem weekday_from_sunday (date : Date) : ((date.weekday + 1) % 7 + 6).tmod 7 = date.weekday := by
  have range := date.weekday_range
  rw [Int.tmod_eq_emod_of_nonneg (by omega)]
  omega

theorem toNat_ofInt_word {value : Int} (nonneg : 0 ≤ value) (small : value < 2 ^ 32) :
    ((UInt32.ofInt value).toNat : Int) = value := by
  simp [UInt32.ofInt]
  omega

theorem toNat_ofInt_byte {value : Int} (nonneg : 0 ≤ value) (small : value < 2 ^ 8) :
    ((UInt8.ofInt value).toNat : Int) = value := by
  simp [UInt8.ofInt]
  omega

/-- The occurrence of a time is the number of its date. -/
theorem occurrenceFor_date {date : Date} (positive : 0 < date.year) (small : date.year ≤ 39768215) (hour minute : UInt8) :
    ((occurrenceFor ⟨UInt32.ofInt (date.year * 54) + date.isoWeek.toNat.toUInt32,UInt8.ofInt date.weekday,
      hour,minute⟩).toNat : Int) = dayNumber date := by
  have week := date.isoWeek_range
  have weekday := date.weekday_range
  have weeks : ((UInt32.ofInt (date.year * 54)).toNat : Int) = date.year * 54 :=
    toNat_ofInt_word (by omega) (by omega)
  have day := toNat_ofInt_byte weekday.1 (by omega)
  have number : date.isoWeek.toNat.toUInt32.toNat = date.isoWeek.toNat := by simp; omega
  have seven : (7 : UInt64).toNat = 7 := rfl
  have index : (UInt32.ofInt (date.year * 54) + date.isoWeek.toNat.toUInt32).toNat =
      (UInt32.ofInt (date.year * 54)).toNat + date.isoWeek.toNat := by
    rw [UInt32.toNat_add,number,Nat.mod_eq_of_lt (by omega)]
  dsimp only [occurrenceFor]
  rw [UInt64.toNat_add,UInt64.toNat_mul,UInt32.toNat_toUInt64,UInt8.toNat_toUInt64,index,seven,
    Nat.mod_eq_of_lt (a := _ * 7) (by omega),Nat.mod_eq_of_lt (by omega)]
  unfold dayNumber Date.weekdayNumber
  omega

/-- A clock that is set gives the number of its local date, unless the arithmetic overflows. -/
theorem KeepsLocalDate.reading (keeps : KeepsLocalDate library localDate) {now : Int} (set : 1700000000 ≤ now) :
    ((localDate now).year ≤ 39768215 ∧ ∃ time, schedulerTimeFromSystem library now = .time time ∧
      ((occurrenceFor time).toNat : Int) = dayNumber (localDate now)) ∨
    (39768215 < (localDate now).year ∧ schedulerTimeFromSystem library now = .overflow) := by
  have positive := keeps.year_pos set
  obtain ⟨hour,minute,localTime,_⟩ := keeps.localtime now
  have some : twoDigits (localDate now).isoWeek.toNat ≠ [] := List.cons_ne_nil _ _
  simp only [schedulerTimeFromSystem,if_neg (Int.not_lt.mpr set),localTime,keeps.isoWeek,if_neg some,
    weekIndexOf_date positive]
  by_cases small : (localDate now).year ≤ 39768215
  · rw [if_pos small]
    refine .inl ⟨small,_,rfl,?_⟩
    have weekday : ((LocalTime.of (localDate now) hour minute).tmWday + 6).tmod 7 = (localDate now).weekday :=
      weekday_from_sunday _
    rw [weekday]
    exact occurrenceFor_date positive small _ _
  · rw [if_neg small]
    exact .inr ⟨Int.not_le.mp small,rfl⟩

/-! ### Which days are told apart -/

theorem weekdayNumber_range (date : Date) : 7 ≤ date.weekdayNumber ∧ date.weekdayNumber < 378 := by
  have week := date.isoWeek_range
  have weekday := date.weekday_range
  unfold Date.weekdayNumber
  omega

/-- The later of two days has the larger number in another calendar year and within one ISO
year; otherwise only at the two ends of some leap years. -/
theorem dayNumber_lt_iff {first second : Date} (earlier : first < second) : dayNumber first < dayNumber second ↔
    first.year ≠ second.year ∨ first.isoYear = second.isoYear ∨ Date.LeapEnds first second := by
  have one := weekdayNumber_range first
  have two := weekdayNumber_range second
  unfold dayNumber
  rcases Date.lt_iff.mp earlier with before | ⟨same,before⟩
  · have apart : first.year ≠ second.year := by omega
    simp only [apart,ne_eq,not_false_eq_true,true_or,iff_true]
    omega
  · rw [← Date.weekdayNumber_lt_iff same before,same]
    simp

/-- Both times are read, and the occurrence of the later day is the larger one. -/
def TellsApart (library : ClockLibrary) (first second : Int) : Prop :=
  ∃ earlier later, schedulerTimeFromSystem library first = .time earlier ∧
    schedulerTimeFromSystem library second = .time later ∧ occurrenceFor earlier < occurrenceFor later

/-- Occurrences tell two days apart unless they are in one calendar year and their weeks in two
ISO years, the two ends of some leap years aside. -/
theorem occurrences_tell_apart_iff (keeps : KeepsLocalDate library localDate) {first second : Int}
    (firstSet : 1700000000 ≤ first) (secondSet : 1700000000 ≤ second) (earlier : localDate first < localDate second) :
    TellsApart library first second ↔ (localDate second).year ≤ 39768215 ∧
      ((localDate first).year ≠ (localDate second).year ∨
        (localDate first).isoYear = (localDate second).isoYear ∨
        Date.LeapEnds (localDate first) (localDate second)) := by
  rw [← dayNumber_lt_iff earlier]
  have order : (localDate first).year ≤ (localDate second).year := by
    rcases Date.lt_iff.mp earlier with before | ⟨same,_⟩ <;> omega
  rcases keeps.reading secondSet with ⟨small,later,secondRead,secondNumber⟩ | ⟨large,overflow⟩
  · rcases keeps.reading firstSet with ⟨_,time,firstRead,firstNumber⟩ | ⟨large,_⟩
    · have words : occurrenceFor time < occurrenceFor later ↔ dayNumber (localDate first) < dayNumber (localDate second) := by
        rw [← firstNumber,← secondNumber,UInt64.lt_iff_toNat_lt]
        omega
      rw [← words]
      constructor
      · rintro ⟨_,_,one,two,less⟩
        cases firstRead.symm.trans one
        cases secondRead.symm.trans two
        exact ⟨small,less⟩
      · rintro ⟨_,less⟩
        exact ⟨time,later,firstRead,secondRead,less⟩
    · omega
  · constructor
    · rintro ⟨_,_,_,read,_⟩
      cases overflow.symm.trans read
    · rintro ⟨small,_⟩
      omega

/-! ### The first and the last day of 2025 -/

/-- UTC, by the library of the calendar. -/
def utcDate (now : Int) : Date := ofNumber (epochDay + now / 86400)

def utcLibrary : ClockLibrary where
  localtimeR := fun now => .of (utcDate now) (now % 86400 / 3600) (now % 3600 / 60)
  strftimeIsoWeek := fun localTime =>
    if inside : 0 ≤ localTime.tmYday ∧ localTime.tmYday < daysInYear (localTime.tmYear + 1900) then
      twoDigits (Date.mk (localTime.tmYear + 1900) localTime.tmYday inside.1 inside.2).isoWeek.toNat
    else []

theorem utcLibrary_keeps : KeepsLocalDate utcLibrary utcDate where
  zone := by
    intro now
    rw [utcDate,ofNumber_number]
    omega
  localtime := fun now => ⟨_,_,rfl,by omega,by omega⟩
  isoWeek := by
    intro date hour minute
    have year : (LocalTime.of date hour minute).tmYear + 1900 = date.year := Int.sub_add_cancel _ _
    have inside : 0 ≤ (LocalTime.of date hour minute).tmYday ∧
        (LocalTime.of date hour minute).tmYday < daysInYear ((LocalTime.of date hour minute).tmYear + 1900) := by
      rw [year]
      exact ⟨date.nonneg,date.inside⟩
    have same : Date.mk ((LocalTime.of date hour minute).tmYear + 1900) (LocalTime.of date hour minute).tmYday
        inside.1 inside.2 = date := Date.ext year rfl
    simp only [utcLibrary,dif_pos inside,same]

/-- 31 December 2025 has the occurrence of 1 January: both are Wednesdays of a first week. -/
theorem last_day_repeats_first : utcDate 1735732800 < utcDate 1767182400 ∧
    ∃ time, schedulerTimeFromSystem utcLibrary 1735732800 = .time time ∧
      schedulerTimeFromSystem utcLibrary 1767182400 = .time time :=
  ⟨by decide,⟨109351,2,12,0⟩,by decide,by decide⟩

/-- From 28 to 29 December 2025 the occurrence falls. -/
theorem occurrences_tell_apart_iff_utc : TellsApart utcLibrary 1766923200 1767009600 ↔
    (utcDate 1767009600).year ≤ 39768215 ∧ ((utcDate 1766923200).year ≠ (utcDate 1767009600).year ∨
      (utcDate 1766923200).isoYear = (utcDate 1767009600).isoYear ∨
      Date.LeapEnds (utcDate 1766923200) (utcDate 1767009600)) :=
  occurrences_tell_apart_iff utcLibrary_keeps (by decide) (by decide) (by decide)

end Irrigation
