/-!
# The calendar

Days counted from 1970-01-01 and dates of the proleptic Gregorian calendar, both ways. Years
are counted from March, so that a leap day is the last day of its year: then every century of
a cycle of 400 years has 36524 days but the last, every four years of a century have 1461 days
but the last, and every one of four years has 365 days but the last. `dayNumber_ofDay` says
that a date names the day that it was made from.
-/

namespace WorkQueue

/-- A date: year, month from 1 to 12, day from 1. -/
structure Date where
  year : Int
  month : Nat
  day : Nat
  deriving DecidableEq, Repr

namespace Date

/-- Does the year have a 29th of February? -/
def isLeapYear (year : Int) : Bool :=
  year % 4 = 0 && (year % 100 ≠ 0 || year % 400 = 0)

/-- The number of days of a month; months outside 1 to 12 have none. -/
def daysInMonth (year : Int) (month : Nat) : Nat :=
  match month with
  | 1 | 3 | 5 | 7 | 8 | 10 | 12 => 31
  | 4 | 6 | 9 | 11 => 30
  | 2 => if isLeapYear year then 29 else 28
  | _ => 0

/-- Is there such a date? -/
def Valid (date : Date) : Prop :=
  1 ≤ date.month ∧ date.month ≤ 12 ∧ 1 ≤ date.day ∧ date.day ≤ daysInMonth date.year date.month

/-- Validity is decided by comparing numbers. -/
instance (date : Date) : Decidable date.Valid :=
  inferInstanceAs (Decidable (_ ∧ _))

/-- The number of days from the first of March to the first of a month, counted from March. -/
def daysFromMarch (month : Int) : Int :=
  (153 * month + 2) / 5

/-- The number of the day with this date, counted from 1970-01-01. -/
def dayNumber (date : Date) : Int :=
  let early := date.month ≤ 2
  let year := if early then date.year - 1 else date.year
  let month : Int := if early then date.month + 9 else date.month - 3
  365 * year + year / 4 - year / 100 + year / 400 + daysFromMarch month + date.day - 719469

/-- The date of a day counted from 1970-01-01. -/
def ofDay (number : Int) : Date :=
  let cycle := (number + 719468) / 146097
  let dayOfCycle := (number + 719468) % 146097
  let century := min 3 (dayOfCycle / 36524)
  let dayOfCentury := dayOfCycle - 36524 * century
  let olympiad := dayOfCentury / 1461
  let dayOfOlympiad := dayOfCentury % 1461
  let yearOfOlympiad := min 3 (dayOfOlympiad / 365)
  let dayOfYear := dayOfOlympiad - 365 * yearOfOlympiad
  let month := (5 * dayOfYear + 2) / 153
  let day := dayOfYear - daysFromMarch month + 1
  let year := 400 * cycle + 100 * century + 4 * olympiad + yearOfOlympiad
  if month < 10 then ⟨year, (month + 3).toNat, day.toNat⟩
  else ⟨year + 1, (month - 9).toNat, day.toNat⟩

/-- The date of a day names that day. -/
@[simp]
theorem dayNumber_ofDay (number : Int) : (ofDay number).dayNumber = number := by
  unfold ofDay
  simp only
  generalize hshift : number + 719468 = shifted
  generalize hcycle : shifted / 146097 = cycle
  generalize hrest : shifted % 146097 = rest
  generalize hcentury : min 3 (rest / 36524) = century
  generalize hinCentury : rest - 36524 * century = inCentury
  generalize holympiad : inCentury / 1461 = olympiad
  generalize hinOlympiad : inCentury % 1461 = inOlympiad
  generalize hyear : min 3 (inOlympiad / 365) = year
  generalize hinYear : inOlympiad - 365 * year = inYear
  have hc : 0 ≤ century ∧ century ≤ 3 := by omega
  have ho : 0 ≤ olympiad ∧ olympiad ≤ 24 := by omega
  have hy : 0 ≤ year ∧ year ≤ 3 := by omega
  have hd : 0 ≤ inYear ∧ inYear ≤ 365 := by omega
  generalize hmonth : (5 * inYear + 2) / 153 = month
  have hm : 0 ≤ month ∧ month ≤ 11 := by omega
  generalize hwhole : 400 * cycle + 100 * century + 4 * olympiad + year = whole
  have hfour : whole / 4 = 100 * cycle + 25 * century + olympiad := by omega
  have hhundred : whole / 100 = 4 * cycle + century := by omega
  have hcycle' : whole / 400 = cycle := by omega
  have hday : 0 ≤ inYear - (153 * month + 2) / 5 + 1 := by omega
  split
  · have hlate : ¬ (month + 3).toNat ≤ 2 := by omega
    have hback : ((month + 3).toNat : Int) - 3 = month := by omega
    simp only [dayNumber, daysFromMarch, hlate, if_false, hback, hfour, hhundred, hcycle',
      Int.toNat_of_nonneg hday]
    omega
  · have hearly : (month - 9).toNat ≤ 2 := by omega
    have hback : ((month - 9).toNat : Int) + 9 = month := by omega
    simp only [dayNumber, daysFromMarch, hearly, if_true, hback, Int.add_sub_cancel, hfour,
      hhundred, hcycle', Int.toNat_of_nonneg hday]
    omega

end Date

end WorkQueue
