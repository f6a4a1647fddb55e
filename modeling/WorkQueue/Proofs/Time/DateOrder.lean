import WorkQueue.Time.Calendar

/-!
# Later days have later dates

Counted from March, a day is a year and a day of that year, both ways: a later day is in a later
year, or later in the same one. Within a year the months and the days of a month follow from the
day of the year, and a date that is read as one number of the form YYYYMMDD is the larger the later
the day is: `rank_lt_of_lt`.
-/

namespace WorkQueue.Date

/-- The days before the first of March of a year, counted from March of the year 0. -/
def daysBeforeMarch (year : Int) : Int :=
  365 * year + year / 4 - year / 100 + year / 400

/-- The date of a day of a year that is counted from March. -/
def ofMarch (year day : Int) : Date :=
  let month := (5 * day + 2) / 153
  let dayOfMonth := (day - daysFromMarch month + 1).toNat
  if month < 10 then ⟨year, (month + 3).toNat, dayOfMonth⟩
  else ⟨year + 1, (month - 9).toNat, dayOfMonth⟩

/-- Every day is a day of a year counted from March, and has the date of that. -/
theorem exists_march (number : Int) :
    ∃ year day, number + 719468 = daysBeforeMarch year + day ∧ 0 ≤ day ∧ day ≤ 365 ∧
      daysBeforeMarch year + day < daysBeforeMarch (year + 1) ∧
      ofDay number = ofMarch year day := by
  generalize hshift : number + 719468 = shifted
  generalize hcycle : shifted / 146097 = cycle
  generalize hrest : shifted % 146097 = rest
  generalize hcentury : min 3 (rest / 36524) = century
  generalize hinCentury : rest - 36524 * century = inCentury
  generalize holympiad : inCentury / 1461 = olympiad
  generalize hinOlympiad : inCentury % 1461 = inOlympiad
  generalize hyear : min 3 (inOlympiad / 365) = year
  have hc : 0 ≤ century ∧ century ≤ 3 := by omega
  have ho : 0 ≤ olympiad ∧ olympiad ≤ 24 := by omega
  have hy : 0 ≤ year ∧ year ≤ 3 := by omega
  refine ⟨400 * cycle + 100 * century + 4 * olympiad + year, inOlympiad - 365 * year, ?_⟩
  generalize hwhole : 400 * cycle + 100 * century + 4 * olympiad + year = whole
  have hfour : whole / 4 = 100 * cycle + 25 * century + olympiad := by omega
  have hhundred : whole / 100 = 4 * cycle + century := by omega
  have hcycle' : whole / 400 = cycle := by omega
  refine ⟨?_, by omega, by omega, ?_, ?_⟩
  · simp only [daysBeforeMarch, hfour, hhundred, hcycle']
    omega
  · simp only [daysBeforeMarch, hfour, hhundred, hcycle']
    -- A year with 366 days is followed by one whose number is divisible by four, but by a hundred
    -- only if it is by four hundred.
    obtain hshort | ⟨hlast, hearly | hend⟩ :
        year ≤ 2 ∨ year = 3 ∧ (olympiad ≤ 23 ∨ olympiad = 24) := by omega
    · have hfour' : (whole + 1) / 4 = 100 * cycle + 25 * century + olympiad := by omega
      have hhundred' : (whole + 1) / 100 = 4 * cycle + century := by omega
      have hnext : (whole + 1) / 400 = cycle := by omega
      rw [hfour', hhundred', hnext]
      omega
    · have hfour' : (whole + 1) / 4 = 100 * cycle + 25 * century + olympiad + 1 := by omega
      have hhundred' : (whole + 1) / 100 = 4 * cycle + century := by omega
      have hnext : (whole + 1) / 400 = cycle := by omega
      rw [hfour', hhundred', hnext]
      omega
    · have hfour' : (whole + 1) / 4 = 100 * cycle + 25 * century + 25 := by omega
      have hhundred' : (whole + 1) / 100 = 4 * cycle + century + 1 := by omega
      have hnext : (whole + 1) / 400 = cycle + century / 3 := by omega
      rw [hfour', hhundred', hnext]
      omega
  · simp only [ofDay, ofMarch, hshift, hcycle, hrest, hcentury, hinCentury, holympiad,
      hinOlympiad, hyear, hwhole]

/-- Every year has its days before those of the next year. -/
theorem daysBeforeMarch_mono {first second : Int} (h : first ≤ second) :
    daysBeforeMarch first ≤ daysBeforeMarch second := by
  unfold daysBeforeMarch
  omega

/-- A date read as one number of the form YYYYMMDD. -/
def rank (date : Date) : Int :=
  10000 * date.year + 100 * date.month + date.day

/-- The month of a day of a year counted from March, and the day of that month. -/
theorem march_bounds {day month : Int} (hday : 0 ≤ day ∧ day ≤ 365)
    (hmonth : (5 * day + 2) / 153 = month) :
    0 ≤ month ∧ month ≤ 11 ∧ 1 ≤ day - daysFromMarch month + 1 ∧
      day - daysFromMarch month + 1 ≤ 31 := by
  unfold daysFromMarch
  omega

/-- Months and days of a month have their usual bounds. -/
theorem ofMarch_bounds (year : Int) {day : Int} (hday : 0 ≤ day ∧ day ≤ 365) :
    1 ≤ (ofMarch year day).month ∧ (ofMarch year day).month ≤ 12 ∧
      1 ≤ (ofMarch year day).day ∧ (ofMarch year day).day ≤ 31 := by
  generalize hmonth : (5 * day + 2) / 153 = month
  have hbounds := march_bounds hday hmonth
  by_cases hspring : month < 10
  · simp only [ofMarch, hmonth, if_pos hspring]
    omega
  · simp only [ofMarch, hmonth, if_neg hspring]
    omega

/-- The rank of a date counted from March: its year is over once January comes. -/
theorem rank_ofMarch (year : Int) {day month : Int} (hday : 0 ≤ day ∧ day ≤ 365)
    (hmonth : (5 * day + 2) / 153 = month) :
    (ofMarch year day).rank = 10000 * year + (if month < 10 then 0 else 8800) + 100 * (month + 3) +
      (day - daysFromMarch month + 1) := by
  have hbounds := march_bounds hday hmonth
  by_cases hspring : month < 10
  · simp only [ofMarch, rank, hmonth, if_pos hspring]
    omega
  · simp only [ofMarch, rank, hmonth, if_neg hspring]
    omega

/-- A later day of a year has a later date. -/
theorem rank_ofMarch_lt (year : Int) {first second : Int} (hfirst : 0 ≤ first)
    (h : first < second) (hsecond : second ≤ 365) :
    (ofMarch year first).rank < (ofMarch year second).rank := by
  have hfirst' : 0 ≤ first ∧ first ≤ 365 := by omega
  have hsecond' : 0 ≤ second ∧ second ≤ 365 := by omega
  generalize hmonth : (5 * first + 2) / 153 = month
  generalize hmonth' : (5 * second + 2) / 153 = month'
  have hbounds := march_bounds hfirst' hmonth
  have hbounds' := march_bounds hsecond' hmonth'
  rw [rank_ofMarch year hfirst' hmonth, rank_ofMarch year hsecond' hmonth']
  obtain hlt | rfl : month < month' ∨ month = month' := by omega
  · split <;> split <;> omega
  · omega

/-- A day of a later year has a later date. -/
theorem rank_ofMarch_lt_of_year_lt {year later first second : Int} (hyear : year < later)
    (hfirst : 0 ≤ first ∧ first ≤ 365) (hsecond : 0 ≤ second ∧ second ≤ 365) :
    (ofMarch year first).rank < (ofMarch later second).rank := by
  have hbounds := march_bounds hfirst rfl
  have hbounds' := march_bounds hsecond rfl
  rw [rank_ofMarch year hfirst rfl, rank_ofMarch later hsecond rfl]
  split <;> split <;> omega

/-- A later day has a later date. -/
theorem rank_lt_of_lt {first second : Int} (h : first < second) :
    (ofDay first).rank < (ofDay second).rank := by
  obtain ⟨year, day, hnumber, hday, hmost, hnext, hdate⟩ := exists_march first
  obtain ⟨year', day', hnumber', hday', hmost', hnext', hdate'⟩ := exists_march second
  rw [hdate, hdate']
  have hle : year ≤ year' := by
    refine Int.not_lt.1 fun hgt => ?_
    have hmono := daysBeforeMarch_mono (Int.add_one_le_of_lt hgt)
    omega
  rcases Int.lt_or_eq_of_le hle with hlt | rfl
  · exact rank_ofMarch_lt_of_year_lt hlt ⟨hday, hmost⟩ ⟨hday', hmost'⟩
  · exact rank_ofMarch_lt year hday (by omega) hmost'

/-- Months and days have numbers of two digits. -/
theorem ofDay_bounds (number : Int) :
    1 ≤ (ofDay number).month ∧ (ofDay number).month ≤ 12 ∧
      1 ≤ (ofDay number).day ∧ (ofDay number).day ≤ 31 := by
  obtain ⟨year, day, _, hday, hmost, _, hdate⟩ := exists_march number
  rw [hdate]
  exact ofMarch_bounds year ⟨hday, hmost⟩

end WorkQueue.Date
