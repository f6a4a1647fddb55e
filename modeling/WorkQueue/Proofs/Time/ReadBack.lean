import WorkQueue.Proofs.Text.Digits
import WorkQueue.Time.Reader

/-!
# Instants read back

Every instant of the calendar is read back from the form of the wire, to the nanosecond, in every
year and with a leap second at the end of a minute as well. Each number of the form has the digits
that its reader takes, or is followed by a character that is no digit; the date that is written is
one that exists, and the numbers of the clock are in their bounds.
-/

namespace WorkQueue

namespace Date

/-- No month is longer than 31 days. -/
theorem daysInMonth_le (year : Int) (month : Nat) : daysInMonth year month ≤ 31 := by
  unfold daysInMonth
  split <;> first | decide | (split <;> decide)

/-- A day of a year counted from March has a date that exists, if the year has that day. -/
theorem valid_ofMarch {year day : Int} (hday : 0 ≤ day)
    (hyear : daysBeforeMarch year + day < daysBeforeMarch (year + 1)) (hmost : day ≤ 365) :
    (ofMarch year day).Valid := by
  obtain ⟨hleast, hlast, hfirst, hbound⟩ := ofMarch_bounds year ⟨hday, hmost⟩
  refine ⟨hleast, hlast, hfirst, ?_⟩
  generalize hmonth : (5 * day + 2) / 153 = month
  obtain ⟨hm, hm', _, _⟩ := march_bounds ⟨hday, hmost⟩ hmonth
  obtain hspring | hwinter : month < 10 ∨ 10 ≤ month := by omega
  · simp only [ofMarch, hmonth, if_pos hspring, daysFromMarch]
    obtain rfl | rfl | rfl | rfl | rfl | rfl | rfl | rfl | rfl | rfl : month = 0 ∨ month = 1 ∨
        month = 2 ∨ month = 3 ∨ month = 4 ∨ month = 5 ∨ month = 6 ∨ month = 7 ∨ month = 8 ∨
        month = 9 := by omega
    all_goals simp [daysInMonth]; omega
  · simp only [ofMarch, hmonth, if_neg (Int.not_lt.2 hwinter), daysFromMarch]
    obtain rfl | rfl : month = 10 ∨ month = 11 := by omega
    · simp [daysInMonth]
      omega
    · -- The last day of February is there if the year that it ends is long.
      have hfebruary : daysInMonth (year + 1) (11 - 9 : Int).toNat =
          if isLeapYear (year + 1) then 29 else 28 := rfl
      rw [hfebruary]
      split
      · omega
      · next hleap =>
          have hshort : day < 365 := by
            simp [isLeapYear] at hleap
            unfold daysBeforeMarch at hyear
            omega
          omega

/-- Every day has a date that exists. -/
theorem valid_ofDay (number : Int) : (ofDay number).Valid := by
  obtain ⟨year, day, _, hday, hmost, hyear, hdate⟩ := exists_march number
  rw [hdate]
  exact valid_ofMarch hday hyear hmost

end Date

namespace Instant

open Text

/-! ## Numbers -/

/-- Digits are taken as far as they reach, or as many as may be taken. -/
theorem takeDigits_append {digits : List Char} (hdigits : AllDigits digits) (rest : List Char)
    {width : Nat} (hwidth : digits.length = width ∨ digits.length ≤ width ∧ NoDigitNext rest) :
    takeDigits width (digits ++ rest) = (digits.map digitValue, rest) := by
  induction digits generalizing width with
  | nil =>
      cases width with
      | zero => rw [List.nil_append, takeDigits]; rfl
      | succ width =>
          obtain hzero | ⟨_, hnext⟩ := hwidth
          · cases hzero
          · cases rest with
            | nil => rfl
            | cons c more =>
                simp only [List.nil_append, takeDigits, hnext c more rfl]
                rfl
  | cons c digits ih =>
      cases width with
      | zero => simp at hwidth
      | succ width =>
          obtain ⟨value, hvalue⟩ := Option.isSome_iff_exists.1 (hdigits c List.mem_cons_self)
          have hrest : takeDigits width (digits ++ rest) = (digits.map digitValue, rest) :=
            ih (fun d hd => hdigits d (List.mem_cons_of_mem _ hd)) (by simpa using hwidth)
          have hdigit : digitValue c = value := by rw [digitValue, hvalue]; rfl
          simp only [List.cons_append, takeDigits, hvalue, hrest, List.map_cons, hdigit]

/-- The values of digits make the number that the digits stand for. -/
theorem ofDigits_map (digits : List Char) :
    ofDigits (digits.map digitValue) = decimalValue digits := by
  rw [ofDigits, List.foldl_map]
  rfl

/-- Zeros behind digits multiply what they stand for. -/
theorem ofDigits_append_zeros (digits : List Nat) (zeros : Nat) :
    ofDigits (digits ++ List.replicate zeros 0) = ofDigits digits * 10 ^ zeros := by
  induction zeros with
  | zero => simp
  | succ zeros ih =>
      rw [List.replicate_succ', ← List.append_assoc, ofDigits, List.foldl_append, ← ofDigits, ih,
        Nat.pow_succ, ← Nat.mul_assoc]
      rfl

/-- There are no blanks in front of a digit. -/
theorem skipBlanks_digitChar (d : Nat) (rest : List Char) :
    skipBlanks (digitChar d :: rest) = digitChar d :: rest :=
  List.dropWhile_cons_of_neg (by rw [isBlank_digitChar]; exact Bool.false_ne_true)

/-- A number of fixed digits is read back. -/
theorem readNumber_fixedDigits {width n : Nat} (hn : n < 10 ^ (width + 1)) (rest : List Char) :
    readNumber (width + 1) (fixedDigits (width + 1) n ++ rest) = some (n, rest) := by
  have htake := takeDigits_append (allDigits_fixedDigits (width + 1) n) rest
    (.inl (length_fixedDigits _ _))
  have hskip : skipBlanks (fixedDigits (width + 1) n ++ rest) =
      fixedDigits (width + 1) n ++ rest := by
    rw [fixedDigits_succ, List.cons_append, skipBlanks_digitChar]
  rw [readNumber, hskip, htake]
  split
  · next heq =>
      obtain ⟨hnone, _⟩ := Prod.mk.inj heq
      rw [fixedDigits_succ] at hnone
      cases hnone
  · next heq =>
      obtain ⟨rfl, rfl⟩ := Prod.mk.inj heq
      rw [ofDigits_map, decimalValue_fixedDigits, Nat.mod_eq_of_lt hn]

/-! ## Dates -/

/-- A mark is read where it stands. -/
theorem readMark_cons {mark : Char} (h : isBlank mark = false) (rest : List Char) :
    readMark mark (mark :: rest) = some rest := by
  have hskip : skipBlanks (mark :: rest) = mark :: rest :=
    List.dropWhile_cons_of_neg (by rw [h]; exact Bool.false_ne_true)
  rw [readMark, hskip]
  exact if_pos rfl

/-- The digits of a year outside of four digits are read up to the hyphen behind them. -/
theorem takeDigits_year (n : Nat) (rest : List Char) :
    let text := fixedDigits (max 4 (digitCount n)) n ++ '-' :: rest
    takeDigits text.length text =
        ((fixedDigits (max 4 (digitCount n)) n).map digitValue, '-' :: rest) ∧
      ((fixedDigits (max 4 (digitCount n)) n).map digitValue).isEmpty = false ∧
      ofDigits ((fixedDigits (max 4 (digitCount n)) n).map digitValue) = n := by
  intro text
  have hnext : NoDigitNext ('-' :: rest) := by
    rintro c more ⟨⟩
    rfl
  have hlarge : n < 10 ^ max 4 (digitCount n) :=
    Nat.lt_of_lt_of_le (lt_pow_digitCount n) (Nat.pow_le_pow_right (by decide) (le_max_right _ _))
  refine ⟨takeDigits_append (allDigits_fixedDigits _ n) _ (.inr ⟨?_, hnext⟩), ?_, ?_⟩
  · rw [List.length_append]
    exact Nat.le_add_right _ _
  · obtain ⟨width, hwidth⟩ : ∃ width, max 4 (digitCount n) = width + 1 :=
      ⟨max 4 (digitCount n) - 1, by omega⟩
    rw [hwidth, fixedDigits_succ]
    rfl
  · rw [ofDigits_map, decimalValue_fixedDigits, Nat.mod_eq_of_lt hlarge]

/-- A year is read back, with a sign or without one. -/
theorem readYear_yearText (year : Int) (rest : List Char) :
    readYear (yearText year ++ '-' :: rest) = some (year, '-' :: rest) := by
  obtain ⟨htake, hsome, hvalue⟩ := takeDigits_year year.natAbs rest
  rw [yearText]
  by_cases hnegative : year < 0
  · have hback : -(year.natAbs : Int) = year := by omega
    have hskip (tail : List Char) : skipBlanks ('-' :: tail) = '-' :: tail := rfl
    rw [if_pos hnegative, List.cons_append, readYear, hskip]
    simp only [htake, hsome, hvalue, hback]
    rfl
  · by_cases hlate : 9999 < year
    · have hback : (year.natAbs : Int) = year := by omega
      have hskip (tail : List Char) : skipBlanks ('+' :: tail) = '+' :: tail := rfl
      rw [if_neg hnegative, if_pos hlate, List.cons_append, readYear, hskip]
      simp only [htake, hsome, hvalue, hback]
      rfl
    · have hback : (year.natAbs : Int) = year := by omega
      have hread := readNumber_fixedDigits (show year.natAbs < 10 ^ (3 + 1) by omega) ('-' :: rest)
      rw [if_neg hnegative, if_neg hlate, readYear]
      rw [fixedDigits_succ, List.cons_append] at hread ⊢
      rw [skipBlanks_digitChar]
      split
      -- A digit is neither sign, so that exactly four digits are read.
      · next heq => exact absurd (List.cons.inj heq).1.symm (plus_ne_digitChar _)
      · next heq => exact absurd (List.cons.inj heq).1.symm (minus_ne_digitChar _)
      · simp only [hread, hback, Option.bind_eq_bind, Option.bind_some]

/-- A date that exists is read back. -/
theorem readDate_dateText {date : Date} (h : date.Valid) (rest : List Char) :
    readDate (dateText date ++ rest) = some (date, rest) := by
  have hmonth : date.month < 10 ^ (1 + 1) := Nat.lt_of_le_of_lt h.2.1 (by decide)
  have hday : date.day < 10 ^ (1 + 1) :=
    Nat.lt_of_le_of_lt (Nat.le_trans h.2.2.2 (Date.daysInMonth_le _ _)) (by decide)
  have htext : dateText date ++ rest = yearText date.year ++ '-' :: (fixedDigits 2 date.month ++
      '-' :: (fixedDigits 2 date.day ++ rest)) := by
    simp [dateText]
  rw [htext, readDate, readYear_yearText]
  simp only [Option.bind_eq_bind, Option.bind_some, readMark_cons (rfl : isBlank '-' = false),
    readNumber_fixedDigits hmonth, readNumber_fixedDigits hday]
  exact if_pos h

/-! ## Times of day -/

/-- A fraction of a second is read back to the nanosecond. -/
theorem readFraction_fractionText (t : Instant) (rest : List Char) :
    readFraction (t.fractionText ++ 'Z' :: rest) = some (t.nano % 1_000_000_000, 'Z' :: rest) := by
  rcases exists_fraction t with
    ⟨hzero, htext⟩ | ⟨width, more, value, hwidth, hnano, hlt, hpos, htext⟩
  · rw [htext, hzero]
    rfl
  · have hnext : NoDigitNext ('Z' :: rest) := by
      rintro c tail ⟨⟩
      rfl
    have htake := takeDigits_append (allDigits_fixedDigits width value) ('Z' :: rest)
      (.inr ⟨show (fixedDigits width value).length ≤ 9 by rw [length_fixedDigits]; omega, hnext⟩)
    have hsome : ((fixedDigits width value).map digitValue).isEmpty = false := by
      cases width with
      | zero => omega
      | succ width => rw [fixedDigits_succ]; rfl
    have hvalue : ofDigits ((fixedDigits width value).map digitValue ++ List.replicate
        (9 - ((fixedDigits width value).map digitValue).length) 0) = t.nano % 1_000_000_000 := by
      rw [ofDigits_append_zeros, ofDigits_map, decimalValue_fixedDigits, Nat.mod_eq_of_lt hlt,
        List.length_map, length_fixedDigits, ← hnano]
      congr 2
      omega
    rw [htext, List.cons_append, readFraction]
    simp only [htake, hsome, hvalue]
    rfl

/-- A time of day is read back, with a leap second at the end of a minute. -/
theorem readClock_clockText {t : Instant} (h : t.WellFormed) (rest : List Char) :
    readClock (t.clockText ++ t.fractionText ++ 'Z' :: rest) =
      some ((t.secondOfDay, t.nano), 'Z' :: rest) := by
  have hday : t.secondOfDay < 86400 := by unfold secondOfDay; omega
  have hleap : t.nano / 1_000_000_000 = 0 ∨
      t.secondOfDay % 60 = 59 ∧ t.nano / 1_000_000_000 = 1 := by
    unfold WellFormed at h
    unfold secondOfDay
    omega
  have hhour : t.secondOfDay / 3600 < 10 ^ (1 + 1) := by omega
  have hminute : t.secondOfDay / 60 % 60 < 10 ^ (1 + 1) := by omega
  have hsecond : t.secondOfDay % 60 + t.nano / 1_000_000_000 < 10 ^ (1 + 1) := by omega
  have htext : t.clockText ++ t.fractionText ++ 'Z' :: rest =
      fixedDigits 2 (t.secondOfDay / 3600) ++ ':' :: (fixedDigits 2 (t.secondOfDay / 60 % 60) ++
        ':' :: (fixedDigits 2 (t.secondOfDay % 60 + t.nano / 1_000_000_000) ++
          (t.fractionText ++ 'Z' :: rest))) := by
    simp [clockText]
  rw [htext, readClock]
  simp only [Option.bind_eq_bind, Option.bind_some, readMark_cons (rfl : isBlank ':' = false),
    readNumber_fixedDigits hhour, readNumber_fixedDigits hminute, readNumber_fixedDigits hsecond,
    readFraction_fractionText]
  -- A leap second is written as second 60 and kept as nanoseconds of second 59.
  have hwhole : t.secondOfDay / 3600 * 3600 + t.secondOfDay / 60 % 60 * 60 +
      min (t.secondOfDay % 60 + t.nano / 1_000_000_000) 59 = t.secondOfDay := by omega
  have hnano : (if t.secondOfDay % 60 + t.nano / 1_000_000_000 = 60 then
      t.nano % 1_000_000_000 + 1_000_000_000 else t.nano % 1_000_000_000) = t.nano := by
    split <;> omega
  rw [if_pos (by omega), hwhole, hnano]

/-- The years of the calendar. -/
theorem year_of_inCalendar {t : Instant} (h : t.InCalendar) :
    -262143 ≤ t.date.year ∧ t.date.year ≤ 262142 := by
  have hfirst : (⟨firstDay * 86400, 0⟩ : Instant) ≤ t := by
    rw [le_iff]
    have hle := h.1
    unfold dayNumber at hle
    simp only
    omega
  have hlast : t ≤ (⟨lastDay * 86400 + 86399, t.nano⟩ : Instant) := by
    rw [le_iff]
    have hle := h.2
    unfold dayNumber at hle
    simp only
    omega
  exact ⟨year_le_of_le hfirst, year_le_of_le hlast⟩

/-- The years from 0 to 9999 are in the calendar. -/
theorem Storable.inCalendar {t : Instant} (h : t.Storable) : t.InCalendar := by
  constructor
  · by_contra hearly
    have hle : t ≤ (⟨firstDay * 86400 - 1, t.nano⟩ : Instant) := by
      rw [le_iff]
      unfold dayNumber at hearly
      simp only
      omega
    have hyear : t.date.year ≤ -262144 := year_le_of_le hle
    have hleast := h.1
    omega
  · by_contra hlate
    have hle : (⟨(lastDay + 1) * 86400, 0⟩ : Instant) ≤ t := by
      rw [le_iff]
      unfold dayNumber at hlate
      simp only
      omega
    have hyear : 262143 ≤ t.date.year := year_le_of_le hle
    have hmost := h.2.1
    omega

/-- Every instant of the calendar is read back from the form of the wire. -/
theorem read?_rfc3339 {t : Instant} (hformed : t.WellFormed) (hcalendar : t.InCalendar) :
    read? t.rfc3339 = some t := by
  have htext : t.rfc3339.toList =
      dateText t.date ++ 'T' :: (t.clockText ++ t.fractionText ++ 'Z' :: []) := by
    simp [rfc3339]
  have hback : (⟨t.date.dayNumber * 86400 + t.secondOfDay - 0, t.nano⟩ : Instant) = t := by
    have hsecond : t.date.dayNumber * 86400 + t.secondOfDay - 0 = t.second := by
      unfold date dayNumber secondOfDay
      rw [Date.dayNumber_ofDay]
      omega
    rw [hsecond]
  have hyears := year_of_inCalendar hcalendar
  have hvalid : t.date.Valid := Date.valid_ofDay t.dayNumber
  have hoffset : readOffset (skipBlanks ['Z']) = some (0, []) := rfl
  rw [read?, htext, readDate_dateText hvalid]
  simp only [Option.bind_eq_bind, Option.bind_some, readClock_clockText hformed, hoffset, hback]
  exact if_pos ⟨rfl, by decide, hyears, hcalendar⟩

end Instant

end WorkQueue
