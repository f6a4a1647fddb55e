import WorkQueue.Proofs.Text.ByteOrder
import WorkQueue.Proofs.Time.ReadBack

/-!
# The form of stored instants

The form `YYYY-MM-DDTHH:MM:SS`, then a fraction of a second if there is one, then `+00:00`, said of
a text by its parts: which numbers its digits stand for, that there is such a date and such a time
of day, and that the fraction is cut short as far as it can be. An instant that can be stored has
exactly one text of that form, and it is the one that the store keeps: `storedAs_iff`. For that a
date that exists has to be the date of its day, and no other date may be. The bytes of the stored
texts are what the store compares.
-/

namespace WorkQueue

/-! ## Dates that exist -/

namespace Date

/-- A day of a year that has that day has the date that is counted from March. -/
theorem ofDay_eq_ofMarch {number year day : Int}
    (hnumber : number + 719468 = daysBeforeMarch year + day) (hday : 0 ≤ day)
    (hyear : daysBeforeMarch year + day < daysBeforeMarch (year + 1)) :
    ofDay number = ofMarch year day := by
  obtain ⟨other, dayOfOther, hother, hfirst, _, hnext, hdate⟩ := exists_march number
  have hsame : other = year := by
    refine Int.le_antisymm (Int.not_lt.1 fun hlt => ?_) (Int.not_lt.1 fun hlt => ?_)
    · have hmono := daysBeforeMarch_mono (Int.add_one_le_of_lt hlt)
      omega
    · have hmono := daysBeforeMarch_mono (Int.add_one_le_of_lt hlt)
      omega
  subst hsame
  obtain rfl : dayOfOther = day := by omega
  exact hdate

/-- A day of a month counted from March has the date with that month and that day. -/
theorem ofMarch_daysFromMarch (year : Int) {month : Int} {day : Nat} (hday : 1 ≤ day)
    (hmonth : daysFromMarch month + day - 1 < daysFromMarch (month + 1)) :
    ofMarch year (daysFromMarch month + day - 1) =
      if month < 10 then ⟨year, (month + 3).toNat, day⟩
      else ⟨year + 1, (month - 9).toNat, day⟩ := by
  unfold daysFromMarch at hmonth
  have hback : (5 * (daysFromMarch month + day - 1) + 2) / 153 = month := by
    unfold daysFromMarch
    omega
  have hdays : (daysFromMarch month + day - 1 - daysFromMarch month + 1).toNat = day := by omega
  simp only [ofMarch, hback, hdays]

/-- From March to December a month is over before the next one begins. -/
theorem daysFromMarch_add_daysInMonth_le (year : Int) {month : Nat} (h : 3 ≤ month ∧ month ≤ 12) :
    daysFromMarch (month - 3) + daysInMonth year month ≤ daysFromMarch (month - 3 + 1) := by
  obtain ⟨hfirst, hlast⟩ := h
  obtain rfl | rfl | rfl | rfl | rfl | rfl | rfl | rfl | rfl | rfl : month = 3 ∨ month = 4 ∨
      month = 5 ∨ month = 6 ∨ month = 7 ∨ month = 8 ∨ month = 9 ∨ month = 10 ∨ month = 11 ∨
      month = 12 := by omega
  all_goals simp [daysInMonth, daysFromMarch]

/-- January has 31 days, and February 28, or 29 in a long year. -/
theorem day_le_of_winter {year : Int} {month day : Nat} (h : Valid ⟨year, month, day⟩)
    (hearly : month ≤ 2) :
    month = 1 ∧ day ≤ 31 ∨ month = 2 ∧
      (day ≤ 28 ∨ day ≤ 29 ∧ year % 4 = 0 ∧ (year % 100 ≠ 0 ∨ year % 400 = 0)) := by
  obtain ⟨hleast, _, _, hbound⟩ := h
  simp only at hleast hbound
  obtain rfl | rfl : month = 1 ∨ month = 2 := by omega
  · exact .inl ⟨rfl, hbound⟩
  · refine .inr ⟨rfl, ?_⟩
    have hfebruary : day ≤ if isLeapYear year then 29 else 28 := hbound
    split at hfebruary
    · next hleap => exact .inr ⟨hfebruary, by simpa [isLeapYear] using hleap⟩
    · exact .inl hfebruary

/-- A date that exists is the date of its day. -/
theorem ofDay_dayNumber {date : Date} (h : date.Valid) : ofDay date.dayNumber = date := by
  obtain ⟨year, month, day⟩ := date
  have hfirst : 1 ≤ day := h.2.2.1
  by_cases hearly : month ≤ 2
  · have hday := day_le_of_winter h hearly
    have hnumber : dayNumber ⟨year, month, day⟩ + 719468 =
        daysBeforeMarch (year - 1) + (daysFromMarch (month + 9) + day - 1) := by
      simp only [dayNumber, hearly, if_true, daysBeforeMarch]
      omega
    have hwithin : daysFromMarch (month + 9) + day - 1 < daysFromMarch (month + 9 + 1) := by
      unfold daysFromMarch
      omega
    have hinYear : daysBeforeMarch (year - 1) + (daysFromMarch (month + 9) + day - 1) <
        daysBeforeMarch (year - 1 + 1) := by
      unfold daysBeforeMarch daysFromMarch
      omega
    rw [ofDay_eq_ofMarch hnumber (by unfold daysFromMarch; omega) hinYear,
      ofMarch_daysFromMarch _ hfirst hwithin, if_neg (by have := h.1; omega)]
    congr 1 <;> omega
  · have hlate : 3 ≤ month ∧ month ≤ 12 := ⟨by omega, h.2.1⟩
    have hlength := daysFromMarch_add_daysInMonth_le year hlate
    have hlast : day ≤ daysInMonth year month := h.2.2.2
    have hnumber : dayNumber ⟨year, month, day⟩ + 719468 =
        daysBeforeMarch year + (daysFromMarch (month - 3) + day - 1) := by
      simp only [dayNumber, hearly, if_false, daysBeforeMarch]
      omega
    have hwithin : daysFromMarch (month - 3) + day - 1 < daysFromMarch (month - 3 + 1) := by omega
    have hinYear : daysBeforeMarch year + (daysFromMarch (month - 3) + day - 1) <
        daysBeforeMarch (year + 1) := by
      unfold daysBeforeMarch
      unfold daysFromMarch at hwithin ⊢
      omega
    rw [ofDay_eq_ofMarch hnumber (by unfold daysFromMarch; omega) hinYear,
      ofMarch_daysFromMarch _ hfirst hwithin, if_pos (by omega)]
    congr 1
    omega

end Date

/-! ## Digits -/

namespace Text

/-- The text is the number in so many digits. -/
structure PaddedNumeral (width n : Nat) (text : List Char) : Prop where
  digits : AllDigits text
  length_eq : text.length = width
  value_eq : decimalValue text = n

/-- The ten digits have the numbers from 48 on. -/
theorem toNat_of_digit {c : Char} (h : (digitValue? c).isSome = true) :
    c.toNat = 48 + digitValue c ∧ digitValue c < 10 := by
  have hrange : '0' ≤ c ∧ c ≤ '9' := by
    unfold digitValue? at h
    split at h
    · assumption
    · cases h
  have hvalue : digitValue c = c.toNat - 48 := by
    rw [digitValue, digitValue?, if_pos hrange]
    rfl
  have hfirst : 48 ≤ c.toNat := hrange.1
  have hlast : c.toNat ≤ 57 := hrange.2
  omega

/-- A digit is the one that is written for its value. -/
theorem digitChar_digitValue {c : Char} (h : (digitValue? c).isSome = true) :
    digitChar (digitValue c) = c := by
  obtain ⟨hnumber, hsmall⟩ := toNat_of_digit h
  rw [digitChar, Nat.mod_eq_of_lt hsmall]
  exact hnumber ▸ Char.ofNat_toNat c

/-- Digits are those that are written for the number for which they stand. -/
theorem fixedDigits_decimalValue {text : List Char} (h : AllDigits text) :
    fixedDigits text.length (decimalValue text) = text := by
  induction text using List.reverseRecOn with
  | nil => rfl
  | append_singleton init c ih =>
      have hinit : AllDigits init := fun d hd => h d (List.mem_append_left _ hd)
      have hc := h c (List.mem_append_right _ (List.mem_singleton_self c))
      have hvalue : decimalValue (init ++ [c]) = decimalValue init * 10 + digitValue c := by
        rw [decimalValue, List.foldl_append, ← decimalValue, List.foldl_cons, List.foldl_nil]
      have hsmall := (toNat_of_digit hc).2
      have hrest : (decimalValue init * 10 + digitValue c) / 10 = decimalValue init := by omega
      have hlast : digitChar (decimalValue init * 10 + digitValue c) = c := by
        rw [digitChar, Nat.mul_add_mod_self_right, ← digitChar, digitChar_digitValue hc]
      rw [List.length_append, List.length_singleton, fixedDigits, hvalue, hrest, ih hinit, hlast]

/-- A number that has so many digits is written with them, and with no others. -/
theorem paddedNumeral_iff {width n : Nat} {text : List Char} :
    PaddedNumeral width n text ↔ n < 10 ^ width ∧ text = fixedDigits width n := by
  constructor
  · rintro ⟨hdigits, rfl, rfl⟩
    have hback := fixedDigits_decimalValue hdigits
    have hvalue := decimalValue_fixedDigits text.length (decimalValue text)
    rw [hback] at hvalue
    exact ⟨hvalue ▸ Nat.mod_lt _ (by positivity), hback.symm⟩
  · rintro ⟨hlt, rfl⟩
    refine ⟨allDigits_fixedDigits width n, length_fixedDigits width n, ?_⟩
    rw [decimalValue_fixedDigits, Nat.mod_eq_of_lt hlt]

end Text

namespace Instant

open Text

/-! ## Fractions of a second -/

/-- The text is the fraction of a second with so many nanoseconds: nothing if there are none, and
else a point and the fewest digits, of three, six and nine, that are exact. -/
inductive FractionOf : Nat → List Char → Prop where
  | whole : FractionOf 0 []
  | places {places value : Nat} {digits : List Char} (hplaces : places ∈ [3, 6, 9])
      (hpos : 0 < value) (hdigits : PaddedNumeral places value digits)
      (hfewest : ∀ fewer ∈ [3, 6, 9], fewer < places → ¬ 10 ^ (places - fewer) ∣ value) :
      FractionOf (value * 10 ^ (9 - places)) ('.' :: digits)

/-- A fraction of less than a second is written in one way. -/
theorem FractionOf.eq_fractionText {t : Instant} {nano : Nat} {text : List Char}
    (h : FractionOf nano text) (hnano : t.nano % 1_000_000_000 = nano) : text = t.fractionText := by
  unfold fractionText
  simp only [hnano]
  cases h with
  | whole => rfl
  | @places places value digits hplaces hpos hdigits hfewest =>
      obtain ⟨_, rfl⟩ := paddedNumeral_iff.1 hdigits
      obtain rfl | rfl | rfl : places = 3 ∨ places = 6 ∨ places = 9 := by simpa using hplaces
      · have hback : value * 10 ^ (9 - 3) / 1_000_000 = value := by omega
        rw [if_neg (by omega), if_pos (by omega), hback]
      · have hthree : ¬ 10 ^ (6 - 3) ∣ value := hfewest 3 (by decide) (by decide)
        have hback : value * 10 ^ (9 - 6) / 1_000 = value := by omega
        rw [if_neg (by omega), if_neg (by omega), if_pos (by omega), hback]
      · have hsix : ¬ 10 ^ (9 - 6) ∣ value := hfewest 6 (by decide) (by decide)
        rw [if_neg (by omega), if_neg (by omega), if_neg (by omega)]
        simp

/-- What is so of every number of digits is so of three, six and nine. -/
theorem forall_places {p : Nat → Prop} : (∀ places ∈ [3, 6, 9], p places) ↔ p 3 ∧ p 6 ∧ p 9 := by
  simp

/-- What is written is the fraction of the instant's nanoseconds. -/
theorem fractionOf_fractionText (t : Instant) :
    FractionOf (t.nano % 1_000_000_000) t.fractionText := by
  unfold fractionText
  simp only
  have hlt : t.nano % 1_000_000_000 < 1_000_000_000 := Nat.mod_lt _ (by decide)
  generalize t.nano % 1_000_000_000 = nano at hlt
  -- The fraction with so many digits, if these are exact and no fewer are.
  have hplaces {places value : Nat} (hmem : places ∈ [3, 6, 9]) (hpos : 0 < value)
      (hvalue : value < 10 ^ places) (hexact : value * 10 ^ (9 - places) = nano)
      (hfewest : ∀ fewer ∈ [3, 6, 9], fewer < places → ¬ 10 ^ (places - fewer) ∣ value) :
      FractionOf nano ('.' :: fixedDigits places value) :=
    hexact ▸ .places hmem hpos (paddedNumeral_iff.2 ⟨hvalue, rfl⟩) hfewest
  split
  · next hzero => exact hzero ▸ .whole
  · split
    · exact hplaces (by decide) (by omega) (by omega) (by omega)
        (forall_places.2 ⟨by omega, by omega, by omega⟩)
    · split
      · exact hplaces (by decide) (by omega) (by omega) (by omega)
          (forall_places.2 ⟨by omega, by omega, by omega⟩)
      · exact hplaces (by decide) (by omega) (by omega) (by omega)
          (forall_places.2 ⟨by omega, by omega, by omega⟩)

end Instant

/-! ## Dates and times of day -/

/-- A date and a time of day, in the numbers that are written. -/
structure Stamp where
  date : Date
  hour : Nat
  minute : Nat
  second : Nat
  nano : Nat

namespace Stamp

open Text

/-- Is there such a date, in the years from 0 to 9999, and such a time of day? The second with the
number 60 is a leap second. -/
structure Valid (stamp : Stamp) : Prop where
  date : stamp.date.Valid
  year : 0 ≤ stamp.date.year ∧ stamp.date.year ≤ 9999
  hour : stamp.hour < 24
  minute : stamp.minute < 60
  second : stamp.second ≤ 60
  nano : stamp.nano < 1_000_000_000

/-- The instant with the date and the time of day. It has a leap second as nanoseconds of the second
before it. -/
def instant (stamp : Stamp) : Instant where
  second := stamp.date.dayNumber * 86400 + stamp.hour * 3600 + stamp.minute * 60 +
    min stamp.second 59
  nano := stamp.nano + stamp.second / 60 * 1_000_000_000

/-- The text has the form of stored instants and the numbers of the stamp. -/
inductive SpelledBy (stamp : Stamp) : List Char → Prop where
  | parts {year month day hour minute second fraction : List Char}
      (hyear : PaddedNumeral 4 stamp.date.year.toNat year)
      (hmonth : PaddedNumeral 2 stamp.date.month month)
      (hday : PaddedNumeral 2 stamp.date.day day) (hhour : PaddedNumeral 2 stamp.hour hour)
      (hminute : PaddedNumeral 2 stamp.minute minute)
      (hsecond : PaddedNumeral 2 stamp.second second)
      (hfraction : Instant.FractionOf stamp.nano fraction) :
      SpelledBy stamp (year ++ ['-'] ++ month ++ ['-'] ++ day ++ ['T'] ++ hour ++ [':'] ++ minute ++
        [':'] ++ second ++ fraction ++ ['+', '0', '0', ':', '0', '0'])

end Stamp

namespace Instant

open Text

/-- The date and the time of day of an instant. -/
def stamp (t : Instant) : Stamp where
  date := t.date
  hour := t.secondOfDay / 3600
  minute := t.secondOfDay / 60 % 60
  second := t.secondOfDay % 60 + t.nano / 1_000_000_000
  nano := t.nano % 1_000_000_000

variable {t : Instant}

/-- An instant is the one with its date and its time of day. -/
theorem instant_stamp (h : t.WellFormed) : t.stamp.instant = t := by
  have hday : t.date.dayNumber = t.second / 86400 := Date.dayNumber_ofDay t.dayNumber
  have hclock : (t.secondOfDay : Int) = t.second % 86400 := by unfold secondOfDay; omega
  unfold WellFormed at h
  simp only [stamp, Stamp.instant, hday]
  generalize t.secondOfDay = clock at hclock
  cases t with
  | mk second nano =>
      simp only at h hclock ⊢
      congr 1 <;> omega

/-- What can be stored has a date and a time of day that there are. -/
theorem valid_stamp (h : t.Storable) : t.stamp.Valid where
  date := Date.valid_ofDay t.dayNumber
  year := ⟨h.1, h.2.1⟩
  hour := by
    show t.secondOfDay / 3600 < 24
    unfold secondOfDay
    omega
  minute := Nat.mod_lt _ (by decide)
  second := by
    show t.secondOfDay % 60 + t.nano / 1_000_000_000 ≤ 60
    obtain ⟨_, _, hnano⟩ := h
    unfold secondOfDay
    omega
  nano := Nat.mod_lt _ (by decide)

end Instant

/-- A date and a time of day that there are belong to an instant that can be stored, and to no other
date and time of day. -/
theorem Stamp.Valid.stamp_instant {stamp : Stamp} (h : stamp.Valid) :
    stamp.instant.Storable ∧ stamp.instant.stamp = stamp := by
  obtain ⟨hdate, hyear, hhour, hminute, hsecond, hnano⟩ := h
  have hday : stamp.instant.dayNumber = stamp.date.dayNumber := by
    simp only [Instant.dayNumber, Stamp.instant]
    omega
  have hclock : stamp.instant.secondOfDay =
      stamp.hour * 3600 + stamp.minute * 60 + min stamp.second 59 := by
    simp only [Instant.secondOfDay, Stamp.instant]
    omega
  have hsame : stamp.instant.date = stamp.date := by
    rw [Instant.date, hday, Date.ofDay_dayNumber hdate]
  constructor
  · refine ⟨hsame ▸ hyear.1, hsame ▸ hyear.2, ?_⟩
    simp only [Stamp.instant]
    omega
  · cases stamp with
    | mk date hour minute second nano =>
        simp only [Instant.stamp, hsame, hclock]
        simp only [Stamp.instant, Stamp.mk.injEq, true_and] at *
        omega

namespace Instant

open Text

variable {t : Instant}

/-- What is stored of an instant is how its date and time of day are spelled. -/
theorem spelledBy_stamp_iff (h : t.Storable) {text : List Char} :
    t.stamp.SpelledBy text ↔ text = t.stored := by
  have hstored : t.stored = fixedDigits 4 t.date.year.toNat ++ ['-'] ++
      fixedDigits 2 t.date.month ++ ['-'] ++ fixedDigits 2 t.date.day ++ ['T'] ++
      fixedDigits 2 t.stamp.hour ++ [':'] ++ fixedDigits 2 t.stamp.minute ++ [':'] ++
      fixedDigits 2 t.stamp.second ++ t.fractionText ++ ['+', '0', '0', ':', '0', '0'] := by
    rw [stored, dateText_eq ⟨h.1, h.2.1⟩, clockText]
    simp [stamp]
  rw [hstored]
  constructor
  · intro hspelled
    cases hspelled with
    | parts hyear hmonth hday hhour hminute hsecond hfraction =>
        obtain ⟨_, rfl⟩ := paddedNumeral_iff.1 hyear
        obtain ⟨_, rfl⟩ := paddedNumeral_iff.1 hmonth
        obtain ⟨_, rfl⟩ := paddedNumeral_iff.1 hday
        obtain ⟨_, rfl⟩ := paddedNumeral_iff.1 hhour
        obtain ⟨_, rfl⟩ := paddedNumeral_iff.1 hminute
        obtain ⟨_, rfl⟩ := paddedNumeral_iff.1 hsecond
        rw [hfraction.eq_fractionText rfl]
        rfl
  · intro htext
    rw [htext]
    obtain ⟨hdate, hyear, hhour, hminute, hsecond, _⟩ := valid_stamp h
    have hmonth : t.stamp.date.month ≤ 12 := hdate.2.1
    have hday : t.stamp.date.day ≤ 31 := Nat.le_trans hdate.2.2.2 (Date.daysInMonth_le _ _)
    exact .parts (paddedNumeral_iff.2 ⟨by omega, rfl⟩) (paddedNumeral_iff.2 ⟨by omega, rfl⟩)
      (paddedNumeral_iff.2 ⟨by omega, rfl⟩) (paddedNumeral_iff.2 ⟨by omega, rfl⟩)
      (paddedNumeral_iff.2 ⟨by omega, rfl⟩) (paddedNumeral_iff.2 ⟨by omega, rfl⟩)
      (fractionOf_fractionText t)

/-- The text is what is to be stored of the instant: it spells a date and a time of day that there
are, and the instant is the one with these. -/
def StoredAs (t : Instant) (text : List Char) : Prop :=
  ∃ stamp : Stamp, stamp.Valid ∧ stamp.instant = t ∧ stamp.SpelledBy text

/-- What is to be stored of an instant is what the store keeps of it, if it can be stored, and
nothing else. -/
theorem storedAs_iff {text : List Char} : t.StoredAs text ↔ t.Storable ∧ text = t.stored := by
  constructor
  · rintro ⟨stamp, hvalid, rfl, hspelled⟩
    obtain ⟨hstorable, hstamp⟩ := hvalid.stamp_instant
    refine ⟨hstorable, (spelledBy_stamp_iff hstorable).1 ?_⟩
    rwa [hstamp]
  · rintro ⟨hstorable, rfl⟩
    exact ⟨t.stamp, valid_stamp hstorable, instant_stamp hstorable.2.2,
      (spelledBy_stamp_iff hstorable).2 rfl⟩

/-! ## Bytes -/

/-- The bytes that the store keeps of an instant. -/
def storedBytes (t : Instant) : List UInt8 :=
  writeUtf8 (String.ofList t.stored)

/-- The store compares instants by their bytes. -/
theorem storedLe_iff_storedBytes {a b : Instant} :
    a.storedLe b = true ↔ a.storedBytes ≤ b.storedBytes := by
  rw [storedLe, Bool.not_eq_true', decide_eq_false_iff_not, ← List.not_lt, storedBytes, storedBytes,
    writeUtf8_lt_iff, String.toList_ofList, String.toList_ofList]

/-- The store compares instants by their bytes. -/
theorem storedLt_iff_storedBytes {a b : Instant} :
    a.storedLt b = true ↔ a.storedBytes < b.storedBytes := by
  rw [storedLt, decide_eq_true_iff, storedBytes, storedBytes, writeUtf8_lt_iff,
    String.toList_ofList, String.toList_ofList]

end Instant

end WorkQueue
