import WorkQueue.Proofs.Time.DateOrder
import WorkQueue.Time.Written
import Mathlib.Tactic.Positivity

/-!
# Stored instants are ordered as instants

The store compares instants as texts. In the years from 0 to 9999 that is the order of the instants
themselves: dates and times of day are written with digits of fixed numbers, most significant first,
and what follows a fraction of a second that is cut short comes before every digit. Leap seconds
are no exception: they are written with the number 60, behind all other seconds of their minute.
A clock may show an earlier year and is still compared with stored instants as it should be, since
the text of such a year begins with a minus sign.
-/

namespace WorkQueue

namespace Text

/-- Texts that differ in their first parts, of one length, are ordered as these. -/
theorem append_lt_append {a b : List Char} (hlength : a.length = b.length) (h : a < b)
    (x y : List Char) : a ++ x < b ++ y := by
  induction a generalizing b with
  | nil =>
      cases b with
      | nil => exact absurd h (List.lt_irrefl [])
      | cons d rest => cases hlength
  | cons c more ih =>
      cases b with
      | nil => cases hlength
      | cons d rest =>
          rcases List.cons_lt_cons_iff.1 h with hlt | ⟨rfl, hrest⟩
          · exact List.cons_lt_cons_iff.2 (.inl hlt)
          · exact List.cons_lt_cons_iff.2 (.inr ⟨rfl, ih (Nat.succ.inj hlength) hrest⟩)

/-- Digits are ordered as their values. -/
theorem digitChar_lt {m n : Nat} (h : m % 10 < n % 10) : digitChar m < digitChar n := by
  have hdigits : ∀ i j : Fin 10, i < j → Char.ofNat (48 + i.val) < Char.ofNat (48 + j.val) := by
    decide
  exact hdigits ⟨m % 10, Nat.mod_lt m (by decide)⟩ ⟨n % 10, Nat.mod_lt n (by decide)⟩ h

/-- A plus sign comes before every digit. -/
theorem plus_lt_digitChar (n : Nat) : '+' < digitChar n := by
  have hdigits : ∀ i : Fin 10, '+' < Char.ofNat (48 + i.val) := by
    decide
  exact hdigits ⟨n % 10, Nat.mod_lt n (by decide)⟩

/-- A minus sign comes before every digit. -/
theorem minus_lt_digitChar (n : Nat) : '-' < digitChar n := by
  have hdigits : ∀ i : Fin 10, '-' < Char.ofNat (48 + i.val) := by
    decide
  exact hdigits ⟨n % 10, Nat.mod_lt n (by decide)⟩

/-- Digits of a fixed number are ordered as the numbers that they stand for. -/
theorem fixedDigits_lt {width m n : Nat} (h : m < n) (hn : n < 10 ^ width) :
    fixedDigits width m < fixedDigits width n := by
  induction width generalizing m n with
  | zero => omega
  | succ width ih =>
      rw [Nat.pow_succ] at hn
      obtain hlt | ⟨heq, hlt⟩ : m / 10 < n / 10 ∨ m / 10 = n / 10 ∧ m % 10 < n % 10 := by omega
      · exact append_lt_append (by simp) (ih hlt (by omega)) _ _
      · rw [fixedDigits, fixedDigits, heq]
        exact List.append_left_lt (List.cons_lt_cons_iff.2 (.inl (digitChar_lt hlt)))

/-- The last digits of a number stand behind those of its quotient. -/
theorem fixedDigits_add (width more n : Nat) :
    fixedDigits (width + more) n = fixedDigits width (n / 10 ^ more) ++ fixedDigits more n := by
  induction more generalizing n with
  | zero => simp [fixedDigits]
  | succ more ih =>
      rw [Nat.add_succ, fixedDigits, fixedDigits, ih, Nat.div_div_eq_div_mul, Nat.pow_succ',
        List.append_assoc]

/-- A plus sign comes before digits. -/
theorem plus_lt_fixedDigits (width n : Nat) (rest : List Char) :
    '+' :: rest < fixedDigits (width + 1) n ++ '+' :: rest := by
  rw [Nat.add_comm, fixedDigits_add]
  exact List.cons_lt_cons_iff.2 (.inl (plus_lt_digitChar _))

/-- Decimal fractions that may be cut short, with a plus sign behind them, are ordered as the
numbers that they stand for. -/
theorem fraction_lt {width width' more more' m n : Nat} (h : m * 10 ^ more < n * 10 ^ more')
    (hn : n < 10 ^ width') (hwidth : width + more = width' + more') (rest : List Char) :
    fixedDigits width m ++ '+' :: rest < fixedDigits width' n ++ '+' :: rest := by
  obtain ⟨extra, rfl⟩ | ⟨extra, rfl⟩ :
      (∃ extra, width' = width + extra) ∨ ∃ extra, width = width' + extra := by
    rcases Nat.le_total width width' with hle | hle
    · exact .inl ⟨width' - width, by omega⟩
    · exact .inr ⟨width - width', by omega⟩
  · -- The first is the shorter one: it comes first by its digits, or it is how the second begins.
    have hmore : more = more' + extra := by omega
    have hle : m * 10 ^ extra < n := by
      rw [hmore, Nat.pow_add, ← Nat.mul_assoc, Nat.mul_right_comm] at h
      exact Nat.lt_of_mul_lt_mul_right h
    rw [fixedDigits_add, List.append_assoc]
    rcases Nat.lt_or_eq_of_le ((Nat.le_div_iff_mul_le (by positivity)).2 hle.le) with hlt | heq
    · refine append_lt_append (by simp) (fixedDigits_lt hlt ?_) _ _
      rw [Nat.pow_add] at hn
      exact Nat.div_lt_of_lt_mul (by rwa [Nat.mul_comm])
    · rw [← heq]
      refine List.append_left_lt ?_
      cases extra with
      | zero => simp at heq hle; omega
      | succ extra => exact plus_lt_fixedDigits extra n rest
  · -- The second is the shorter one, and the first cannot begin with it.
    have hmore : more' = more + extra := by omega
    have hlt : m / 10 ^ extra < n := by
      rw [hmore, Nat.pow_add, ← Nat.mul_assoc, Nat.mul_right_comm] at h
      exact Nat.div_lt_of_lt_mul (by rw [Nat.mul_comm]; exact Nat.lt_of_mul_lt_mul_right h)
    rw [fixedDigits_add, List.append_assoc]
    exact append_lt_append (by simp) (fixedDigits_lt hlt hn) _ _

end Text

namespace Instant

open Text

/-- Is the instant in the years from 0 to 9999, with a leap second only at the end of a minute? -/
def Storable (t : Instant) : Prop :=
  0 ≤ t.date.year ∧ t.date.year ≤ 9999 ∧
    (t.nano < 1_000_000_000 ∨ t.second % 60 = 59 ∧ t.nano < 2_000_000_000)

/-- Whether an instant is storable is decided by comparing numbers. -/
instance (t : Instant) : Decidable t.Storable :=
  inferInstanceAs (Decidable (_ ∧ _))

/-- The date of an instant in the years from 0 to 9999 has ten characters. -/
theorem dateText_eq {date : Date} (h : 0 ≤ date.year ∧ date.year ≤ 9999) :
    dateText date = fixedDigits 4 date.year.toNat ++
      ('-' :: fixedDigits 2 date.month ++ '-' :: fixedDigits 2 date.day) := by
  have hyear : yearText date.year = fixedDigits 4 date.year.toNat := by
    rw [yearText, if_neg (by omega), if_neg (by omega)]
    congr 1
    omega
  rw [dateText, hyear]
  simp

/-- Dates with higher ranks are written as later texts. -/
theorem dateText_lt {a b : Date} (ha : 0 ≤ a.year ∧ a.year ≤ 9999)
    (hb : 0 ≤ b.year ∧ b.year ≤ 9999) (hamonth : a.month ≤ 12) (hbmonth : b.month ≤ 12)
    (haday : a.day ≤ 31) (hbday : b.day ≤ 31) (h : a.rank < b.rank) : dateText a < dateText b := by
  unfold Date.rank at h
  rw [dateText_eq ha, dateText_eq hb]
  obtain hyear | ⟨hyear, hmonth⟩ | ⟨hyear, hmonth, hday⟩ :
      a.year < b.year ∨ a.year = b.year ∧ a.month < b.month ∨
        a.year = b.year ∧ a.month = b.month ∧ a.day < b.day := by omega
  · exact append_lt_append (by simp) (fixedDigits_lt (by omega) (by omega)) _ _
  · rw [hyear]
    refine List.append_left_lt (List.cons_lt_cons_iff.2 (.inr ⟨rfl, ?_⟩))
    exact append_lt_append (by simp) (fixedDigits_lt hmonth (by omega)) _ _
  · rw [hyear, hmonth]
    refine List.append_left_lt (List.append_left_lt (List.cons_lt_cons_iff.2 (.inr ⟨rfl, ?_⟩)))
    exact fixedDigits_lt hday (by omega)

/-- The time of day has eight characters. -/
theorem length_clockText (t : Instant) : t.clockText.length = 8 := by
  simp [clockText]

/-- The date of a storable instant has ten characters. -/
theorem length_dateText {t : Instant} (h : t.Storable) : (dateText t.date).length = 10 := by
  rw [dateText_eq ⟨h.1, h.2.1⟩]
  simp

variable {a b : Instant}

/-- Later times of day are written as later texts. A leap second is behind the second before it. -/
theorem clockText_lt (ha : a.Storable) (hb : b.Storable)
    (h : a.secondOfDay < b.secondOfDay ∨
      a.secondOfDay = b.secondOfDay ∧ a.nano / 1_000_000_000 < b.nano / 1_000_000_000) :
    a.clockText < b.clockText := by
  have hday : b.secondOfDay < 86400 := by unfold secondOfDay; omega
  have hleap : a.nano / 1_000_000_000 = 0 ∨
      a.secondOfDay % 60 = 59 ∧ a.nano / 1_000_000_000 = 1 := by
    obtain ⟨_, _, hnano⟩ := ha
    unfold secondOfDay
    omega
  have hleap' : b.nano / 1_000_000_000 ≤ 1 := by
    obtain ⟨_, _, hnano⟩ := hb
    omega
  simp only [clockText, List.append_assoc, List.singleton_append]
  obtain hhour | ⟨hhour, hminute⟩ | ⟨hhour, hminute, hsecond⟩ :
      a.secondOfDay / 3600 < b.secondOfDay / 3600 ∨
        a.secondOfDay / 3600 = b.secondOfDay / 3600 ∧
          a.secondOfDay / 60 % 60 < b.secondOfDay / 60 % 60 ∨
        a.secondOfDay / 3600 = b.secondOfDay / 3600 ∧
          a.secondOfDay / 60 % 60 = b.secondOfDay / 60 % 60 ∧
          a.secondOfDay % 60 + a.nano / 1_000_000_000 <
            b.secondOfDay % 60 + b.nano / 1_000_000_000 := by omega
  · exact append_lt_append (by simp) (fixedDigits_lt hhour (by omega)) _ _
  · rw [hhour]
    refine List.append_left_lt (List.cons_lt_cons_iff.2 (.inr ⟨rfl, ?_⟩))
    exact append_lt_append (by simp) (fixedDigits_lt hminute (by omega)) _ _
  · rw [hhour, hminute]
    refine List.append_left_lt (List.cons_lt_cons_iff.2 (.inr ⟨rfl, ?_⟩))
    refine List.append_left_lt (List.cons_lt_cons_iff.2 (.inr ⟨rfl, ?_⟩))
    exact fixedDigits_lt hsecond (by omega)

/-- The fraction of a second has as many digits as it needs: none, or some after a point. -/
theorem exists_fraction (t : Instant) :
    t.nano % 1_000_000_000 = 0 ∧ t.fractionText = [] ∨
      ∃ width more value, width + more = 9 ∧ value * 10 ^ more = t.nano % 1_000_000_000 ∧
        value < 10 ^ width ∧ 0 < value ∧ t.fractionText = '.' :: fixedDigits width value := by
  unfold fractionText
  simp only
  generalize hnano : t.nano % 1_000_000_000 = nano
  have hlt : nano < 1_000_000_000 := by omega
  split
  · exact .inl ⟨by assumption, rfl⟩
  · refine .inr ?_
    split
    · exact ⟨3, 6, nano / 1_000_000, rfl, by omega, by omega, by omega, rfl⟩
    · split
      · exact ⟨6, 3, nano / 1_000, rfl, by omega, by omega, by omega, rfl⟩
      · exact ⟨9, 0, nano, rfl, by omega, by omega, by omega, rfl⟩

/-- Later fractions of a second are written as later texts, with a plus sign behind them. -/
theorem fractionText_lt (h : a.nano % 1_000_000_000 < b.nano % 1_000_000_000)
    (rest : List Char) : a.fractionText ++ '+' :: rest < b.fractionText ++ '+' :: rest := by
  rcases exists_fraction b with
    ⟨hzero, _⟩ | ⟨width', more', value', hwidth', hvalue', hlt', _, htext'⟩
  · omega
  rw [htext']
  rcases exists_fraction a with ⟨_, htext⟩ | ⟨width, more, value, hwidth, hvalue, _, _, htext⟩
  · rw [htext]
    exact List.cons_lt_cons_iff.2 (.inl (by decide))
  · have hscaled : value * 10 ^ more < value' * 10 ^ more' := by rwa [hvalue, hvalue']
    rw [htext]
    refine List.cons_lt_cons_iff.2 (.inr ⟨rfl, ?_⟩)
    exact fraction_lt hscaled hlt' (hwidth.trans hwidth'.symm) rest

/-- Of two storable instants the later is written as the later text. -/
theorem stored_lt_of_not_le (ha : a.Storable) (hb : b.Storable) (h : ¬ b ≤ a) :
    a.stored < b.stored := by
  rw [le_iff] at h
  simp only [stored, List.append_assoc]
  obtain hday | ⟨hday, hclock⟩ | ⟨hday, hsecond, hleap, hnano⟩ :
      a.dayNumber < b.dayNumber ∨
        a.dayNumber = b.dayNumber ∧
          (a.secondOfDay < b.secondOfDay ∨ a.secondOfDay = b.secondOfDay ∧
            a.nano / 1_000_000_000 < b.nano / 1_000_000_000) ∨
        a.dayNumber = b.dayNumber ∧ a.secondOfDay = b.secondOfDay ∧
          a.nano / 1_000_000_000 = b.nano / 1_000_000_000 ∧
          a.nano % 1_000_000_000 < b.nano % 1_000_000_000 := by
    unfold dayNumber secondOfDay
    omega
  · obtain ⟨_, hamonth, _, haday⟩ := Date.ofDay_bounds a.dayNumber
    obtain ⟨_, hbmonth, _, hbday⟩ := Date.ofDay_bounds b.dayNumber
    refine append_lt_append ?_ (dateText_lt ⟨ha.1, ha.2.1⟩ ⟨hb.1, hb.2.1⟩ hamonth hbmonth haday
      hbday (Date.rank_lt_of_lt hday)) _ _
    rw [length_dateText ha, length_dateText hb]
  · have hdate : a.date = b.date := congrArg Date.ofDay hday
    rw [hdate]
    refine List.append_left_lt (List.append_left_lt ?_)
    refine append_lt_append ?_ (clockText_lt ha hb hclock) _ _
    rw [length_clockText, length_clockText]
  · have hdate : a.date = b.date := congrArg Date.ofDay hday
    have hclock : a.clockText = b.clockText := by
      unfold clockText
      rw [hsecond, hleap]
    rw [hdate, hclock]
    refine List.append_left_lt (List.append_left_lt (List.append_left_lt ?_))
    exact fractionText_lt hnano _

/-- Two instants of which none is later are one. -/
theorem eq_of_le_of_le (hle : a ≤ b) (hge : b ≤ a) : a = b := by
  rw [le_iff] at hle hge
  cases a
  cases b
  simp only [Instant.mk.injEq]
  simp only at hle hge
  omega

/-- For storable instants the order of the store is the order of instants. -/
theorem storedLe_iff (ha : a.Storable) (hb : b.Storable) : a.storedLe b = true ↔ a ≤ b := by
  rw [storedLe, Bool.not_eq_true', decide_eq_false_iff_not]
  constructor
  · intro hnot
    by_contra hle
    exact hnot (stored_lt_of_not_le hb ha hle)
  · intro hle hlt
    by_cases hge : b ≤ a
    · rw [eq_of_le_of_le hle hge] at hlt
      exact List.lt_irrefl _ hlt
    · exact List.lt_asymm hlt (stored_lt_of_not_le ha hb hge)

/-- Of two storable instants one comes before the other in the store if it is not later. -/
theorem storedLt_iff (ha : a.Storable) (hb : b.Storable) : a.storedLt b = true ↔ ¬ b ≤ a := by
  rw [← storedLe_iff hb ha, storedLe, storedLt]
  simp

/-- Storable instants are stored as one text only if they are one. -/
theorem stored_eq_iff (ha : a.Storable) (hb : b.Storable) : a.stored = b.stored ↔ a = b := by
  refine ⟨fun hsame => ?_, congrArg stored⟩
  have hle : a.storedLe b = true := by simp [storedLe, hsame]
  have hge : b.storedLe a = true := by simp [storedLe, hsame]
  exact eq_of_le_of_le ((storedLe_iff ha hb).1 hle) ((storedLe_iff hb ha).1 hge)

/-! ## A clock in any year -/

/-- Has the instant a time of day, with a leap second only at the end of a minute? -/
def WellFormed (t : Instant) : Prop :=
  t.nano < 1_000_000_000 ∨ t.second % 60 = 59 ∧ t.nano < 2_000_000_000

/-- Whether an instant is well formed is decided by comparing numbers. -/
instance (t : Instant) : Decidable t.WellFormed :=
  inferInstanceAs (Decidable (_ ∨ _))

/-- A later instant is in no earlier year. -/
theorem year_le_of_le (h : a ≤ b) : a.date.year ≤ b.date.year := by
  have hday : a.dayNumber ≤ b.dayNumber := by
    rw [le_iff] at h
    unfold dayNumber
    omega
  rcases Int.lt_or_eq_of_le hday with hlt | hsame
  · have hrank := Date.rank_lt_of_lt hlt
    obtain ⟨_, hamonth, _, haday⟩ := Date.ofDay_bounds a.dayNumber
    obtain ⟨_, hbmonth, _, hbday⟩ := Date.ofDay_bounds b.dayNumber
    unfold Date.rank at hrank
    unfold date
    omega
  · unfold date
    rw [hsame]

/-- A storable instant is stored as a text that begins with a digit. -/
theorem exists_stored_eq_cons (ha : a.Storable) :
    ∃ n rest, a.stored = digitChar n :: rest := by
  rw [stored, dateText_eq ⟨ha.1, ha.2.1⟩, Text.fixedDigits_add 1 3]
  exact ⟨_, _, rfl⟩

/-- Before the year 0 an instant is stored as a text that begins with a minus sign. -/
theorem exists_stored_eq_minus (h : a.date.year < 0) : ∃ rest, a.stored = '-' :: rest := by
  rw [stored, dateText, yearText, if_pos h]
  exact ⟨_, rfl⟩

/-- A clock that is not past the year 9999 tells by the order of the store whether a storable instant
has passed. Before the year 0 none has. -/
theorem storedLe_iff_of_year_le (ha : a.Storable) (hb : b.WellFormed) (hyear : b.date.year ≤ 9999) :
    a.storedLe b = true ↔ a ≤ b := by
  by_cases hnegative : b.date.year < 0
  · obtain ⟨rest, hb'⟩ := exists_stored_eq_minus hnegative
    obtain ⟨n, more, ha'⟩ := exists_stored_eq_cons ha
    have hlt : b.stored < a.stored := by
      rw [ha', hb']
      exact List.cons_lt_cons_iff.2 (.inl (minus_lt_digitChar n))
    refine iff_of_false (by simp [storedLe, hlt]) fun hle => ?_
    have hyears := year_le_of_le hle
    have hleast := ha.1
    omega
  · exact storedLe_iff ha ⟨Int.not_lt.1 hnegative, hyear, hb⟩

/-! ## A lifetime that ends in any year -/

/-- After the year 9999 an instant is stored as a text that begins with a plus sign. -/
theorem exists_stored_eq_plus (h : 9999 < a.date.year) : ∃ rest, a.stored = '+' :: rest := by
  rw [stored, dateText, yearText, if_neg (by omega), if_pos h]
  exact ⟨_, rfl⟩

/-- Of two instants one is no later than the other. -/
theorem le_total (a b : Instant) : a ≤ b ∨ b ≤ a := by
  simp only [le_iff]
  omega

/-- A clock in the years from 0 to 9999 tells by the order of the store that an instant has passed
if it has, but also if the instant is after the year 9999. -/
theorem storedLe_iff_of_storable (ha : a.WellFormed) (hb : b.Storable) :
    a.storedLe b = true ↔ a ≤ b ∨ 9999 < a.date.year := by
  obtain ⟨n, rest, hb'⟩ := exists_stored_eq_cons hb
  by_cases hlate : 9999 < a.date.year
  · obtain ⟨more, ha'⟩ := exists_stored_eq_plus hlate
    have hlt : a.stored < b.stored := by
      rw [ha', hb']
      exact List.cons_lt_cons_iff.2 (.inl (plus_lt_digitChar n))
    exact iff_of_true (by simp [storedLe, List.lt_asymm hlt]) (.inr hlate)
  · rw [or_iff_left hlate]
    by_cases hnegative : a.date.year < 0
    · obtain ⟨more, ha'⟩ := exists_stored_eq_minus hnegative
      have hlt : a.stored < b.stored := by
        rw [ha', hb']
        exact List.cons_lt_cons_iff.2 (.inl (minus_lt_digitChar n))
      refine iff_of_true (by simp [storedLe, List.lt_asymm hlt]) ?_
      refine (le_total a b).resolve_right fun hge => ?_
      have hyears := year_le_of_le hge
      have hleast := hb.1
      omega
    · exact storedLe_iff ⟨Int.not_lt.1 hnegative, Int.not_lt.1 hlate, ha⟩ hb

end Instant

end WorkQueue
