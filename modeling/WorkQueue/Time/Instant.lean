import WorkQueue.Time.Calendar
import WorkQueue.Width

/-!
# Instants and durations

An instant is a second of UTC, counted from 1970, and a number of nanoseconds into it. A second
that is followed by a leap second is twice as long: its nanoseconds run up to two thousand
million. The calendar that instants are taken from is finite, so moving an instant may leave it.
-/

namespace WorkQueue

/-- A length of time, in nanoseconds; it may be negative. -/
structure Duration where
  nanos : Int
  deriving DecidableEq, Repr

namespace Duration

/-- The largest number of whole seconds that a duration given in seconds may have, forwards or
backwards: a duration has fewer than `half64` milliseconds. -/
def maxSeconds : Int :=
  (half64 - 1) / 1000

/-- A number of seconds. -/
def ofSeconds (seconds : Int) : Duration :=
  ⟨seconds * 1_000_000_000⟩

/-- A number of milliseconds. -/
def ofMillis (millis : Int) : Duration :=
  ⟨millis * 1_000_000⟩

/-- A number of minutes, unless it is more than a duration can have. -/
def ofMinutes? (minutes : Int) : Option Duration :=
  if -maxSeconds ≤ 60 * minutes ∧ 60 * minutes ≤ maxSeconds then some (ofSeconds (60 * minutes))
  else none

/-- Does the duration lead backwards? -/
def isNegative (duration : Duration) : Bool :=
  duration.nanos < 0

end Duration

/-- A moment of UTC, to the nanosecond. `nano` is below a thousand million, or below two thousand
million in a second that a leap second follows. -/
structure Instant where
  second : Int
  nano : Nat
  deriving DecidableEq, Repr

namespace Instant

/-- Instants are ordered by their seconds, then by their nanoseconds. -/
instance : LE Instant :=
  ⟨fun a b => a.second < b.second ∨ a.second = b.second ∧ a.nano ≤ b.nano⟩

/-- The order compares numbers. -/
instance (a b : Instant) : Decidable (a ≤ b) :=
  inferInstanceAs (Decidable (_ ∨ _))

/-- The order of instants in terms of their fields. -/
theorem le_iff {a b : Instant} :
    a ≤ b ↔ a.second < b.second ∨ a.second = b.second ∧ a.nano ≤ b.nano :=
  Iff.rfl

/-- The nanoseconds since the start of 1970, with a leap second counted on top. -/
def sinceEpoch (t : Instant) : Int :=
  t.second * 1_000_000_000 + t.nano

/-- The instant so many nanoseconds after the start of 1970. -/
def ofSinceEpoch (nanos : Int) : Instant :=
  ⟨nanos / 1_000_000_000, (nanos % 1_000_000_000).toNat⟩

/-- The day of the instant, counted from 1970-01-01. -/
def dayNumber (t : Instant) : Int :=
  t.second / 86400

/-- The seconds of its day before the instant's second. -/
def secondOfDay (t : Instant) : Nat :=
  (t.second % 86400).toNat

/-- The date of the instant. -/
def date (t : Instant) : Date :=
  Date.ofDay t.dayNumber

/-- The first day of the calendar. -/
def firstDay : Int :=
  Date.dayNumber ⟨-262143, 1, 1⟩

/-- The last day of the calendar. -/
def lastDay : Int :=
  Date.dayNumber ⟨262142, 12, 31⟩

/-- Is the instant within the calendar? -/
def InCalendar (t : Instant) : Prop :=
  firstDay ≤ t.dayNumber ∧ t.dayNumber ≤ lastDay

/-- The calendar is an interval of days. -/
instance (t : Instant) : Decidable t.InCalendar :=
  inferInstanceAs (Decidable (_ ∧ _))

/-- The instant moved by a duration, calendar or not. A leap second is left forwards as if it
had not been there, and backwards as if it were the second after it. -/
def shift (t : Instant) (span : Duration) : Instant :=
  if t.nano < 1_000_000_000 then ofSinceEpoch (t.sinceEpoch + span.nanos)
  else if 1_000_000_000 ≤ span.nanos ∨ 2_000_000_000 ≤ t.nano + span.nanos then
    ofSinceEpoch (t.sinceEpoch - 1_000_000_000 + span.nanos)
  else if span.nanos ≤ -1_000_000_000 then ofSinceEpoch (t.sinceEpoch + span.nanos)
  else ⟨t.second, (t.nano + span.nanos).toNat⟩

/-- The instant moved by a duration, unless that leaves the calendar. -/
def shift? (t : Instant) (span : Duration) : Option Instant :=
  let moved := t.shift span
  if moved.InCalendar then some moved else none

end Instant

end WorkQueue
