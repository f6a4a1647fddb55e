import WorkQueue.Time.Instant
import WorkQueue.Text.Digits

/-!
# Written instants

The forms in which an instant is written: the stored form, the RFC 3339 form of the wire, the
form of log lines and the form of the command line. All share one layout; they differ in the
separator between date and time, in what stands for UTC, and in the fraction of a second, which
is left out where it is zero and has otherwise the fewest of three, six or nine digits that are
exact. The store compares instants by their stored form, one character after the other.
-/

namespace WorkQueue.Instant

open Text

/-- A year: four digits, and outside of those a sign and at least four digits. -/
def yearText (year : Int) : List Char :=
  let n := year.natAbs
  if year < 0 then '-' :: fixedDigits (max 4 (digitCount n)) n
  else if 9999 < year then '+' :: fixedDigits (max 4 (digitCount n)) n
  else fixedDigits 4 n

/-- A date: year, month and day with hyphens between them. -/
def dateText (date : Date) : List Char :=
  yearText date.year ++ ['-'] ++ fixedDigits 2 date.month ++ ['-'] ++ fixedDigits 2 date.day

/-- The time of day: hours, minutes and seconds with colons between them. A leap second is the
second with the number 60. -/
def clockText (t : Instant) : List Char :=
  fixedDigits 2 (t.secondOfDay / 3600) ++ [':'] ++ fixedDigits 2 (t.secondOfDay / 60 % 60) ++
    [':'] ++ fixedDigits 2 (t.secondOfDay % 60 + t.nano / 1_000_000_000)

/-- The fraction of a second, with its point. -/
def fractionText (t : Instant) : List Char :=
  let nano := t.nano % 1_000_000_000
  if nano = 0 then []
  else if nano % 1_000_000 = 0 then '.' :: fixedDigits 3 (nano / 1_000_000)
  else if nano % 1_000 = 0 then '.' :: fixedDigits 6 (nano / 1_000)
  else '.' :: fixedDigits 9 nano

/-- The form in which the store keeps an instant. -/
def stored (t : Instant) : List Char :=
  dateText t.date ++ ['T'] ++ t.clockText ++ t.fractionText ++ ['+', '0', '0', ':', '0', '0']

/-- The form of the wire: RFC 3339, with `Z` for UTC. -/
def rfc3339 (t : Instant) : String :=
  String.ofList (dateText t.date ++ ['T'] ++ t.clockText ++ t.fractionText ++ ['Z'])

/-- The form of log lines. -/
def logged (t : Instant) : String :=
  String.ofList (dateText t.date ++ [' '] ++ t.clockText ++ t.fractionText) ++ " UTC"

/-- The form of the command line: to the second. -/
def toTheSecond (t : Instant) : String :=
  String.ofList (dateText t.date ++ [' '] ++ t.clockText)

/-- Does the stored form of the first instant come no later than that of the second? -/
def storedLe (a b : Instant) : Bool :=
  !decide (b.stored < a.stored)

/-- Does the stored form of the first instant come before that of the second? -/
def storedLt (a b : Instant) : Bool :=
  decide (a.stored < b.stored)

end WorkQueue.Instant
