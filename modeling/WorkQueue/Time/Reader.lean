import WorkQueue.Time.Instant
import WorkQueue.Text.Blank
import WorkQueue.Text.Digits

/-!
# Reading instants

A reader for RFC 3339 dates and times with any offset. It is lenient where people are: blanks may
stand before each number and around the separators, a number may have fewer digits than it is
written with, a space may stand for the `T`, and a year may have a sign and then any number of
digits. Dates and times that do not exist are refused.
-/

namespace WorkQueue.Instant

open Text

/-- The rest of a text after blanks. -/
def skipBlanks (text : List Char) : List Char :=
  text.dropWhile isBlank

/-- The digits at the start of a text, at most `width` of them, and the rest. -/
def takeDigits : Nat → List Char → List Nat × List Char
  | 0, text => ([], text)
  | _, [] => ([], [])
  | width + 1, c :: rest =>
      match digitValue? c with
      | none => ([], c :: rest)
      | some digit =>
          let (digits, rest) := takeDigits width rest
          (digit :: digits, rest)

/-- The number with these digits. -/
def ofDigits (digits : List Nat) : Nat :=
  digits.foldl (fun n digit => n * 10 + digit) 0

/-- A number of at least one and at most `width` digits, after any blanks. -/
def readNumber (width : Nat) (text : List Char) : Option (Nat × List Char) :=
  match takeDigits width (skipBlanks text) with
  | ([], _) => none
  | (digits, rest) => some (ofDigits digits, rest)

/-- A year: at most four digits, or a sign and any number of digits. -/
def readYear (text : List Char) : Option (Int × List Char) :=
  match skipBlanks text with
  | '+' :: rest => do
      let (digits, rest) := takeDigits rest.length rest
      if digits.isEmpty then none else some ((ofDigits digits : Int), rest)
  | '-' :: rest => do
      let (digits, rest) := takeDigits rest.length rest
      if digits.isEmpty then none else some (-(ofDigits digits : Int), rest)
  | rest => do
      let (n, rest) ← readNumber 4 rest
      some ((n : Int), rest)

/-- One expected character, after any blanks. -/
def readMark (mark : Char) (text : List Char) : Option (List Char) :=
  match skipBlanks text with
  | c :: rest => if c = mark then some rest else none
  | [] => none

/-- A fraction of a second in nanoseconds, if there is one. Digits after the ninth are skipped. -/
def readFraction (text : List Char) : Option (Nat × List Char) :=
  match text with
  | '.' :: rest =>
      let (digits, rest) := takeDigits 9 rest
      if digits.isEmpty then none
      else some (ofDigits (digits ++ List.replicate (9 - digits.length) 0),
        rest.dropWhile fun c => (digitValue? c).isSome)
  | _ => some (0, text)

/-- Two digits, of which the first is at most `tens`. -/
def readPair (tens : Nat) (text : List Char) : Option (Nat × List Char) :=
  match text with
  | a :: b :: rest => do
      let high ← digitValue? a
      let low ← digitValue? b
      if high ≤ tens then some (high * 10 + low, rest) else none
  | _ => none

/-- Hours and minutes of an offset, in seconds; between them may stand colons and blanks. -/
def readHoursMinutes (text : List Char) : Option (Int × List Char) := do
  let (hours, rest) ← readPair 9 text
  let (minutes, rest) ← readPair 5 (rest.dropWhile fun c => c = ':' || isBlank c)
  some ((hours * 3600 + minutes * 60 : Nat), rest)

/-- An offset from UTC in seconds: `Z`, the letters `UTC`, or a sign with hours and minutes. -/
def readOffset (text : List Char) : Option (Int × List Char) :=
  match text with
  | 'Z' :: rest | 'z' :: rest => some (0, rest)
  | '+' :: rest => readHoursMinutes rest
  | '-' :: rest | '\u2212' :: rest => do
      let (seconds, rest) ← readHoursMinutes rest
      some (-seconds, rest)
  | a :: b :: c :: rest =>
      if a.toLower = 'u' && b.toLower = 't' && c.toLower = 'c' then some (0, rest) else none
  | _ => none

/-- The date at the start of a text. -/
def readDate (text : List Char) : Option (Date × List Char) := do
  let (year, rest) ← readYear text
  let rest ← readMark '-' rest
  let (month, rest) ← readNumber 2 rest
  let rest ← readMark '-' rest
  let (day, rest) ← readNumber 2 rest
  let date : Date := ⟨year, month, day⟩
  if date.Valid then some (date, rest) else none

/-- The time of day at the start of a text: the second of the day and the nanoseconds into it.
The second with the number 60 is a leap second. -/
def readClock (text : List Char) : Option ((Nat × Nat) × List Char) := do
  let (hour, rest) ← readNumber 2 text
  let rest ← readMark ':' rest
  let (minute, rest) ← readNumber 2 rest
  let rest ← readMark ':' rest
  let (second, rest) ← readNumber 2 rest
  let (nano, rest) ← readFraction rest
  if hour < 24 ∧ minute < 60 ∧ second ≤ 60 then
    let whole := hour * 3600 + minute * 60 + min second 59
    some ((whole, if second = 60 then nano + 1_000_000_000 else nano), rest)
  else none

/-- The instant that a text names. -/
def read? (text : String) : Option Instant := do
  let (date, rest) ← readDate text.toList
  let rest ← match rest with
    | 'T' :: rest | 't' :: rest | ' ' :: rest => some rest
    | _ => none
  let ((second, nano), rest) ← readClock rest
  let (offset, rest) ← readOffset (skipBlanks rest)
  let t : Instant := ⟨date.dayNumber * 86400 + second - offset, nano⟩
  let inYears := -262143 ≤ date.year ∧ date.year ≤ 262142
  let inCalendar := inYears ∧ t.InCalendar
  if (skipBlanks rest).isEmpty ∧ offset.natAbs < 86400 ∧ inCalendar then some t else none

end WorkQueue.Instant
