/-!
# Decimal integers as text

Reading and writing integers in decimal. A reader has a bound and says which of three things is
wrong with a text that it refuses: the text is empty, a character is no digit, or the number is
out of bounds. The text is read from the left and the first fault found is the one reported, so
a number that is already too large hides a bad character after it.
-/

namespace WorkQueue.Text

/-- What is wrong with a text that should be an integer. -/
inductive DigitsFault where
  | empty
  | notADigit
  | tooLarge
  | tooSmall
  deriving DecidableEq, Repr

/-- The wording of a fault. -/
def DigitsFault.message : DigitsFault → String
  | .empty => "cannot parse integer from empty string"
  | .notADigit => "invalid digit found in string"
  | .tooLarge => "number too large to fit in target type"
  | .tooSmall => "number too small to fit in target type"

/-- The value of an ASCII digit. -/
def digitValue? (c : Char) : Option Nat :=
  if '0' ≤ c ∧ c ≤ '9' then some (c.toNat - '0'.toNat) else none

/-- Continue a number below `limit` with further digits; `fault` is reported at the limit. -/
def readDigits (limit : Nat) (fault : DigitsFault) : Nat → List Char → Except DigitsFault Nat
  | value, [] => .ok value
  | value, c :: rest =>
      match digitValue? c with
      | none => .error .notADigit
      | some digit =>
          let longer := value * 10 + digit
          if longer < limit then readDigits limit fault longer rest else .error fault

/-- A natural number below `limit`: an optional `+` and at least one digit. -/
def readNat (limit : Nat) (text : List Char) : Except DigitsFault Nat :=
  match text with
  | [] => .error .empty
  | ['+'] => .error .notADigit
  | '+' :: digits => readDigits limit .tooLarge 0 digits
  | digits => readDigits limit .tooLarge 0 digits

/-- An integer of the two's complement range with `2 * half` values: an optional sign and at
least one digit. -/
def readInt (half : Nat) (text : List Char) : Except DigitsFault Int :=
  match text with
  | [] => .error .empty
  | ['+'] => .error .notADigit
  | ['-'] => .error .notADigit
  | '-' :: digits => (readDigits (half + 1) .tooSmall 0 digits).map fun n => -(n : Int)
  | '+' :: digits => (readDigits half .tooLarge 0 digits).map fun n => (n : Int)
  | digits => (readDigits half .tooLarge 0 digits).map fun n => (n : Int)

/-- The decimal digit of a number below ten. -/
def digitChar (n : Nat) : Char :=
  Char.ofNat ('0'.toNat + n % 10)

/-- Exactly `width` decimal digits: the last ones of the number, padded with zeros. -/
def fixedDigits : Nat → Nat → List Char
  | 0, _ => []
  | width + 1, n => fixedDigits width (n / 10) ++ [digitChar n]

/-- The number of decimal digits of a number, at least one. -/
def digitCount (n : Nat) : Nat :=
  if n < 10 then 1 else digitCount (n / 10) + 1

/-- The shortest decimal text of a natural number. -/
def natDigits (n : Nat) : List Char :=
  fixedDigits (digitCount n) n

/-- The shortest decimal text of an integer. -/
def intDigits (n : Int) : List Char :=
  if n < 0 then '-' :: natDigits n.natAbs else natDigits n.natAbs

/-- Fixed digits have the width asked for. -/
@[simp]
theorem length_fixedDigits (width n : Nat) : (fixedDigits width n).length = width := by
  induction width generalizing n with
  | zero => rfl
  | succ width ih => simp [fixedDigits, ih]

/-- A digit reads back as its value. -/
theorem digitValue_digitChar (n : Nat) : digitValue? (digitChar n) = some (n % 10) := by
  have h : n % 10 < 10 := Nat.mod_lt _ (by decide)
  unfold digitChar
  generalize n % 10 = d at h
  match d, h with
  | 0, _ | 1, _ | 2, _ | 3, _ | 4, _ | 5, _ | 6, _ | 7, _ | 8, _ | 9, _ => decide

end WorkQueue.Text
