/-!
# Hexadecimal digits

Writing numbers in hexadecimal, with letters in lower case, and reading single digits in either
case. `hexValue_hexDigit` says that a digit reads back.
-/

namespace WorkQueue.Text

/-- One hexadecimal digit, in lower case. -/
def hexDigit (n : Nat) : Char :=
  if n % 16 < 10 then Char.ofNat ('0'.toNat + n % 16) else Char.ofNat ('a'.toNat + (n % 16 - 10))

/-- The shortest hexadecimal text of a number. -/
def hexDigits (n : Nat) : List Char :=
  if n < 16 then [hexDigit n] else hexDigits (n / 16) ++ [hexDigit n]

/-- The value of a hexadecimal digit. -/
def hexValue? (c : Char) : Option Nat :=
  if '0' ≤ c ∧ c ≤ '9' then some (c.toNat - '0'.toNat)
  else if 'a' ≤ c ∧ c ≤ 'f' then some (c.toNat - 'a'.toNat + 10)
  else if 'A' ≤ c ∧ c ≤ 'F' then some (c.toNat - 'A'.toNat + 10)
  else none

/-- A hexadecimal digit reads back as its value. -/
theorem hexValue_hexDigit (n : Nat) : hexValue? (hexDigit n) = some (n % 16) := by
  have digit : ∀ d < 16, hexValue? (if d < 10 then Char.ofNat ('0'.toNat + d)
      else Char.ofNat ('a'.toNat + (d - 10))) = some d := by decide
  exact digit (n % 16) (Nat.mod_lt n (by decide))

end WorkQueue.Text
