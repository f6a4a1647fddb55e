import WorkQueue.Proofs.Time.StoredOrder
import WorkQueue.Text.Blank

/-!
# Decimal digits read back

A number that is written in decimal is a run of digits, and the run has the number's value. Both
readers of numbers, that of JSON and that of instants, find the end of a run by the first character
that is no digit, or by its length. What is written without padding has no zero in front.
-/

namespace WorkQueue.Text

/-- Are all characters digits? -/
def AllDigits (text : List Char) : Prop :=
  ∀ c ∈ text, (digitValue? c).isSome = true

/-- Does the text not go on with a digit? -/
def NoDigitNext (text : List Char) : Prop :=
  ∀ c rest, text = c :: rest → digitValue? c = none

/-- The value of a digit, and of no other character. -/
def digitValue (c : Char) : Nat :=
  (digitValue? c).getD 0

/-- The number that digits stand for. -/
def decimalValue (text : List Char) : Nat :=
  text.foldl (fun n c => n * 10 + digitValue c) 0

/-- Further digits make a number no smaller. -/
theorem le_foldl_digits (digits : List Char) (value : Nat) :
    value ≤ digits.foldl (fun n c => n * 10 + digitValue c) value := by
  induction digits generalizing value with
  | nil => exact Nat.le_refl value
  | cons c rest ih =>
      have hrest := ih (value * 10 + digitValue c)
      show value ≤ rest.foldl (fun n c => n * 10 + digitValue c) (value * 10 + digitValue c)
      omega

/-- A number below the limit is continued with digits, as long as it stays below. -/
theorem readDigits_eq_ok_iff {limit value n : Nat} {fault : DigitsFault} {digits : List Char}
    (hvalue : value < limit) :
    readDigits limit fault value digits = .ok n ↔
      AllDigits digits ∧ n = digits.foldl (fun n c => n * 10 + digitValue c) value ∧
        n < limit := by
  induction digits generalizing value with
  | nil =>
      simp only [readDigits, Except.ok.injEq, List.foldl_nil]
      constructor
      · intro hsame
        subst hsame
        exact ⟨fun c hc => absurd hc List.not_mem_nil, rfl, hvalue⟩
      · intro h
        exact h.2.1.symm
  | cons c rest ih =>
      rw [readDigits]
      cases hdigit : digitValue? c with
      | none =>
          simp only [reduceCtorEq, false_iff, not_and]
          intro hall
          have hc := hall c List.mem_cons_self
          rw [hdigit] at hc
          cases hc
      | some digit =>
          have hvalueOf : digitValue c = digit := by
            rw [digitValue, hdigit]
            rfl
          have hall : AllDigits (c :: rest) ↔ AllDigits rest := by
            simp [AllDigits, hdigit]
          rw [hall, List.foldl_cons, hvalueOf]
          by_cases hlonger : value * 10 + digit < limit
          · simp only [if_pos hlonger]
            exact ih hlonger
          · simp only [if_neg hlonger, reduceCtorEq, false_iff, not_and]
            intro _ hn
            have hle := le_foldl_digits rest (value * 10 + digit)
            omega

/-- A natural number below a limit is written with digits only, if it has no sign. -/
theorem readNat_eq_ok_iff {limit n : Nat} {text : List Char} (hlimit : 0 < limit)
    (hsign : text.head? ≠ some '+') :
    readNat limit text = .ok n ↔
      text ≠ [] ∧ AllDigits text ∧ n = decimalValue text ∧ n < limit := by
  unfold readNat
  split
  · simp
  · exact absurd rfl hsign
  · exact absurd rfl hsign
  · next hnil _ _ =>
      rw [readDigits_eq_ok_iff hlimit]
      exact ⟨fun h => ⟨hnil, h⟩, fun h => h.2⟩

/-- What is so of the ten digits is so of every digit that is written. -/
theorem forall_digitChar {p : Char → Prop} (h : ∀ d : Fin 10, p (digitChar d.val)) (n : Nat) :
    p (digitChar n) := by
  have hd := h ⟨n % 10, Nat.mod_lt n (by decide)⟩
  unfold digitChar at hd ⊢
  rwa [Nat.mod_mod] at hd

/-- A digit is not blank. -/
theorem isBlank_digitChar (n : Nat) : isBlank (digitChar n) = false := by
  refine forall_digitChar (p := fun c => isBlank c = false) ?_ n
  decide

/-- A digit is no minus sign. -/
theorem minus_ne_digitChar (n : Nat) : '-' ≠ digitChar n :=
  fun h => Nat.lt_irrefl _ (h ▸ minus_lt_digitChar n)

/-- A digit is no plus sign. -/
theorem plus_ne_digitChar (n : Nat) : '+' ≠ digitChar n :=
  fun h => Nat.lt_irrefl _ (h ▸ plus_lt_digitChar n)

/-- Written digits are digits. -/
theorem allDigits_fixedDigits (width n : Nat) : AllDigits (fixedDigits width n) := by
  induction width generalizing n with
  | zero => exact nofun
  | succ width ih =>
      intro c hc
      rcases List.mem_append.1 hc with hmore | hlast
      · exact ih (n / 10) c hmore
      · rw [List.mem_singleton.1 hlast, digitValue_digitChar]
        rfl

/-- Digits of a fixed number stand for the number, as far as they reach. -/
theorem decimalValue_fixedDigits (width n : Nat) :
    decimalValue (fixedDigits width n) = n % 10 ^ width := by
  induction width generalizing n with
  | zero => simp [fixedDigits, decimalValue, Nat.mod_one]
  | succ width ih =>
      have hlast : digitValue (digitChar n) = n % 10 := by
        rw [digitValue, digitValue_digitChar]
        rfl
      have hstep : decimalValue (fixedDigits (width + 1) n) =
          decimalValue (fixedDigits width (n / 10)) * 10 + n % 10 := by
        rw [decimalValue, fixedDigits, List.foldl_append, ← decimalValue, List.foldl_cons,
          List.foldl_nil, hlast]
      rw [hstep, ih, Nat.pow_succ', Nat.mod_mul]
      omega

/-- Some digits begin with one. -/
theorem fixedDigits_succ (width n : Nat) :
    fixedDigits (width + 1) n = digitChar (n / 10 ^ width) :: fixedDigits width n := by
  rw [Nat.add_comm, fixedDigits_add]
  rfl

/-- A number has as many digits as it needs. -/
theorem lt_pow_digitCount (n : Nat) : n < 10 ^ digitCount n := by
  fun_induction digitCount n with
  | case1 n hsmall => exact hsmall
  | case2 n hlarge ih =>
      rw [Nat.pow_succ]
      omega

/-- A number of several digits needs all of them. -/
theorem pow_le_of_digitCount {n width : Nat} (h : digitCount n = width + 1) (hwidth : width ≠ 0) :
    10 ^ width ≤ n := by
  induction width generalizing n with
  | zero => exact absurd rfl hwidth
  | succ width ih =>
      rw [digitCount] at h
      split at h
      · omega
      · have hcount : digitCount (n / 10) = width + 1 := Nat.succ.inj h
        rcases Nat.eq_zero_or_pos width with rfl | hpos
        · omega
        · have hle := ih hcount hpos.ne'
          rw [Nat.pow_succ]
          omega

/-- A number has a digit. -/
theorem exists_digitCount (n : Nat) : ∃ width, digitCount n = width + 1 := by
  rw [digitCount]
  split
  · exact ⟨0, rfl⟩
  · exact ⟨digitCount (n / 10), rfl⟩

/-- What is written of a natural number is digits. -/
theorem allDigits_natDigits (n : Nat) : AllDigits (natDigits n) :=
  allDigits_fixedDigits _ n

/-- What is written of a natural number stands for it. -/
@[simp]
theorem decimalValue_natDigits (n : Nat) : decimalValue (natDigits n) = n := by
  rw [natDigits, decimalValue_fixedDigits, Nat.mod_eq_of_lt (lt_pow_digitCount n)]

/-- What is written of a natural number begins with a digit, which is a zero only if it is the only
one. -/
theorem exists_natDigits (n : Nat) :
    ∃ d rest, natDigits n = digitChar d :: rest ∧ (rest ≠ [] → digitChar d ≠ '0') := by
  obtain ⟨width, hwidth⟩ := exists_digitCount n
  refine ⟨n / 10 ^ width, fixedDigits width n, ?_, fun hmore hzero => ?_⟩
  · rw [natDigits, hwidth, fixedDigits_succ]
  · have hne : width ≠ 0 := by
      rintro rfl
      exact hmore rfl
    have hle := pow_le_of_digitCount hwidth hne
    have hlt := lt_pow_digitCount n
    rw [hwidth, Nat.pow_succ] at hlt
    have hfirst : 0 < n / 10 ^ width := Nat.div_pos hle (by positivity)
    have hten : n / 10 ^ width < 10 := Nat.div_lt_of_lt_mul hlt
    have hvalue := digitValue_digitChar (n / 10 ^ width)
    rw [hzero, Nat.mod_eq_of_lt hten] at hvalue
    have hnone : (0 : Nat) = n / 10 ^ width := Option.some.inj hvalue
    omega

end WorkQueue.Text
