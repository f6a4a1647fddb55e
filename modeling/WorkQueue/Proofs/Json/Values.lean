import WorkQueue.Proofs.Text.Digits
import WorkQueue.Proofs.Json.Grammar
import WorkQueue.Proofs.Json.Literals

/-!
# JSON values read back

A value without decimal fractions and without halves of surrogate pairs is read back from its
compact form, since that is a JSON text of the value. The parts of a value are met with text behind
them, so that is how it is said of each of them: what follows a value inside a text is a comma or a
closing bracket, neither of which goes on with a number.
-/

namespace WorkQueue.Json

open Text

mutual
/-- Is every number in the value whole, and every string a text? -/
def Plain : Json → Prop
  | .null | .bool _ | .int _ => True
  | .decimal _ => False
  | .string text => text.isSome = true
  | .array items => PlainItems items
  | .object members => PlainMembers members

/-- Are all items plain? -/
def PlainItems : List Json → Prop
  | [] => True
  | item :: rest => item.Plain ∧ PlainItems rest

/-- Are all names texts, and all values plain? -/
def PlainMembers : List (Option String × Json) → Prop
  | [] => True
  | (name, value) :: rest => name.isSome = true ∧ value.Plain ∧ PlainMembers rest
end

/-- What may follow a value: nothing, a comma, or a closing bracket of either kind. -/
inductive Follows : List Char → Prop where
  | nothing : Follows []
  | comma (rest : List Char) : Follows (',' :: rest)
  | bracket (rest : List Char) : Follows (']' :: rest)
  | brace (rest : List Char) : Follows ('\x7d' :: rest)

/-! ## Numbers -/

/-- What follows a value does not go on with a digit. -/
theorem Follows.noDigitNext {rest : List Char} (h : Follows rest) : NoDigitNext rest := by
  intro c more hrest
  cases h <;> cases hrest <;> rfl

/-- A run of digits ends where they do. -/
theorem readDigitRun_append {digits rest : List Char} (hdigits : AllDigits digits)
    (hsome : digits ≠ []) (hnext : NoDigitNext rest) :
    readDigitRun (digits ++ rest) = some (digits, rest) := by
  have hstop : rest.takeWhile isDigit = [] ∧ rest.dropWhile isDigit = rest := by
    cases rest with
    | nil => exact ⟨rfl, rfl⟩
    | cons c more =>
        have hc : ¬ isDigit c = true := by
          rw [isDigit, hnext c more rfl]
          exact Bool.false_ne_true
        exact ⟨List.takeWhile_cons_of_neg hc, List.dropWhile_cons_of_neg hc⟩
  have htake : (digits ++ rest).takeWhile isDigit = digits := by
    rw [List.takeWhile_append_of_pos (p := isDigit) hdigits, hstop.1, List.append_nil]
  have hdrop : (digits ++ rest).dropWhile isDigit = rest := by
    rw [List.dropWhile_append_of_pos (p := isDigit) hdigits, hstop.2]
  rw [readDigitRun, htake, hdrop]
  exact if_neg (by rwa [List.isEmpty_iff])

/-- What is written of a natural number is a whole part. -/
theorem readWhole_natDigits (n : Nat) {rest : List Char} (hnext : NoDigitNext rest) :
    readWhole (natDigits n ++ rest) = some (natDigits n, rest) := by
  obtain ⟨d, more, hdigits, hzero⟩ := exists_natDigits n
  have hsome : natDigits n ≠ [] := by
    rw [hdigits]
    exact List.cons_ne_nil _ _
  rw [readWhole, readDigitRun_append (allDigits_natDigits n) hsome hnext, hdigits]
  simp only [Option.bind_eq_bind, Option.bind_some]
  split
  · next heq =>
      obtain ⟨hd, hmore⟩ := List.cons.inj heq
      refine absurd hd (hzero ?_)
      rw [hmore]
      exact List.cons_ne_nil _ _
  · rfl

/-- A whole number is read back. -/
theorem readNumber_intDigits (value : Int) {rest : List Char} (h : Follows rest) :
    readNumber (intDigits value ++ rest) = some (.int value, rest) := by
  have hfraction : readFraction rest = some ([], rest) := by cases h <;> rfl
  have hexponent : readExponent rest = some ([], rest) := by cases h <;> rfl
  have hwhole := readWhole_natDigits value.natAbs h.noDigitNext
  have hvalue : wholeValue (natDigits value.natAbs) = value.natAbs :=
    decimalValue_natDigits value.natAbs
  rw [intDigits]
  split
  · next hneg =>
      have hzero : ¬ value.natAbs = 0 := by omega
      have hback : -(value.natAbs : Int) = value := by omega
      simp only [List.cons_append, readNumber, hwhole, hfraction, hexponent, hvalue, hback,
        Option.bind_eq_bind, Option.bind_some, List.isEmpty_nil, beq_eq_false_iff_ne.2 hzero,
        Bool.and_false, Bool.not_false, Bool.and_true, if_true]
  · next hpos =>
      have hback : (value.natAbs : Int) = value := by omega
      have hsign : ∀ tail, natDigits value.natAbs ++ rest = '-' :: tail → False := by
        obtain ⟨d, more, hdigits, _⟩ := exists_natDigits value.natAbs
        intro tail heq
        rw [hdigits] at heq
        exact minus_ne_digitChar d (List.cons.inj heq).1.symm
      rw [readNumber]
      · simp only [hwhole, hfraction, hexponent, hvalue, hback, Option.bind_eq_bind,
          Option.bind_some, List.isEmpty_nil, Bool.false_and, Bool.not_false, Bool.and_true,
          if_true, Bool.false_eq_true, if_false]
      · exact hsign

/-- Blanks are skipped, and there are none in front of such a character. -/
theorem skipSpace_cons {c : Char} (h : isSpace c = false) (rest : List Char) :
    skipSpace (c :: rest) = c :: rest :=
  List.dropWhile_cons_of_neg (by rw [h]; exact Bool.false_ne_true)

/-- A digit is no blank. -/
theorem isSpace_digitChar (n : Nat) : isSpace (digitChar n) = false := by
  refine forall_digitChar (p := fun c => isSpace c = false) ?_ n
  decide

/-- There are no blanks in front of a whole number. -/
theorem skipSpace_intDigits (value : Int) (rest : List Char) :
    skipSpace (intDigits value ++ rest) = intDigits value ++ rest := by
  rw [intDigits]
  split
  · exact skipSpace_cons rfl _
  · obtain ⟨d, more, hdigits, _⟩ := exists_natDigits value.natAbs
    rw [hdigits]
    exact skipSpace_cons (isSpace_digitChar d) _

/-! ## Values -/

/-- The name of a member is read back with its colon. -/
theorem readsName_write {name : Option String} (h : name.isSome = true) (rest : List Char) :
    ReadsName (writeLiteral name (':' :: rest)) name rest := by
  obtain ⟨text, rfl⟩ := Option.isSome_iff_exists.1 h
  rw [writeLiteral_some]
  exact .named (skipSpace_cons rfl _) (readLiteral_foldr text _) (skipSpace_cons rfl _)

mutual
/-- What is written of a value is the value, and what follows it is left. -/
theorem readsValue_write : (value : Json) → value.Plain → (rest : List Char) → Follows rest →
    ReadsValue (value.write rest) value rest
  | .null, _, rest, _ => by
      rw [write]
      exact .null (skipSpace_cons rfl _)
  | .bool true, _, rest, _ => by
      rw [write]
      exact .yes (skipSpace_cons rfl _)
  | .bool false, _, rest, _ => by
      rw [write]
      exact .no (skipSpace_cons rfl _)
  | .int value, _, rest, hfollows => by
      refine .number ?_
      rw [write, skipSpace_intDigits, readNumber_intDigits value hfollows]
  | .string text, hplain, rest, _ => by
      rw [Plain] at hplain
      obtain ⟨text, rfl⟩ := Option.isSome_iff_exists.1 hplain
      rw [write, writeLiteral_some]
      exact .string (skipSpace_cons rfl _) (readLiteral_foldr text rest)
  | .array [], _, rest, _ => by
      rw [write, writeItems]
      exact .emptyArray (skipSpace_cons rfl _) (skipSpace_cons rfl _)
  | .array (item :: items), hplain, rest, _ => by
      rw [Plain] at hplain
      rw [write]
      exact .array (skipSpace_cons rfl _)
        (readsItems_write (item :: items) (List.cons_ne_nil _ _) hplain rest)
  | .object [], _, rest, _ => by
      rw [write, writeMembers]
      exact .emptyObject (skipSpace_cons rfl _) (skipSpace_cons rfl _)
  | .object ((name, value) :: members), hplain, rest, _ => by
      rw [Plain] at hplain
      rw [write]
      exact .object (skipSpace_cons rfl _)
        (readsMembers_write ((name, value) :: members) (List.cons_ne_nil _ _) hplain rest)

/-- What is written of items is the items, up to the closing bracket. -/
theorem readsItems_write : (items : List Json) → items ≠ [] → PlainItems items →
    (rest : List Char) → ReadsItems (writeItems items (']' :: rest)) items rest
  | [], hsome, _, _ => absurd rfl hsome
  | [item], _, hplain, rest => by
      rw [PlainItems] at hplain
      rw [writeItems]
      exact .last (readsValue_write item hplain.1 _ (.bracket rest)) (skipSpace_cons rfl _)
  | item :: next :: items, _, hplain, rest => by
      rw [PlainItems] at hplain
      rw [writeItems]
      exact .more (readsValue_write item hplain.1 _ (.comma _)) (skipSpace_cons rfl _)
        (readsItems_write (next :: items) (List.cons_ne_nil _ _) hplain.2 rest)

/-- What is written of members is the members, up to the closing brace. -/
theorem readsMembers_write : (members : List (Option String × Json)) → members ≠ [] →
    PlainMembers members → (rest : List Char) →
    ReadsMembers (writeMembers members ('\x7d' :: rest)) members rest
  | [], hsome, _, _ => absurd rfl hsome
  | [(name, value)], _, hplain, rest => by
      rw [PlainMembers] at hplain
      rw [writeMembers]
      exact .last (readsName_write hplain.1 _) (readsValue_write value hplain.2.1 _ (.brace rest))
        (skipSpace_cons rfl _)
  | (name, value) :: next :: members, _, hplain, rest => by
      rw [PlainMembers] at hplain
      rw [writeMembers]
      exact .more (readsName_write hplain.1 _) (readsValue_write value hplain.2.1 _ (.comma _))
        (skipSpace_cons rfl _) (readsMembers_write (next :: members) (List.cons_ne_nil _ _)
          hplain.2.2 rest)
end

/-- A plain value is read back from its compact form. -/
theorem parse?_compact {value : Json} (h : value.Plain) : parse? value.compact = some value := by
  refine parse?_eq_some_iff.2 ⟨[], ?_, rfl⟩
  rw [compact, String.toList_ofList]
  exact readsValue_write value h [] .nothing

end WorkQueue.Json
