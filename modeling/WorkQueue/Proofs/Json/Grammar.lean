import Mathlib.Data.List.DropRight
import WorkQueue.Json.Reader

/-!
# JSON texts

When a text denotes a JSON value is said here without the count that the readers carry: by a grammar
of values, items and members, each at the start of what is left of the text. The readers accept what
the grammar derives and nothing else, if only the count is no less than the number of characters
that are taken. So the length of a text is always enough, whatever the text is and however deep its
values are nested: a text is read as the value that it denotes, `parse?_eq_some_iff`, and is refused
if it denotes none, `parse?_eq_none_iff`.
-/

namespace WorkQueue.Json

/-! ## The grammar -/

/-- The name of a member and its colon stand at the start of the text, and the rest follows. -/
inductive ReadsName (text : List Char) (name : Option String) (rest : List Char) : Prop where
  | named {literal after : List Char} (hquote : skipSpace text = '"' :: literal)
      (hliteral : readLiteral literal = some (name, after))
      (hcolon : skipSpace after = ':' :: rest)

mutual
/-- A value stands at the start of the text, after any blanks, and the rest follows. -/
inductive ReadsValue : List Char → Json → List Char → Prop where
  | null {text rest : List Char} (h : skipSpace text = 'n' :: 'u' :: 'l' :: 'l' :: rest) :
      ReadsValue text .null rest
  | yes {text rest : List Char} (h : skipSpace text = 't' :: 'r' :: 'u' :: 'e' :: rest) :
      ReadsValue text (.bool true) rest
  | no {text rest : List Char} (h : skipSpace text = 'f' :: 'a' :: 'l' :: 's' :: 'e' :: rest) :
      ReadsValue text (.bool false) rest
  | string {text literal rest : List Char} {value : Option String}
      (hquote : skipSpace text = '"' :: literal)
      (hliteral : readLiteral literal = some (value, rest)) :
      ReadsValue text (.string value) rest
  | number {text rest : List Char} {value : Json}
      (hnumber : readNumber (skipSpace text) = some (value, rest)) : ReadsValue text value rest
  | emptyArray {text after rest : List Char} (hopen : skipSpace text = '[' :: after)
      (hclose : skipSpace after = ']' :: rest) : ReadsValue text (.array []) rest
  | array {text after rest : List Char} {items : List Json} (hopen : skipSpace text = '[' :: after)
      (hitems : ReadsItems after items rest) : ReadsValue text (.array items) rest
  | emptyObject {text after rest : List Char} (hopen : skipSpace text = '\x7b' :: after)
      (hclose : skipSpace after = '\x7d' :: rest) : ReadsValue text (.object []) rest
  | object {text after rest : List Char} {members : List (Option String × Json)}
      (hopen : skipSpace text = '\x7b' :: after) (hmembers : ReadsMembers after members rest) :
      ReadsValue text (.object members) rest

/-- Items with commas between them, and the closing bracket, stand at the start of the text. -/
inductive ReadsItems : List Char → List Json → List Char → Prop where
  | last {text after rest : List Char} {item : Json} (hitem : ReadsValue text item after)
      (hclose : skipSpace after = ']' :: rest) : ReadsItems text [item] rest
  | more {text after next rest : List Char} {item : Json} {items : List Json}
      (hitem : ReadsValue text item after) (hcomma : skipSpace after = ',' :: next)
      (hitems : ReadsItems next items rest) : ReadsItems text (item :: items) rest

/-- Members with commas between them, and the closing brace, stand at the start of the text. -/
inductive ReadsMembers : List Char → List (Option String × Json) → List Char → Prop where
  | last {text valued after rest : List Char} {name : Option String} {value : Json}
      (hname : ReadsName text name valued) (hvalue : ReadsValue valued value after)
      (hclose : skipSpace after = '\x7d' :: rest) : ReadsMembers text [(name, value)] rest
  | more {text valued after next rest : List Char} {name : Option String} {value : Json}
      {members : List (Option String × Json)} (hname : ReadsName text name valued)
      (hvalue : ReadsValue valued value after) (hcomma : skipSpace after = ',' :: next)
      (hmembers : ReadsMembers next members rest) :
      ReadsMembers text ((name, value) :: members) rest
end

/-- The text is a JSON text of the value: the value with blanks around it and nothing else. -/
def Denotes (text : String) (value : Json) : Prop :=
  ∃ rest, ReadsValue text.toList value rest ∧ skipSpace rest = []

/-! ## Characters that are taken -/

/-- Blanks are skipped at once. -/
@[simp]
theorem skipSpace_skipSpace (text : List Char) : skipSpace (skipSpace text) = skipSpace text :=
  List.dropWhile_idempotent isSpace text

/-- Skipping blanks adds nothing. -/
theorem length_skipSpace_le (text : List Char) : (skipSpace text).length ≤ text.length :=
  (List.dropWhile_sublist isSpace).length_le

/-- What comes after a character behind blanks is shorter. -/
theorem length_lt_of_skipSpace {text rest : List Char} {c : Char}
    (h : skipSpace text = c :: rest) : rest.length < text.length := by
  have hle := length_skipSpace_le text
  rw [h, List.length_cons] at hle
  exact hle

/-- What comes after a word behind blanks is shorter. -/
theorem length_lt_of_word {text rest : List Char} {c : Char} (word : List Char)
    (h : skipSpace text = c :: (word ++ rest)) : rest.length < text.length := by
  have hlt := length_lt_of_skipSpace h
  rw [List.length_append] at hlt
  omega

/-- The parts of a string literal take at least its closing quote. -/
theorem length_lt_of_readPieces {text rest : List Char} {pieces : List Piece}
    (h : readPieces text = some (pieces, rest)) : rest.length < text.length := by
  fun_induction readPieces text generalizing pieces rest with
  | case1 => cases h
  | case2 after => cases h; exact Nat.lt_succ_self _
  | case3 a b c d after ih =>
      simp only [Option.bind_eq_bind, Option.bind_eq_some_iff] at h
      obtain ⟨number, _, ⟨more, behind⟩, hmore, heq⟩ := h
      cases heq
      have hlt := ih hmore
      simp only [List.length_cons]
      omega
  | case4 letter after hunit ih =>
      simp only [Option.bind_eq_bind, Option.bind_eq_some_iff] at h
      obtain ⟨c, _, ⟨more, behind⟩, hmore, heq⟩ := h
      cases heq
      have hlt := ih hmore
      simp only [List.length_cons]
      omega
  | case5 => cases h
  | case6 c after _ _ _ _ ih =>
      simp only [Option.bind_eq_bind, Option.bind_eq_some_iff] at h
      obtain ⟨⟨more, behind⟩, hmore, heq⟩ := h
      cases heq
      exact Nat.lt_succ_of_lt (ih hmore)

/-- A string literal takes at least its closing quote. -/
theorem length_lt_of_readLiteral {text rest : List Char} {value : Option String}
    (h : readLiteral text = some (value, rest)) : rest.length < text.length := by
  simp only [readLiteral, Option.bind_eq_bind, Option.bind_eq_some_iff] at h
  obtain ⟨⟨pieces, behind⟩, hpieces, heq⟩ := h
  cases heq
  exact length_lt_of_readPieces hpieces

/-- Digits are at least one. -/
theorem length_lt_of_readDigitRun {text digits rest : List Char}
    (h : readDigitRun text = some (digits, rest)) : rest.length < text.length := by
  simp only [readDigitRun] at h
  split at h
  · cases h
  · next hsome =>
      cases h
      have hpos := List.length_pos_iff.2 (mt List.isEmpty_iff.2 hsome)
      have hlength : (text.takeWhile isDigit).length + (text.dropWhile isDigit).length =
          text.length := by
        rw [← List.length_append, List.takeWhile_append_dropWhile]
      omega

/-- Digits are at least one, whatever is kept of them. -/
theorem length_lt_of_digits {text kept rest : List Char} (keep : List Char → List Char)
    (h : (do let (digits, rest) ← readDigitRun text; some (keep digits, rest)) =
      some (kept, rest)) : rest.length < text.length := by
  obtain ⟨⟨digits, behind⟩, hdigits, hdone⟩ := Option.bind_eq_some_iff.1 h
  cases hdone
  exact length_lt_of_readDigitRun hdigits

/-- The whole part of a number has a digit. -/
theorem length_lt_of_readWhole {text whole rest : List Char}
    (h : readWhole text = some (whole, rest)) : rest.length < text.length := by
  obtain ⟨⟨digits, behind⟩, hdigits, hdone⟩ := Option.bind_eq_some_iff.1 h
  simp only at hdone
  split at hdone
  · cases hdone
  · cases hdone
    exact length_lt_of_readDigitRun hdigits

/-- A fraction, if there is one, leaves no more than there was. -/
theorem length_le_of_readFraction {text fraction rest : List Char}
    (h : readFraction text = some (fraction, rest)) : rest.length ≤ text.length := by
  unfold readFraction at h
  split at h
  · exact (Nat.lt_succ_of_lt (length_lt_of_digits ('.' :: ·) h)).le
  · cases h
    exact Nat.le_refl _

/-- An exponent, if there is one, leaves no more than there was. -/
theorem length_le_of_readExponent {text exponent rest : List Char}
    (h : readExponent text = some (exponent, rest)) : rest.length ≤ text.length := by
  unfold readExponent at h
  split at h
  · split at h
    · split at h
      · split at h
        · exact (Nat.lt_succ_of_lt (Nat.lt_succ_of_lt (length_lt_of_digits (_ :: _ :: ·) h))).le
        · exact (Nat.lt_succ_of_lt (length_lt_of_digits (_ :: ·) h)).le
      · cases h
    · cases h
      exact Nat.le_refl _
  · cases h
    exact Nat.le_refl _

/-- A number takes at least one character. -/
theorem length_lt_of_readNumber {text rest : List Char} {value : Json}
    (h : readNumber text = some (value, rest)) : rest.length < text.length := by
  simp only [readNumber, Option.bind_eq_bind, Option.bind_eq_some_iff] at h
  obtain ⟨⟨whole, afterWhole⟩, hwhole, ⟨fraction, afterFraction⟩, hfraction,
    ⟨exponent, behind⟩, hexponent, heq⟩ := h
  have hrest : rest = behind := by
    split at heq <;> split at heq <;> cases heq <;> rfl
  have hwholePart : afterWhole.length < text.length := by
    split at hwhole
    · exact Nat.lt_succ_of_lt (length_lt_of_readWhole hwhole)
    · exact length_lt_of_readWhole hwhole
  have hfractionPart := length_le_of_readFraction hfraction
  have hexponentPart := length_le_of_readExponent hexponent
  subst hrest
  exact Nat.lt_of_le_of_lt (hexponentPart.trans hfractionPart) hwholePart

/-- The name of a member takes characters. -/
theorem ReadsName.length_lt {text rest : List Char} {name : Option String}
    (h : ReadsName text name rest) : rest.length < text.length := by
  cases h with
  | named hquote hliteral hcolon =>
      have hafter := length_lt_of_skipSpace hcolon
      have hname := length_lt_of_readLiteral hliteral
      have htext := length_lt_of_skipSpace hquote
      omega

mutual
/-- A value takes characters. -/
theorem ReadsValue.length_lt {text rest : List Char} {value : Json} :
    ReadsValue text value rest → rest.length < text.length
  | .null h => length_lt_of_word ['u', 'l', 'l'] h
  | .yes h => length_lt_of_word ['r', 'u', 'e'] h
  | .no h => length_lt_of_word ['a', 'l', 's', 'e'] h
  | .string hquote hliteral =>
      (length_lt_of_readLiteral hliteral).trans (length_lt_of_skipSpace hquote)
  | .number hnumber => (length_lt_of_readNumber hnumber).trans_le (length_skipSpace_le text)
  | .emptyArray hopen hclose =>
      (length_lt_of_skipSpace hclose).trans (length_lt_of_skipSpace hopen)
  | .array hopen hitems => hitems.length_lt.trans (length_lt_of_skipSpace hopen)
  | .emptyObject hopen hclose =>
      (length_lt_of_skipSpace hclose).trans (length_lt_of_skipSpace hopen)
  | .object hopen hmembers => hmembers.length_lt.trans (length_lt_of_skipSpace hopen)

/-- Items take characters. -/
theorem ReadsItems.length_lt {text rest : List Char} {items : List Json} :
    ReadsItems text items rest → rest.length < text.length
  | .last hitem hclose => (length_lt_of_skipSpace hclose).trans hitem.length_lt
  | .more hitem hcomma hitems =>
      (hitems.length_lt.trans (length_lt_of_skipSpace hcomma)).trans hitem.length_lt

/-- Members take characters. -/
theorem ReadsMembers.length_lt {text rest : List Char} {members : List (Option String × Json)} :
    ReadsMembers text members rest → rest.length < text.length
  | .last hname hvalue hclose =>
      ((length_lt_of_skipSpace hclose).trans hvalue.length_lt).trans hname.length_lt
  | .more hname hvalue hcomma hmembers =>
      ((hmembers.length_lt.trans (length_lt_of_skipSpace hcomma)).trans hvalue.length_lt).trans
        hname.length_lt
end

/-! ## Everything that is derived is read -/

/-- Blanks in front of items do not matter to their reader. -/
theorem readItems_skipSpace (count : Nat) (text : List Char) :
    readItems count (skipSpace text) = readItems count text := by
  rcases count with _ | _ | count
  · rfl
  · rfl
  · simp only [readItems, readValue, skipSpace_skipSpace]

/-- Blanks in front of members do not matter to their reader. -/
theorem readMembers_skipSpace (count : Nat) (text : List Char) :
    readMembers count (skipSpace text) = readMembers count text := by
  cases count with
  | zero => rfl
  | succ count => simp only [readMembers, skipSpace_skipSpace]

/-- Where a number stands, a number is read. -/
theorem readValue_of_readNumber {text rest : List Char} {value : Json}
    (h : readNumber (skipSpace text) = some (value, rest)) (count : Nat) :
    readValue (count + 1) text = some (value, rest) := by
  rw [readValue]
  split
  -- A number begins with a minus sign or a digit, and none of the other values does.
  case h_7 => exact h
  all_goals
    next heq =>
      rw [heq] at h
      cases h

/-- No item begins with a closing bracket. -/
theorem readItems_bracket {text rest : List Char} (h : skipSpace text = ']' :: rest) (count : Nat) :
    readItems count text = none := by
  rcases count with _ | _ | count
  · rfl
  · rfl
  · have hvalue : readValue (count + 1) text = none := by
      simp only [readValue, h]
      rfl
    rw [readItems, hvalue]
    rfl

/-- Members begin with the quote of a name. -/
theorem ReadsMembers.exists_quote {text rest : List Char} {members : List (Option String × Json)}
    (h : ReadsMembers text members rest) : ∃ literal, skipSpace text = '"' :: literal := by
  cases h with
  | last hname | more hname => cases hname with
    | named hquote => exact ⟨_, hquote⟩

mutual
/-- A value is read, if the count is no less than the number of its characters. -/
theorem ReadsValue.readValue_eq {text rest : List Char} {value : Json} :
    ReadsValue text value rest → (count : Nat) → text.length ≤ rest.length + count →
      readValue count text = some (value, rest)
  | h, 0, hcount => absurd h.length_lt (by omega)
  | .null h, count + 1, _ => by simp only [readValue, h]
  | .yes h, count + 1, _ => by simp only [readValue, h]
  | .no h, count + 1, _ => by simp only [readValue, h]
  | .string hquote hliteral, count + 1, _ => by
      simp only [readValue, hquote, hliteral, Option.bind_eq_bind, Option.bind_some]
  | .number hnumber, count + 1, _ => readValue_of_readNumber hnumber count
  | .emptyArray hopen hclose, count + 1, _ => by simp only [readValue, hopen, hclose]
  | .array hopen hitems, count + 1, hcount => by
      -- The opening bracket pays for the step into the items.
      have hlength := length_lt_of_skipSpace hopen
      have hread := hitems.readItems_eq count (by omega)
      simp only [readValue, hopen]
      split
      · next hclose =>
          rw [readItems_bracket hclose] at hread
          cases hread
      · simp only [readItems_skipSpace, hread, Option.bind_eq_bind, Option.bind_some]
  | .emptyObject hopen hclose, count + 1, _ => by simp only [readValue, hopen, hclose]
  | .object hopen hmembers, count + 1, hcount => by
      have hlength := length_lt_of_skipSpace hopen
      have hread := hmembers.readMembers_eq count (by omega)
      simp only [readValue, hopen]
      split
      · next hclose =>
          obtain ⟨literal, hquote⟩ := hmembers.exists_quote
          rw [hquote] at hclose
          exact absurd (List.cons.inj hclose).1 (by decide)
      · simp only [readMembers_skipSpace, hread, Option.bind_eq_bind, Option.bind_some]

/-- Items are read, if the count is no less than the number of their characters. -/
theorem ReadsItems.readItems_eq {text rest : List Char} {items : List Json} :
    ReadsItems text items rest → (count : Nat) → text.length ≤ rest.length + count →
      readItems count text = some (items, rest)
  | h, 0, hcount => absurd h.length_lt (by omega)
  | .last hitem hclose, count + 1, hcount => by
      have hlength := length_lt_of_skipSpace hclose
      have hread := hitem.readValue_eq count (by omega)
      simp only [readItems, hread, hclose, Option.bind_eq_bind, Option.bind_some]
  | .more hitem hcomma hitems, count + 1, hcount => by
      have hlength := length_lt_of_skipSpace hcomma
      have hitemLength := hitem.length_lt
      have hitemsLength := hitems.length_lt
      have hread := hitem.readValue_eq count (by omega)
      have hmore := hitems.readItems_eq count (by omega)
      simp only [readItems, hread, hcomma, hmore, Option.bind_eq_bind, Option.bind_some]

/-- Members are read, if the count is no less than the number of their characters. -/
theorem ReadsMembers.readMembers_eq {text rest : List Char}
    {members : List (Option String × Json)} :
    ReadsMembers text members rest → (count : Nat) → text.length ≤ rest.length + count →
      readMembers count text = some (members, rest)
  | h, 0, hcount => absurd h.length_lt (by omega)
  | .last hname hvalue hclose, count + 1, hcount => by
      have hnameLength := hname.length_lt
      have hlength := length_lt_of_skipSpace hclose
      have hread := hvalue.readValue_eq count (by omega)
      obtain ⟨hquote, hliteral, hcolon⟩ := hname
      simp only [readMembers, hquote, hliteral, hcolon, hread, hclose, Option.bind_eq_bind,
        Option.bind_some]
  | .more hname hvalue hcomma hmembers, count + 1, hcount => by
      have hnameLength := hname.length_lt
      have hvalueLength := hvalue.length_lt
      have hlength := length_lt_of_skipSpace hcomma
      have hmembersLength := hmembers.length_lt
      have hread := hvalue.readValue_eq count (by omega)
      have hmore := hmembers.readMembers_eq count (by omega)
      obtain ⟨hquote, hliteral, hcolon⟩ := hname
      simp only [readMembers, hquote, hliteral, hcolon, hread, hcomma, hmore, Option.bind_eq_bind,
        Option.bind_some]
end

/-! ## Everything that is read is derived -/

/-- Is what the three readers accept with the count derived by the grammar? -/
structure ReadersSound (count : Nat) : Prop where
  value : ∀ {text value rest}, readValue count text = some (value, rest) →
    ReadsValue text value rest
  items : ∀ {text items rest}, readItems count text = some (items, rest) →
    ReadsItems text items rest
  members : ∀ {text members rest}, readMembers count text = some (members, rest) →
    ReadsMembers text members rest

namespace ReadersSound

variable {count : Nat} (h : ReadersSound count)
include h

/-- A value is derived if it is read with one step more. -/
theorem value_step {text rest : List Char} {value : Json}
    (hread : readValue (count + 1) text = some (value, rest)) : ReadsValue text value rest := by
  rw [readValue] at hread
  split at hread
  · next heq => cases hread; exact .null heq
  · next heq => cases hread; exact .yes heq
  · next heq => cases hread; exact .no heq
  · next heq =>
      obtain ⟨⟨literal, after⟩, hliteral, hdone⟩ := Option.bind_eq_some_iff.1 hread
      cases hdone
      exact .string heq hliteral
  · next after heq =>
      split at hread
      · next hclose => cases hread; exact .emptyArray heq hclose
      · obtain ⟨⟨items, behind⟩, hitems, hdone⟩ := Option.bind_eq_some_iff.1 hread
        cases hdone
        rw [readItems_skipSpace] at hitems
        exact .array heq (h.items hitems)
  · next after heq =>
      split at hread
      · next hclose => cases hread; exact .emptyObject heq hclose
      · obtain ⟨⟨members, behind⟩, hmembers, hdone⟩ := Option.bind_eq_some_iff.1 hread
        cases hdone
        rw [readMembers_skipSpace] at hmembers
        exact .object heq (h.members hmembers)
  · exact .number hread

/-- Items are derived if they are read with one step more. -/
theorem items_step {text rest : List Char} {items : List Json}
    (hread : readItems (count + 1) text = some (items, rest)) : ReadsItems text items rest := by
  rw [readItems] at hread
  obtain ⟨⟨item, after⟩, hitem, hnext⟩ := Option.bind_eq_some_iff.1 hread
  simp only at hnext
  split at hnext
  · next heq =>
      obtain ⟨⟨more, behind⟩, hmore, hdone⟩ := Option.bind_eq_some_iff.1 hnext
      cases hdone
      exact .more (h.value hitem) heq (h.items hmore)
  · next heq => cases hnext; exact .last (h.value hitem) heq
  · cases hnext

/-- Members are derived if they are read with one step more. -/
theorem members_step {text rest : List Char} {members : List (Option String × Json)}
    (hread : readMembers (count + 1) text = some (members, rest)) :
    ReadsMembers text members rest := by
  rw [readMembers] at hread
  split at hread
  · next hquote =>
      obtain ⟨⟨name, after⟩, hliteral, hnext⟩ := Option.bind_eq_some_iff.1 hread
      simp only at hnext
      split at hnext
      · next hcolon =>
          have hname := ReadsName.named hquote hliteral hcolon
          obtain ⟨⟨value, behind⟩, hvalue, hlast⟩ := Option.bind_eq_some_iff.1 hnext
          simp only at hlast
          split at hlast
          · next heq =>
              obtain ⟨⟨more, behind⟩, hmore, hdone⟩ := Option.bind_eq_some_iff.1 hlast
              cases hdone
              exact .more hname (h.value hvalue) heq (h.members hmore)
          · next heq => cases hlast; exact .last hname (h.value hvalue) heq
          · cases hlast
      · cases hnext
  · cases hread

end ReadersSound

/-- What is read is derived, with every count. -/
theorem readersSound (count : Nat) : ReadersSound count := by
  induction count with
  | zero => exact ⟨nofun, nofun, nofun⟩
  | succ count ih => exact ⟨ih.value_step, ih.items_step, ih.members_step⟩

/-! ## Texts -/

/-- With a count that is no less than the length of the text, what is read is what is derived. -/
theorem readValue_eq_some_iff {text rest : List Char} {value : Json} {count : Nat}
    (hcount : text.length ≤ count) :
    readValue count text = some (value, rest) ↔ ReadsValue text value rest :=
  ⟨(readersSound count).value, fun h => h.readValue_eq count (Nat.le_add_left_of_le hcount)⟩

/-- A text is read as the value that it denotes. -/
theorem parse?_eq_some_iff {text : String} {value : Json} :
    parse? text = some value ↔ Denotes text value := by
  have hread {value : Json} {rest : List Char} :
      readValue (text.length + 1) text.toList = some (value, rest) ↔
        ReadsValue text.toList value rest :=
    readValue_eq_some_iff (by rw [String.length_toList]; exact Nat.le_succ _)
  rw [parse?]
  constructor
  · intro h
    split at h
    · next found rest hfound =>
        split at h
        · next hempty => cases h; exact ⟨rest, hread.1 hfound, List.isEmpty_iff.1 hempty⟩
        · cases h
    · cases h
  · rintro ⟨rest, hvalue, hempty⟩
    rw [hread.2 hvalue]
    exact if_pos (List.isEmpty_iff.2 hempty)

/-- A text is refused only if it denotes no value: the count never runs out before the text. -/
theorem parse?_eq_none_iff {text : String} :
    parse? text = none ↔ ∀ value, ¬ Denotes text value := by
  simp only [← parse?_eq_some_iff, Option.eq_none_iff_forall_ne_some, ne_eq]

end WorkQueue.Json
