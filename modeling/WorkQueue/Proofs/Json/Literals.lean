import WorkQueue.Json.Printer
import WorkQueue.Json.Reader
import Mathlib.Data.List.Forall2

/-!
# String literals read back

Every text, whatever its characters, is read back from its literal. A character is written as
itself, or as an escape of one letter, or as a unit of four hexadecimal digits; what is written as a
unit is a control character, so that no unit is half of a surrogate pair.
-/

namespace WorkQueue.Json

open Text

/-- A part of a literal tells a character: the part is the character itself, or it is the number of
a control character. -/
inductive Tells : Piece → Char → Prop where
  | char (c : Char) : Tells (.char c) c
  | unit {c : Char} (h : c.toNat < 0x20) : Tells (.unit c.toNat) c

/-- A literal ends at its closing quote. -/
theorem readPieces_quote (rest : List Char) : readPieces ('"' :: rest) = some ([], rest) := by
  rw [readPieces]

/-- An escape of one letter. -/
theorem readPieces_escape {letter c : Char} (h : escaped? letter = some c) (rest : List Char) :
    readPieces ('\\' :: letter :: rest) =
      (readPieces rest).map fun (pieces, rest) => (.char c :: pieces, rest) := by
  have hletter : letter ≠ 'u' := by
    rintro rfl
    cases h
  rw [readPieces, h]
  · cases readPieces rest <;> rfl
  · exact fun _ _ _ _ _ heq => absurd heq hletter

/-- A unit of four hexadecimal digits. -/
theorem readPieces_unit {a b c d : Char} {number : Nat} (h : hexUnit? a b c d = some number)
    (rest : List Char) :
    readPieces ('\\' :: 'u' :: a :: b :: c :: d :: rest) =
      (readPieces rest).map fun (pieces, rest) => (.unit number :: pieces, rest) := by
  rw [readPieces, h]
  cases readPieces rest <;> rfl

/-- A character that stands for itself. -/
theorem readPieces_char {c : Char} (hquote : c ≠ '"') (hslash : c ≠ '\\') (h : 0x20 ≤ c.toNat)
    (rest : List Char) :
    readPieces (c :: rest) =
      (readPieces rest).map fun (pieces, rest) => (.char c :: pieces, rest) := by
  rw [readPieces, if_neg (Nat.not_lt.2 h)]
  · cases readPieces rest <;> rfl
  · exact hquote
  · exact fun _ _ _ _ _ heq => absurd heq hslash
  · exact fun _ _ heq => absurd heq hslash

/-- A control character is read from its unit. -/
theorem hexUnit?_of_lt {number : Nat} (h : number < 0x20) :
    hexUnit? '0' '0' (hexDigit (number / 16)) (hexDigit number) = some number := by
  have hzero : hexValue? '0' = some 0 := rfl
  simp only [hexUnit?, hzero, hexValue_hexDigit, Option.bind_eq_bind, Option.bind_some]
  congr 1
  omega

/-- A character is read from what it is written as. -/
theorem exists_readPieces_writeChar (c : Char) :
    ∃ piece, Tells piece c ∧ ∀ rest, readPieces (writeChar c rest) =
      (readPieces rest).map fun (pieces, rest) => (piece :: pieces, rest) := by
  by_cases hcontrol : c.toNat < 0x20
  · by_cases hshort : c = '\n' ∨ c = '\r' ∨ c = '\t' ∨ c = '\x08' ∨ c = '\x0c'
    · refine ⟨.char c, .char c, ?_⟩
      rcases hshort with rfl | rfl | rfl | rfl | rfl <;> exact readPieces_escape rfl
    · refine ⟨.unit c.toNat, .unit hcontrol, fun rest => ?_⟩
      have hquote : c ≠ '"' := by rintro rfl; revert hcontrol; decide
      have hslash : c ≠ '\\' := by rintro rfl; revert hcontrol; decide
      simp only [not_or] at hshort
      obtain ⟨hn, hr, ht, hb, hf⟩ := hshort
      rw [writeChar, if_neg hquote, if_neg hslash, if_neg hn, if_neg hr, if_neg ht, if_neg hb,
        if_neg hf, if_pos hcontrol]
      exact readPieces_unit (hexUnit?_of_lt hcontrol) rest
  · refine ⟨.char c, .char c, ?_⟩
    by_cases hquote : c = '"'
    · subst hquote
      exact readPieces_escape rfl
    · by_cases hslash : c = '\\'
      · subst hslash
        exact readPieces_escape rfl
      · intro rest
        have hplain (special : Char) (h : special.toNat < 0x20) : c ≠ special := by
          rintro rfl
          exact hcontrol h
        rw [writeChar, if_neg hquote, if_neg hslash, if_neg (hplain _ (by decide)),
          if_neg (hplain _ (by decide)), if_neg (hplain _ (by decide)),
          if_neg (hplain _ (by decide)), if_neg (hplain _ (by decide)), if_neg hcontrol]
        exact readPieces_char hquote hslash (Nat.not_lt.1 hcontrol) rest

/-- Characters are read from what they are written as, up to the closing quote. -/
theorem exists_readPieces_foldr (chars rest : List Char) :
    ∃ pieces, List.Forall₂ Tells pieces chars ∧
      readPieces (chars.foldr writeChar ('"' :: rest)) = some (pieces, rest) := by
  induction chars with
  | nil => exact ⟨[], .nil, readPieces_quote rest⟩
  | cons c chars ih =>
      obtain ⟨piece, htells, hread⟩ := exists_readPieces_writeChar c
      obtain ⟨pieces, hall, hpieces⟩ := ih
      refine ⟨piece :: pieces, .cons htells hall, ?_⟩
      rw [List.foldr_cons, hread, hpieces]
      rfl

/-- A unit that is no half of a surrogate pair is joined as it is. -/
theorem joinPieces_unit {number : Nat} (h : number < 0xD800) (pieces : List Piece) :
    joinPieces (.unit number :: pieces) = (joinPieces pieces).map (Char.ofNat number :: ·) := by
  have hhigh : ¬ (0xD800 ≤ number ∧ number < 0xE000) := by omega
  rcases pieces with _ | ⟨c | low, rest⟩
  · simp only [joinPieces, if_neg hhigh]
  · simp only [joinPieces, if_neg hhigh]
  · rw [joinPieces, if_neg (by omega), if_neg (by omega)]

/-- Parts that tell characters are joined to these. -/
theorem joinPieces_of_tells {pieces : List Piece} {chars : List Char}
    (h : List.Forall₂ Tells pieces chars) : joinPieces pieces = some chars := by
  induction h with
  | nil => rfl
  | cons htells _ ih =>
      cases htells with
      | char c => rw [joinPieces, ih]; rfl
      | unit hcontrol =>
          rw [joinPieces_unit (by omega), ih, Option.map_some, Char.ofNat_toNat]

/-- The literal of a text is its characters between quotes. -/
theorem writeLiteral_some (text : String) (rest : List Char) :
    writeLiteral (some text) rest = '"' :: text.toList.foldr writeChar ('"' :: rest) :=
  rfl

/-- A literal is read back as its text, and what follows it is left. -/
theorem readLiteral_foldr (text : String) (rest : List Char) :
    readLiteral (text.toList.foldr writeChar ('"' :: rest)) = some (some text, rest) := by
  obtain ⟨pieces, htells, hread⟩ := exists_readPieces_foldr text.toList rest
  simp only [readLiteral, hread, Option.bind_eq_bind, Option.bind_some,
    joinPieces_of_tells htells, Option.map_some, String.ofList_toList]

end WorkQueue.Json
