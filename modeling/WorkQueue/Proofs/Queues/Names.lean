import WorkQueue.QueueName
import Mathlib.Data.List.Forall2

/-!
# What queue names are

Reading a name takes away the blanks around a text, looks at every character, and compares in lower
case. Here is what that comes to without the steps of the reading: `StripsTo` says which text is
left without the blanks around it, `NameChar` which characters names have, and `SameName` which
texts differ in the case of ASCII letters only.
-/

namespace WorkQueue

namespace Text

/-- The second text is the first without the blanks around it. -/
structure StripsTo (text stripped : List Char) : Prop where
  parts : ∃ before after, text = before ++ stripped ++ after ∧
    (∀ c ∈ before, isBlank c = true) ∧ ∀ c ∈ after, isBlank c = true
  head : ∀ c ∈ stripped.head?, isBlank c = false
  last : ∀ c ∈ stripped.getLast?, isBlank c = false

variable {text stripped : List Char}

/-- Dropping blanks from the front drops all of them. -/
theorem head?_dropWhile_isBlank (text : List Char) :
    ∀ c ∈ (text.dropWhile isBlank).head?, isBlank c = false := by
  have hnot := List.head?_dropWhile_not isBlank text
  intro c hc
  rw [Option.mem_def.1 hc] at hnot
  exact hnot

/-- Dropping blanks from the front drops nothing else. -/
theorem dropWhile_isBlank_append {before rest : List Char}
    (hbefore : ∀ c ∈ before, isBlank c = true) (hrest : ∀ c ∈ rest.head?, isBlank c = false) :
    (before ++ rest).dropWhile isBlank = rest := by
  rw [List.dropWhile_append_of_pos hbefore]
  cases rest with
  | nil => rfl
  | cons c rest => exact List.dropWhile_cons_of_neg (by simp [hrest c rfl])

/-- A text trims to what is left without the blanks around it. -/
theorem stripsTo_trim (text : List Char) : StripsTo text (trim text) := by
  have hblank (text : List Char) : ∀ c ∈ text.takeWhile isBlank, isBlank c = true :=
    List.all_eq_true.1 List.all_takeWhile
  have hfront := List.takeWhile_append_dropWhile (p := isBlank) (l := text)
  have hback := List.takeWhile_append_dropWhile (p := isBlank)
    (l := (text.dropWhile isBlank).reverse)
  have hrest : text.dropWhile isBlank =
      trim text ++ ((text.dropWhile isBlank).reverse.takeWhile isBlank).reverse := by
    rw [trim, ← List.reverse_append, hback, List.reverse_reverse]
  have hafter : ∀ c ∈ ((text.dropWhile isBlank).reverse.takeWhile isBlank).reverse,
      isBlank c = true := fun c hc => hblank _ c (List.mem_reverse.1 hc)
  refine ⟨⟨text.takeWhile isBlank, _, ?_, hblank text, hafter⟩, ?_, ?_⟩
  · rw [List.append_assoc, ← hrest, hfront]
  · intro c hc
    refine head?_dropWhile_isBlank text c ?_
    rw [hrest, List.head?_append, Option.mem_def.1 hc]
    rfl
  · intro c hc
    rw [trim, List.getLast?_reverse] at hc
    exact head?_dropWhile_isBlank _ c hc

/-- Nothing else is left without the blanks around it. -/
theorem StripsTo.eq_trim (h : StripsTo text stripped) : stripped = trim text := by
  obtain ⟨⟨before, after, rfl, hbefore, hafter⟩, hhead, hlast⟩ := h
  by_cases hnil : stripped = []
  · subst hnil
    refine (trim_eq_nil_iff.2 fun c hc => ?_).symm
    rw [List.append_nil] at hc
    exact (List.mem_append.1 hc).elim (hbefore c) (hafter c)
  · have hfront : ∀ c ∈ (stripped ++ after).head?, isBlank c = false := by
      rwa [List.head?_append_of_ne_nil _ hnil]
    have hback : ∀ c ∈ stripped.reverse.head?, isBlank c = false := by
      rwa [List.head?_reverse]
    rw [trim, List.append_assoc, dropWhile_isBlank_append hbefore hfront, List.reverse_append,
      dropWhile_isBlank_append (fun c hc => hafter c (List.mem_reverse.1 hc)) hback,
      List.reverse_reverse]

end Text

/-- The characters that names have. -/
def NameChar (c : Char) : Prop :=
  ('A' ≤ c ∧ c ≤ 'Z') ∨ ('a' ≤ c ∧ c ≤ 'z') ∨ ('0' ≤ c ∧ c ≤ '9') ∨ c = '.' ∨ c = '-' ∨ c = '_'

/-- The text can be the name of a queue. -/
def IsName (text : List Char) : Prop :=
  text ≠ [] ∧ ∀ c ∈ text, NameChar c

/-- The characters are one, or they are one ASCII letter in its two cases. -/
def SameLetter (a b : Char) : Prop :=
  a = b ∨ ∃ k < 26, (a.toNat = 'A'.toNat + k ∧ b.toNat = 'a'.toNat + k) ∨
    (a.toNat = 'a'.toNat + k ∧ b.toNat = 'A'.toNat + k)

/-- The texts differ in the case of ASCII letters only. -/
def SameName (a b : List Char) : Prop :=
  List.Forall₂ SameLetter a b

/-- What is wrong with a text that cannot be the name of a queue. -/
theorem not_isName_iff {text : List Char} :
    ¬ IsName text ↔ text = [] ∨ ∃ c ∈ text, ¬ NameChar c := by
  simp only [IsName, not_and_or, not_not, not_forall, exists_prop]

variable {a b c : Char}

/-- Names are looked at for their characters. -/
theorem isNameChar_iff : isNameChar c = true ↔ NameChar c := by
  have hbetween (low high : Char) :
      (decide (low ≤ c) && decide (c ≤ high)) = true ↔ low ≤ c ∧ c ≤ high :=
    Bool.and_eq_true_iff.trans (and_congr decide_eq_true_iff decide_eq_true_iff)
  have hupper : c.isUpper = true ↔ 'A' ≤ c ∧ c ≤ 'Z' := decide_eq_true_iff
  have hlower : c.isLower = true ↔ 'a' ≤ c ∧ c ≤ 'z' := hbetween 'a' 'z'
  have hdigit : c.isDigit = true ↔ '0' ≤ c ∧ c ≤ '9' := hbetween '0' '9'
  have halpha : c.isAlpha = true ↔ c.isUpper = true ∨ c.isLower = true := Bool.or_eq_true_iff
  have halnum : c.isAlphanum = true ↔ c.isAlpha = true ∨ c.isDigit = true := Bool.or_eq_true_iff
  simp only [isNameChar, NameChar, Bool.or_eq_true, beq_iff_eq, halnum, halpha, hupper, hlower,
    hdigit, or_assoc]

/-- The numbers of the characters that names have. -/
theorem nameChar_iff_toNat : NameChar c ↔
    (65 ≤ c.toNat ∧ c.toNat ≤ 90) ∨ (97 ≤ c.toNat ∧ c.toNat ≤ 122) ∨
      (48 ≤ c.toNat ∧ c.toNat ≤ 57) ∨ c.toNat = 46 ∨ c.toNat = 45 ∨ c.toNat = 95 := by
  have hone (d : Char) : c = d ↔ c.toNat = d.toNat := Char.toNat_inj.symm
  rw [NameChar, hone, hone, hone]
  rfl

/-- The number of a character in lower case. -/
theorem toNat_toLower (c : Char) :
    c.toLower.toNat = if 65 ≤ c.toNat ∧ c.toNat ≤ 90 then c.toNat + 32 else c.toNat := by
  by_cases h : 65 ≤ c.toNat ∧ c.toNat ≤ 90
  · have hval : c.toLower.val = c.val + 32 := congrArg Char.val (dif_pos h)
    rw [if_pos h, ← Char.toNat_val, hval, UInt32.toNat_add]
    show (c.toNat + 32) % 2 ^ 32 = c.toNat + 32
    omega
  · have hsame : c.toLower = c := dif_neg h
    rw [if_neg h, hsame]

/-- Characters are the same in lower case exactly when they are one letter. -/
theorem toLower_eq_iff : a.toLower = b.toLower ↔ SameLetter a b := by
  rw [SameLetter, ← Char.toNat_inj, ← Char.toNat_inj, toNat_toLower, toNat_toLower]
  have hupper : 'A'.toNat = 65 := rfl
  have hlower : 'a'.toNat = 97 := rfl
  rw [hupper, hlower]
  constructor
  · intro h
    by_cases heq : a.toNat = b.toNat
    · exact .inl heq
    · refine .inr ⟨min a.toNat b.toNat - 65, ?_, ?_⟩ <;> split at h <;> split at h <;> omega
  · intro h
    rcases h with heq | ⟨k, hk, hab⟩
    · rw [heq]
    · split <;> split <;> omega

/-- A letter that names have in one case they have in the other. -/
theorem SameLetter.nameChar (h : SameLetter a b) (hb : NameChar b) : NameChar a := by
  have hupper : 'A'.toNat = 65 := rfl
  have hlower : 'a'.toNat = 97 := rfl
  rw [nameChar_iff_toNat] at hb ⊢
  rcases h with rfl | ⟨k, hk, hab⟩
  · exact hb
  · omega

/-- What differs from a name in the case of letters only is a name. -/
theorem SameName.isName {a b : List Char} (h : SameName a b) (hb : IsName b) : IsName a := by
  obtain ⟨hnil, hchars⟩ := hb
  refine ⟨?_, ?_⟩
  · rintro rfl
    exact hnil (List.forall₂_nil_left_iff.1 h)
  · clear hnil
    induction h with
    | nil => exact nofun
    | cons hletter _ ih =>
        obtain ⟨hfirst, hrest⟩ := List.forall_mem_cons.1 hchars
        exact List.forall_mem_cons.2 ⟨hletter.nameChar hfirst, ih hrest⟩

/-- Texts are the same in lower case exactly when they are the same name. -/
theorem foldCase_eq_iff {a b : String} : foldCase a = foldCase b ↔ SameName a.toList b.toList := by
  have hletters : (fun a b : Char => a.toLower = b.toLower) = SameLetter :=
    funext fun a => funext fun b => propext toLower_eq_iff
  rw [foldCase, foldCase, String.ofList_inj, SameName, ← hletters, ← List.forall₂_eq_eq_eq,
    List.forall₂_map_left_iff, List.forall₂_map_right_iff]

end WorkQueue
