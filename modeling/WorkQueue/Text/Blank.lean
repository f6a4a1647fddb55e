/-!
# Blank characters

The characters with the Unicode property `White_Space`, and the text that is left when they are
taken from both ends. `trim_eq_nil_iff` says that only blank text trims to nothing.
-/

namespace WorkQueue.Text

/-- Does the character have the Unicode property `White_Space`? -/
def isBlank (c : Char) : Bool :=
  let n := c.toNat
  (0x09 ≤ n && n ≤ 0x0D) || n == 0x20 || n == 0x85 || n == 0xA0 || n == 0x1680 ||
    (0x2000 ≤ n && n ≤ 0x200A) || n == 0x2028 || n == 0x2029 || n == 0x202F || n == 0x205F ||
    n == 0x3000

/-- The text from its first to its last character that is not blank. -/
def trim (text : List Char) : List Char :=
  ((text.dropWhile isBlank).reverse.dropWhile isBlank).reverse

/-- Dropping blanks leaves nothing exactly when there was nothing else. -/
theorem dropWhile_isBlank_eq_nil_iff {text : List Char} :
    text.dropWhile isBlank = [] ↔ ∀ c ∈ text, isBlank c = true := by
  induction text with
  | nil => simp
  | cons c rest ih => by_cases h : isBlank c = true <;> simp [h, ih]

/-- A text trims to nothing exactly when all of it is blank. -/
theorem trim_eq_nil_iff {text : List Char} : trim text = [] ↔ ∀ c ∈ text, isBlank c = true := by
  unfold trim
  rw [List.reverse_eq_nil_iff, dropWhile_isBlank_eq_nil_iff]
  simp only [List.mem_reverse]
  constructor
  · intro h
    cases hd : text.dropWhile isBlank with
    | nil => exact dropWhile_isBlank_eq_nil_iff.1 hd
    | cons c rest =>
        have hc := h c (by simp [hd])
        have hn := List.head?_dropWhile_not isBlank text
        simp [hd, hc] at hn
  · intro h c hc
    exact h c ((List.dropWhile_sublist isBlank).subset hc)

end WorkQueue.Text
