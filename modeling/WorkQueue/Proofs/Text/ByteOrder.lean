import WorkQueue.Text.Utf8
import Mathlib.Tactic.ByContra

/-!
# Texts are ordered as their bytes

Comparing two texts byte by byte in UTF-8 is comparing them character by character: of two
characters the later one has the later bytes, whatever comes behind. So a comparison that knows
nothing of characters puts texts in the order of their characters, and a text before those that
begin with it.
-/

namespace WorkQueue.Text

/-- Reading out bytes gives those that have not been read yet behind those that have. -/
theorem toList_loop (bytes : ByteArray) (index : Nat) (read : List UInt8) :
    ByteArray.toList.loop bytes index read = read.reverse ++ bytes.data.toList.drop index := by
  fun_induction ByteArray.toList.loop bytes index read with
  | case1 index read hlt ih =>
      have hindex : index < bytes.data.toList.length := hlt
      have hbyte : bytes.get! index = bytes.data.toList[index] :=
        getElem!_pos bytes.data index hlt
      rw [ih, List.reverse_cons, List.append_assoc, hbyte, List.singleton_append,
        List.getElem_cons_drop]
  | case2 index read hlt =>
      rw [List.drop_eq_nil_of_le (Nat.not_lt.1 hlt), List.append_nil]

/-- The bytes of a text are those of its characters. -/
theorem writeUtf8_eq_flatMap (text : String) :
    writeUtf8 text = text.toList.flatMap String.utf8EncodeChar := by
  have hbytes : text.toUTF8 = (text.toList.flatMap String.utf8EncodeChar).toByteArray := by
    rw [← List.utf8Encode, String.utf8Encode_toList]
    rfl
  rw [writeUtf8, hbytes, ByteArray.toList, toList_loop, List.toList_data_toByteArray]
  rfl

/-- The last character has the number 0x10FFFF. -/
theorem val_lt (c : Char) : c.val.toNat < 0x110000 := by
  rcases c.valid with hlow | hhigh
  · exact Nat.lt_trans hlow (by decide)
  · exact hhigh.2

/-- Bytes are compared by the first of them, and by the others if that is the same. -/
theorem ofNat_cons_lt_iff {a b : Nat} (ha : a < 256) (hb : b < 256) {x y : List UInt8} :
    UInt8.ofNat a :: x < UInt8.ofNat b :: y ↔ a < b ∨ a = b ∧ x < y := by
  rw [List.cons_lt_cons_iff, UInt8.ofNat_lt_iff_lt ha hb, ← UInt8.toNat_inj,
    UInt8.toNat_ofNat_of_lt' ha, UInt8.toNat_ofNat_of_lt' hb]

/-- A later character has later bytes, whatever comes behind. -/
theorem utf8EncodeChar_append_lt {c d : Char} (h : c < d) (x y : List UInt8) :
    String.utf8EncodeChar c ++ x < String.utf8EncodeChar d ++ y := by
  have hlt : c.val.toNat < d.val.toNat := h
  have hlast := val_lt d
  unfold String.utf8EncodeChar
  generalize c.val.toNat = m at hlt
  generalize d.val.toNat = n at hlt hlast
  simp only
  repeat' split
  -- A character with more bytes has the larger first byte, and two with as many bytes differ in
  -- one of the digits of base 64 that the bytes carry.
  all_goals simp (disch := omega) only [List.cons_append, List.nil_append, ofNat_cons_lt_iff]
  any_goals omega
  have hdigits : m / 262144 < n / 262144 ∨ m / 262144 = n / 262144 ∧
      (m / 4096 % 64 < n / 4096 % 64 ∨ m / 4096 % 64 = n / 4096 % 64 ∧
        (m / 64 % 64 < n / 64 % 64 ∨ m / 64 % 64 = n / 64 % 64 ∧ m % 64 < n % 64)) := by omega
  have hm : m / 262144 % 8 = m / 262144 := by omega
  have hn : n / 262144 % 8 = n / 262144 := by omega
  simp only [hm, hn, Nat.add_lt_add_iff_right, Nat.add_right_cancel_iff]
  exact hdigits.imp_right (And.imp_right (Or.imp_right (And.imp_right (Or.imp_right
    (And.imp_right Or.inl)))))

/-- Later characters in a row have later bytes. -/
theorem flatMap_utf8EncodeChar_lt {a b : List Char} (h : a < b) :
    a.flatMap String.utf8EncodeChar < b.flatMap String.utf8EncodeChar := by
  induction a generalizing b with
  | nil =>
      cases b with
      | nil => exact absurd h (List.lt_irrefl [])
      | cons d rest =>
          obtain ⟨byte, more, hbytes⟩ : ∃ byte more, String.utf8EncodeChar d = byte :: more :=
            List.exists_cons_of_ne_nil String.utf8EncodeChar_ne_nil
          rw [List.flatMap_nil, List.flatMap_cons, hbytes, List.cons_append]
          exact List.nil_lt_cons _ _
  | cons c more ih =>
      cases b with
      | nil => exact absurd h (List.not_lt_nil _)
      | cons d rest =>
          rw [List.flatMap_cons, List.flatMap_cons]
          rcases List.cons_lt_cons_iff.1 h with hlt | ⟨rfl, hrest⟩
          · exact utf8EncodeChar_append_lt hlt _ _
          · exact List.append_left_lt (ih hrest)

/-- Texts are ordered as their bytes. -/
theorem writeUtf8_lt_iff {a b : String} : writeUtf8 a < writeUtf8 b ↔ a.toList < b.toList := by
  rw [writeUtf8_eq_flatMap, writeUtf8_eq_flatMap]
  refine ⟨fun hbytes => ?_, flatMap_utf8EncodeChar_lt⟩
  by_contra hnot
  rcases List.le_iff_lt_or_eq.1 (List.not_lt.1 hnot) with hlt | heq
  · exact List.lt_asymm hbytes (flatMap_utf8EncodeChar_lt hlt)
  · rw [heq] at hbytes
    exact List.lt_irrefl _ hbytes

end WorkQueue.Text
