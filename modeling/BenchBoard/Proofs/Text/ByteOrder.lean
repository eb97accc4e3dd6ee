/-!
# BenchBoard.Proofs.Text.ByteOrder

**Texts are ordered as their bytes are.** Texts are compared character by character, by code point.
The greater of two characters has the greater bytes, and neither is the start of the other
(`utf8EncodeChar_append_lt`), so comparing two texts byte by byte decides the same
(`bytes_lt_bytes`).
-/

namespace BenchBoard.Text

/-- The bytes of a text in UTF-8. -/
def bytes (text : String) : List UInt8 :=
  text.toUTF8.data.toList

theorem bytes_eq_flatMap (text : String) :
    bytes text = text.toList.flatMap String.utf8EncodeChar := by
  rw [bytes, String.toUTF8_eq_toByteArray, ← String.utf8Encode_toList]
  exact List.toList_data_toByteArray

variable {m n : Nat} {xs ys : List UInt8}

theorem cons_ofNat_lt_of_lt (h : m < n) (hn : n < 256) :
    UInt8.ofNat m :: xs < UInt8.ofNat n :: ys := by
  refine List.cons_lt_cons_iff.2 (.inl ?_)
  rw [UInt8.lt_iff_toNat_lt, UInt8.toNat_ofNat', UInt8.toNat_ofNat']
  omega

theorem cons_ofNat_lt_of_le (h : m ≤ n) (hn : n < 256) (hrest : m = n → xs < ys) :
    UInt8.ofNat m :: xs < UInt8.ofNat n :: ys := by
  rcases Nat.lt_or_eq_of_le h with hlt | rfl
  · exact cons_ofNat_lt_of_lt hlt hn
  · exact List.cons_lt_cons_iff.2 (.inr ⟨rfl, hrest rfl⟩)

/-- The greater of two characters has the greater bytes, whatever follows them. -/
theorem utf8EncodeChar_append_lt {c d : Char} (h : c < d) (xs ys : List UInt8) :
    String.utf8EncodeChar c ++ xs < String.utf8EncodeChar d ++ ys := by
  have hlt : c.val.toNat < d.val.toNat := h
  have hmax : d.val.toNat < 1114112 := by
    have hvalid := d.valid
    simp only [UInt32.isValidChar, Nat.isValidChar] at hvalid
    omega
  unfold String.utf8EncodeChar
  simp only
  generalize c.val.toNat = m at hlt
  generalize d.val.toNat = n at hlt hmax
  -- The first byte tells how many there are, and it is greater for more of them. Of as many bytes,
  -- the first ones that differ are places of the code points to base 64.
  by_cases hm1 : m ≤ 127
  · rw [if_pos hm1]
    split
    · exact cons_ofNat_lt_of_lt hlt (by omega)
    · split
      · exact cons_ofNat_lt_of_lt (by omega) (by omega)
      · split <;> exact cons_ofNat_lt_of_lt (by omega) (by omega)
  · rw [if_neg hm1, if_neg (show ¬ n ≤ 127 by omega)]
    by_cases hm2 : m ≤ 2047
    · rw [if_pos hm2]
      split
      · exact cons_ofNat_lt_of_le (by omega) (by omega) fun _ =>
          cons_ofNat_lt_of_lt (by omega) (by omega)
      · split <;> exact cons_ofNat_lt_of_lt (by omega) (by omega)
    · rw [if_neg hm2, if_neg (show ¬ n ≤ 2047 by omega)]
      by_cases hm3 : m ≤ 65535
      · rw [if_pos hm3]
        split
        · exact cons_ofNat_lt_of_le (by omega) (by omega) fun _ =>
            cons_ofNat_lt_of_le (by omega) (by omega) fun _ =>
              cons_ofNat_lt_of_lt (by omega) (by omega)
        · exact cons_ofNat_lt_of_lt (by omega) (by omega)
      · rw [if_neg hm3, if_neg (show ¬ n ≤ 65535 by omega)]
        exact cons_ofNat_lt_of_le (by omega) (by omega) fun _ =>
          cons_ofNat_lt_of_le (by omega) (by omega) fun _ =>
            cons_ofNat_lt_of_le (by omega) (by omega) fun _ =>
              cons_ofNat_lt_of_lt (by omega) (by omega)

theorem exists_utf8EncodeChar_eq (c : Char) :
    ∃ first others, String.utf8EncodeChar c = first :: others :=
  List.exists_cons_of_ne_nil String.utf8EncodeChar_ne_nil

/-- The greater of two texts has the greater bytes. -/
theorem bytes_lt_bytes {a b : String} (h : a < b) : bytes a < bytes b := by
  have hchars : a.toList < b.toList := h
  rw [bytes_eq_flatMap, bytes_eq_flatMap]
  generalize a.toList = cs at hchars
  generalize b.toList = ds at hchars
  induction hchars with
  | nil =>
      rename_i d ds
      obtain ⟨first, others, hd⟩ := exists_utf8EncodeChar_eq d
      rw [List.flatMap_nil, List.flatMap_cons, hd]
      exact List.nil_lt_cons _ _
  | rel hlt => exact utf8EncodeChar_append_lt hlt _ _
  | cons hrest ih => exact List.append_left_lt ih

end BenchBoard.Text
