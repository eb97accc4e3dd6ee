import BenchBoard.Decimal.Layout
import BenchBoard.Decimal.Reading
import BenchBoard.Proofs.Text.Trimming
/-!
# BenchBoard.Proofs.Decimal.Digits

**With what characters a number is written.** A natural number is written with digits, which read
back as that number (`readCount?_toString`). Every other number in its exact form is written
with letters, digits, points and minus signs alone (`isPlain_of_mem_exact`), and never with
nothing (`exact_ne_empty`). None of these characters is blank, so there is nothing to trim.
-/

namespace BenchBoard.Decimal

open BenchBoard.Text

variable {n : Nat} {c : Char} {cs : List Char}

/-- A letter, a digit, a point or a minus sign. -/
def isPlain (c : Char) : Bool :=
  c.isAlphanum || c == '.' || c == '-'

theorem isPlain_iff :
    isPlain c = true ↔
      (65 ≤ c.toNat ∧ c.toNat ≤ 90) ∨ (97 ≤ c.toNat ∧ c.toNat ≤ 122) ∨
        (48 ≤ c.toNat ∧ c.toNat ≤ 57) ∨ c.toNat = 46 ∨ c.toNat = 45 := by
  have hranges : isPlain c = ((decide (c.val ≥ 65 ∧ c.val ≤ 90) ||
      (decide (c.val ≥ 97) && decide (c.val ≤ 122)) ||
      (decide (c.val ≥ 48) && decide (c.val ≤ 57))) || c == '.' || c == '-') := rfl
  rw [hranges]
  simp only [Bool.or_eq_true, Bool.and_eq_true, decide_eq_true_eq, beq_iff_eq, ge_iff_le, or_assoc,
    UInt32.le_iff_toNat_le, ← Char.toNat_inj]
  exact Iff.rfl

/-- No blank is plain. -/
theorem isBlank_of_isPlain (h : isPlain c = true) : isBlank c = false := by
  rw [isPlain_iff] at h
  unfold isBlank
  simp only [Bool.or_eq_false_iff, Bool.and_eq_false_iff, decide_eq_false_iff_not,
    beq_eq_false_iff_ne]
  omega

/-- A plain text has nothing to trim. -/
theorem trim_of_isPlain {text : String} (h : ∀ c ∈ text.toList, isPlain c = true) :
    trim text = text := by
  have hfirst : text.toList.head?.any isBlank = false := by
    cases hc : text.toList.head? with
    | none => rfl
    | some c => exact isBlank_of_isPlain (h c (List.mem_of_head? hc))
  have hlast : text.toList.getLast?.any isBlank = false := by
    cases hc : text.toList.getLast? with
    | none => rfl
    | some c => exact isBlank_of_isPlain (h c (List.mem_of_getLast? hc))
  rw [trim, trimChars_eq_self hfirst hlast, String.ofList_toList]

/-! ### Natural numbers -/

theorem isDigit_eq (c : Char) : isDigit c = c.isDigit := rfl

theorem isDigit_of_mem_digitsOf (h : c ∈ digitsOf n) : isDigit c = true :=
  Nat.isDigit_of_mem_toDigits (by decide) (by decide) h

theorem isPlain_of_isDigit (h : isDigit c = true) : isPlain c = true := by
  rw [isDigit_eq] at h
  simp [isPlain, Char.isAlphanum, h]

theorem digitsOf_ne_nil (n : Nat) : digitsOf n ≠ [] :=
  Nat.toDigits_ne_nil

/-- The digits of a number spell it. -/
theorem digitsValue_digitsOf (n : Nat) : digitsValue 0 (digitsOf n) = n :=
  Nat.ofDigitChars_toDigits (by decide) (by decide)

theorem toList_toString (n : Nat) : (toString n).toList = digitsOf n :=
  Nat.toList_repr

theorem isPlain_of_mem_toString (h : c ∈ (toString n).toList) : isPlain c = true := by
  rw [toList_toString] at h
  exact isPlain_of_isDigit (isDigit_of_mem_digitsOf h)

/-- A number below `2 ^ 64` is read back from its digits. -/
theorem readCount?_toString (h : n < UInt64.size) : readCount? (toString n) = some n := by
  have hdigits : (digitsOf n).all isDigit = true :=
    List.all_eq_true.2 fun _ hc => isDigit_of_mem_digitsOf hc
  obtain ⟨c, cs, hcons⟩ := List.exists_cons_of_ne_nil (digitsOf_ne_nil n)
  have hplus : c ≠ '+' := by
    rintro rfl
    have hplus := isDigit_of_mem_digitsOf (hcons ▸ List.mem_cons_self : '+' ∈ digitsOf n)
    exact absurd hplus (by decide)
  have hvalue := digitsValue_digitsOf n
  unfold readCount?
  rw [toList_toString]
  rw [hcons] at hdigits hvalue ⊢
  split
  · rename_i heq
    exact absurd (List.cons.inj heq).1 hplus
  · simp [hdigits, hvalue, h]

/-! ### The exact form -/

variable {wholeFraction : Bool} {digits : List Char} {exponent : Int} {d : Numeral} {x : Float}

/-- Laying digits out adds zeros and a point. -/
theorem isPlain_of_mem_layPositional (hdigits : ∀ c ∈ digits, isPlain c = true)
    (h : c ∈ layPositional wholeFraction digits exponent) : isPlain c = true := by
  have hzeros : ∀ k, ∀ c ∈ List.replicate k '0', isPlain c = true := by
    intro k c hc
    rw [List.eq_of_mem_replicate hc]
    rfl
  unfold layPositional at h
  split at h
  · simp only [List.mem_append] at h
    rcases h with (h | h) | h
    · exact hdigits c h
    · exact hzeros _ c h
    · split at h
      · simp only [List.mem_cons, List.not_mem_nil, or_false] at h
        rcases h with rfl | rfl <;> rfl
      · cases h
  · simp only at h
    split at h
    · simp only [List.mem_append, List.mem_cons] at h
      rcases h with h | rfl | h
      · exact hdigits c (List.mem_of_mem_take h)
      · rfl
      · exact hdigits c (List.mem_of_mem_drop h)
    · simp only [List.cons_append, List.mem_append, List.mem_cons] at h
      rcases h with rfl | rfl | h | h
      · rfl
      · rfl
      · exact hzeros _ c h
      · exact hdigits c h

theorem layPositional_ne_nil (hdigits : digits ≠ []) :
    layPositional wholeFraction digits exponent ≠ [] := by
  unfold layPositional
  split
  · simp [hdigits]
  · simp only
    split <;> simp

/-- The exact form is always positional. -/
theorem lay_exactStyle (d : Numeral) :
    exactStyle.lay d = layPositional false (digitsOf d.digits) d.exponent := by
  simp [Style.lay, exactStyle]

theorem isPlain_of_mem_lay (h : c ∈ exactStyle.lay d) : isPlain c = true := by
  rw [lay_exactStyle] at h
  refine isPlain_of_mem_layPositional (fun c hc => ?_) h
  exact isPlain_of_isDigit (isDigit_of_mem_digitsOf hc)

theorem lay_ne_nil (d : Numeral) : exactStyle.lay d ≠ [] := by
  rw [lay_exactStyle]
  exact layPositional_ne_nil (digitsOf_ne_nil _)

theorem isPlain_of_mem_exact (h : c ∈ (exact x).toList) : isPlain c = true := by
  unfold exact at h
  split at h
  · simp only [Style.finite, String.toList_ofList] at h
    split at h
    · rcases List.mem_cons.1 h with rfl | h
      · rfl
      · exact isPlain_of_mem_lay h
    · exact isPlain_of_mem_lay h
  · have hword : ∀ word ∈ ["NaN", "-inf", "inf"], word.toList.all isPlain = true := by decide
    have hplain : (nonFinite x).toList.all isPlain = true := by
      unfold nonFinite
      split
      · exact hword _ (by simp)
      · split <;> exact hword _ (by simp)
    exact List.all_eq_true.1 hplain c h

/-- There is always something to show. -/
theorem exact_ne_empty (x : Float) : exact x ≠ "" := by
  unfold exact
  split
  · unfold Style.finite
    simp only
    split <;> simp [String.ext_iff, lay_ne_nil]
  · unfold nonFinite
    split
    · decide
    · split <;> decide

end BenchBoard.Decimal
