import Mathlib
/-!
# BenchBoard.Proofs.Decimal.Rounding

**How a binary number is rounded.** Arithmetic cuts an exact value off behind some binary place and
keeps two bits about the rest: the next bit, and whether anything is left after it. These two bits
say on which side of the middle the exact value lies (`Locates`), and a cut further to the left
keeps that true (`Locates.shiftRight`). So the mantissa that is chosen in the end is the nearest
one, and of two equally near ones the even one (`Locates.roundedMantissa_le_iff`).

`roundWithAccuracy_eq` says at which place the value is cut off and what is made of the mantissa.
-/

namespace BenchBoard.Decimal

open Float.Model Float.Model.UnpackedFloat

/-! ### The bits behind a cut -/

/-- The mantissa together with the bit behind it, which counts halves. -/
def halves (em : ExtendedMantissa) : Nat :=
  2 * em.mantissa + em.roundBit.toNat

/-- The exact value is the mantissa and the bit behind it, with something left after that exactly
when the last bit says so. -/
def Locates (em : ExtendedMantissa) (x : ℚ) : Prop :=
  if em.stickyBit then (halves em : ℚ) < 2 * x ∧ 2 * x < halves em + 1 else 2 * x = halves em

variable {em : ExtendedMantissa} {x : ℚ} {m n k : Nat} {acc : Accuracy}

/-- The mantissa is the whole part of the value. -/
theorem Locates.bounds (h : Locates em x) : (em.mantissa : ℚ) ≤ x ∧ x < em.mantissa + 1 := by
  obtain ⟨mantissa, round, sticky⟩ := em
  cases round <;> cases sticky <;> simp [Locates, halves] at h ⊢ <;> constructor <;> linarith

/-- Half of the value is cut off one place further to the left. -/
theorem Locates.shiftRightOne (h : Locates em x) : Locates em.shiftRightOne (x / 2) := by
  have hhalves : halves em.shiftRightOne = em.mantissa := by
    simp only [halves, ExtendedMantissa.shiftRightOne]
    rcases Nat.mod_two_eq_zero_or_one em.mantissa with hm | hm <;> simp [hm] <;> omega
  have htwo : 2 * (x / 2) = x := by ring
  obtain ⟨mantissa, round, sticky⟩ := em
  unfold Locates
  rw [hhalves, htwo]
  cases round <;> cases sticky <;>
    simp [Locates, halves, ExtendedMantissa.shiftRightOne] at h ⊢ <;>
    first | linarith | (constructor <;> linarith)

theorem Locates.shiftRight (h : Locates em x) (n : Nat) : Locates (em >>> n) (x / 2 ^ n) := by
  show Locates (n.repeat ExtendedMantissa.shiftRightOne em) _
  induction n with
  | zero => simpa [Nat.repeat] using h
  | succ n ih =>
      rw [Nat.repeat, pow_succ, ← div_div]
      exact ih.shiftRightOne

/-- **The nearest mantissa is chosen**, and of two equally near ones the even one. -/
theorem Locates.roundedMantissa_le_iff (h : Locates em x) (k : Nat) :
    em.roundedMantissa ≤ k ↔ 2 * x < 2 * k + 1 ∨ (2 * x = 2 * k + 1 ∧ k % 2 = 0) := by
  obtain ⟨mantissa, round, sticky⟩ := em
  cases round <;> cases sticky <;>
    simp only [Locates, halves, ExtendedMantissa.roundedMantissa, ExtendedMantissa.accuracy,
      Accuracy.roundToNearestEven, Bool.toNat_false, Bool.toNat_true, if_true, if_false,
      Bool.false_eq_true] at h ⊢
  · -- The value is the mantissa.
    rw [h]
    norm_cast
    omega
  · -- It lies below the middle, so the mantissa below is nearer.
    push_cast at h
    constructor
    · intro hle
      have : (mantissa : ℚ) ≤ k := by exact_mod_cast hle
      exact .inl (by linarith)
    · intro hx
      have : (2 * mantissa : ℚ) < 2 * k + 1 := by rcases hx with hx | ⟨hx, -⟩ <;> linarith
      have : 2 * mantissa < 2 * k + 1 := by exact_mod_cast this
      omega
  · -- It lies in the middle, and the even one of both is chosen.
    rw [h]
    norm_cast
    omega
  · -- It lies above the middle, so the mantissa above is nearer.
    push_cast at h
    constructor
    · intro hle
      have : (mantissa + 1 : ℚ) ≤ k := by exact_mod_cast hle
      exact .inl (by linarith)
    · intro hx
      have : (2 * mantissa + 1 : ℚ) < 2 * k + 1 := by rcases hx with hx | ⟨hx, -⟩ <;> linarith
      have : 2 * mantissa + 1 < 2 * k + 1 := by exact_mod_cast this
      omega

/-- A quotient of natural numbers is located by its remainder. -/
theorem locates_div {den : Nat} (hden : 0 < den) (num : Nat) :
    Locates (.ofMantissaAndAccuracy (num / den) (accuracyOfFraction (num % den) den))
      (num / den : ℚ) := by
  have hlt := Nat.mod_lt num hden
  have hpos : (0 : ℚ) < den := by exact_mod_cast hden
  have hnum : (num : ℚ) = den * (num / den : ℕ) + (num % den : ℕ) := by
    exact_mod_cast (Nat.div_add_mod num den).symm
  generalize num / den = a at *
  generalize num % den = b at *
  have hx : (num / den : ℚ) = a + b / den := by
    rw [hnum]
    field_simp
  rw [hx]
  unfold accuracyOfFraction
  split
  · rename_i hb
    simp [Locates, halves, ExtendedMantissa.ofMantissaAndAccuracy, hb]
  · rename_i hb
    have hsome : (0 : ℚ) < b / den := by
      have : 0 < b := Nat.pos_of_ne_zero hb
      positivity
    have hbelow : (b / den : ℚ) < 1 := by
      rw [div_lt_one hpos]
      exact_mod_cast hlt
    have htwice : (2 * (b / den) : ℚ) = (2 * b : ℕ) / den := by
      push_cast
      ring
    cases hcompare : compare (2 * b) den with
    | lt =>
        have hmiddle : (2 * (b / den) : ℚ) < 1 := by
          rw [htwice, div_lt_one hpos]
          exact_mod_cast Nat.compare_eq_lt.1 hcompare
        simp [Locates, halves, ExtendedMantissa.ofMantissaAndAccuracy]
        constructor <;> linarith
    | eq =>
        have hmiddle : (2 * (b / den) : ℚ) = 1 := by
          rw [htwice, Nat.compare_eq_eq.1 hcompare, div_self hpos.ne']
        simp [Locates, halves, ExtendedMantissa.ofMantissaAndAccuracy]
        linarith
    | gt =>
        have hmiddle : (1 : ℚ) < 2 * (b / den) := by
          rw [htwice, one_lt_div hpos]
          exact_mod_cast Nat.compare_eq_gt.1 hcompare
        simp [Locates, halves, ExtendedMantissa.ofMantissaAndAccuracy]
        constructor <;> linarith

/-! ### Where a value is cut off -/

/-- The places of a binary64 number: at least the last one there is, and else so far to the left
that fifty-three places are left. -/
theorem targetExponent_totalExponent (m : Nat) (e : Int) :
    Format.binary64.targetExponent (totalExponent m e) = max (m.log2 + e - 52) (-1074) := by
  simp only [Format.targetExponent, totalExponent, Format.mantissaBits, Format.minExponent]
  omega

theorem two_zpow_eq {i j : Int} (n : Nat) (h : i = j + n) : (2 : ℚ) ^ i = 2 ^ n * (2 : ℚ) ^ j := by
  rw [h, zpow_add₀ two_ne_zero, zpow_natCast, mul_comm]

/-- The value in the middle between the mantissas `k` and `k + 1` at the place `e`. -/
def middle (k : Nat) (e : Int) : ℚ :=
  (2 * k + 1) * (2 : ℚ) ^ (e - 1)

/-- The mantissa `m` at the place `e` is what the value `q` is rounded to. -/
structure Rounds (q : ℚ) (m : Nat) (e : Int) : Prop where
  /-- It is no place below the last one. -/
  last : -1074 ≤ e
  /-- Unless it is the last place, the value takes all fifty-three places. -/
  full : e = -1074 ∨ (2 : ℚ) ^ (e + 52) ≤ q
  fits : q < (2 : ℚ) ^ (e + 53)
  /-- No other mantissa is nearer, and no even one as near. -/
  nearest : ∀ k : Nat, m ≤ k ↔ q < middle k e ∨ (q = middle k e ∧ k % 2 = 0)

variable {q : ℚ} {e : Int}

/-- Rounding carries into one more place at most. -/
theorem Rounds.le (h : Rounds q m e) : m ≤ 2 ^ 53 := by
  rw [h.nearest]
  have hfits := h.fits
  rw [two_zpow_eq (i := e + 53) (j := e - 1) 54 (by omega)] at hfits
  refine .inl (hfits.trans_le ?_)
  rw [middle]
  gcongr
  norm_num

/-- A value that takes all fifty-three places has a mantissa that does. -/
theorem Rounds.full_mantissa (h : Rounds q m e) : e = -1074 ∨ 2 ^ 52 ≤ m := by
  refine h.full.imp id fun hfull => ?_
  rw [two_zpow_eq (i := e + 52) (j := e - 1) 53 (by omega)] at hfull
  have hbelow : middle (2 ^ 52 - 1) e < q := by
    refine lt_of_lt_of_le ?_ hfull
    rw [middle]
    gcongr
    norm_num
  by_contra hlt
  rcases (h.nearest (2 ^ 52 - 1)).1 (by omega) with hq | ⟨hq, -⟩
  · exact hbelow.not_gt hq
  · exact hbelow.ne' hq

/-- A value is cut off at its place. -/
theorem shiftToTargetExponent_eq (hcut : e ≤ -1074 ∨ 2 ^ 52 ≤ m) (acc : Accuracy) :
    ∃ n : Nat, e + n = max (m.log2 + e - 52) (-1074) ∧
      shiftToTargetExponent .binary64 m e acc =
        (ExtendedMantissa.ofMantissaAndAccuracy m acc >>> n, e + n) := by
  have hle : e ≤ max (m.log2 + e - 52) (-1074) := by
    rcases hcut with he | hm
    · omega
    · have : 52 ≤ m.log2 := (Nat.le_log2 (by omega)).2 hm
      omega
  refine ⟨(max (m.log2 + e - 52) (-1074) - e).toNat, by omega, ?_⟩
  rw [shiftToTargetExponent, targetExponent_totalExponent, shiftToExponent]

/-- At any place but the last one the mantissa takes all fifty-three places. -/
theorem zpow_le_of_place (hn : e + n = max (m.log2 + e - 52) (-1074)) (hplace : e + n ≠ -1074) :
    (2 : ℚ) ^ (e + n + 52) ≤ m * (2 : ℚ) ^ e := by
  have hm : m ≠ 0 := by
    rintro rfl
    rw [Nat.log2_zero] at hn
    omega
  have hbit : (2 ^ m.log2 : ℚ) ≤ m := by exact_mod_cast Nat.log2_self_le hm
  rw [two_zpow_eq (i := e + n + 52) (j := e) m.log2 (by omega)]
  gcongr

/-- At its place a mantissa takes no more than fifty-three places. -/
theorem le_zpow_of_place (hn : e + n = max (m.log2 + e - 52) (-1074)) :
    (m + 1) * (2 : ℚ) ^ e ≤ (2 : ℚ) ^ (e + n + 53) := by
  have hbits : (m + 1 : ℚ) ≤ 2 ^ (m.log2 + 1) := by
    exact_mod_cast Nat.succ_le_of_lt Nat.lt_log2_self
  calc (m + 1) * (2 : ℚ) ^ e ≤ 2 ^ (m.log2 + 1) * 2 ^ e := by gcongr
    _ = 2 ^ (e + (m.log2 + 1 : ℕ)) := (two_zpow_eq _ rfl).symm
    _ ≤ 2 ^ (e + n + 53) := zpow_le_zpow_right₀ one_le_two (by omega)

/-- The chosen mantissa, in terms of the value itself. -/
theorem Locates.roundedMantissa_le_iff_middle (h : Locates em (q / (2 : ℚ) ^ e)) (k : Nat) :
    em.roundedMantissa ≤ k ↔ q < middle k e ∨ (q = middle k e ∧ k % 2 = 0) := by
  have hpos : (0 : ℚ) < 2 ^ (e - 1) := by positivity
  have hq : q = 2 * (q / (2 : ℚ) ^ e) * 2 ^ (e - 1) := by
    rw [two_zpow_eq (i := e) (j := e - 1) 1 (by omega)]
    field_simp
  rw [h.roundedMantissa_le_iff]
  generalize q / (2 : ℚ) ^ e = y at hq
  rw [hq, middle, mul_lt_mul_iff_of_pos_right hpos, mul_left_inj' hpos.ne']

theorem rounds_of_locates
    (h : Locates (.ofMantissaAndAccuracy m acc) (q / (2 : ℚ) ^ e))
    (hn : e + n = max (m.log2 + e - 52) (-1074)) :
    Rounds q (ExtendedMantissa.ofMantissaAndAccuracy m acc >>> n).roundedMantissa (e + n) := by
  have hpos : (0 : ℚ) < 2 ^ e := by positivity
  have hmantissa : (ExtendedMantissa.ofMantissaAndAccuracy m acc).mantissa = m := by
    cases acc with
    | exact => rfl
    | inexact side => cases side <;> rfl
  obtain ⟨hlow, hhigh⟩ := h.bounds
  rw [hmantissa, le_div_iff₀ hpos] at hlow
  rw [hmantissa, div_lt_iff₀ hpos] at hhigh
  refine ⟨by omega, ?_, hhigh.trans_le (le_zpow_of_place hn), ?_⟩
  · by_cases hlast : e + n = -1074
    · exact .inl hlast
    · exact .inr ((zpow_le_of_place hn hlast).trans hlow)
  · have hshifted := h.shiftRight n
    rw [div_div, ← zpow_natCast (2 : ℚ) n, ← zpow_add₀ two_ne_zero] at hshifted
    exact hshifted.roundedMantissa_le_iff_middle

/-- The number with this mantissa at this place. A mantissa of fifty-four bits is one place too
long. -/
def ofMantissa (sign : Sign) (m : Nat) (e : Int) : UnpackedFloat :=
  if hm : m = 0 then .zero sign
  else if m = 2 ^ 53 then .finite sign (2 ^ 52) (e + 1) (by decide)
  else .finite sign m e (Nat.pos_of_ne_zero hm)

/-- A rounded mantissa has its place already, unless rounding made it too long. -/
theorem shiftToTargetExponent_of_le (he : -1074 ≤ e) (hm : m ≤ 2 ^ 53) :
    shiftToTargetExponent .binary64 m e .exact =
      if m = 2 ^ 53 then (⟨2 ^ 52, false, false⟩, e + 1) else (⟨m, false, false⟩, e) := by
  rw [shiftToTargetExponent, targetExponent_totalExponent, shiftToExponent]
  split
  · rename_i hlong
    subst hlong
    have hplace : (max ((2 ^ 53 : ℕ).log2 + e - 52) (-1074) - e).toNat = 1 := by
      rw [Nat.log2_two_pow]
      omega
    rw [hplace]
    rfl
  · rename_i hne
    have hshort : m.log2 < 53 := by
      by_cases hzero : m = 0
      · rw [hzero, Nat.log2_zero]
        omega
      · rw [Nat.log2_lt hzero]
        omega
    have hplace : (max (m.log2 + e - 52) (-1074) - e).toNat = 0 := by omega
    rw [hplace, Int.natCast_zero, Int.add_zero]
    rfl

theorem roundWithAccuracy_of_shift {sign : Sign} {t t' : Int} {em em' : ExtendedMantissa}
    (h : shiftToTargetExponent .binary64 m e acc = (em, t))
    (h' : shiftToTargetExponent .binary64 em.roundedMantissa t .exact = (em', t')) :
    roundWithAccuracy .binary64 sign m e acc =
      if hm : em'.mantissa = 0 then .zero sign
      else .finite sign em'.mantissa t' (Nat.pos_of_ne_zero hm) := by
  rw [roundWithAccuracy, h]
  simp only [h']

/-- **The result of an operation is its exact value, rounded.** -/
theorem roundWithAccuracy_eq
    (h : Locates (.ofMantissaAndAccuracy m acc) (q / (2 : ℚ) ^ e))
    (hcut : e ≤ -1074 ∨ 2 ^ 52 ≤ m) (sign : Sign) :
    ∃ r t, Rounds q r t ∧ roundWithAccuracy .binary64 sign m e acc = ofMantissa sign r t := by
  obtain ⟨n, hn, hshift⟩ := shiftToTargetExponent_eq hcut acc
  have hrounds := rounds_of_locates h hn
  have hcarry := shiftToTargetExponent_of_le hrounds.last hrounds.le
  refine ⟨_, _, hrounds, ?_⟩
  by_cases hlong : (ExtendedMantissa.ofMantissaAndAccuracy m acc >>> n).roundedMantissa = 2 ^ 53
  · rw [if_pos hlong] at hcarry
    rw [roundWithAccuracy_of_shift hshift hcarry, ofMantissa]
    simp [hlong]
  · rw [if_neg hlong] at hcarry
    rw [roundWithAccuracy_of_shift hshift hcarry, ofMantissa]
    simp only [if_neg hlong]

/-! ### The ends of the range -/

/-- The mantissa is beyond the greatest one at the greatest place. -/
def Overflows (m : Nat) (e : Int) : Prop :=
  971 < e ∨ e = 971 ∧ m = 2 ^ 53

theorem middle_greatest :
    middle (2 ^ 53 - 1) 971 = (2 : ℚ) ^ (1024 : ℤ) - (2 : ℚ) ^ (970 : ℤ) := by
  have hodd : (2 * (2 ^ 53 - 1 : ℕ) + 1 : ℚ) = 2 ^ 54 - 1 := by norm_num
  rw [two_zpow_eq (i := 1024) (j := 970) 54 rfl, middle, hodd, sub_mul, one_mul]
  rfl

/-- Rounding leaves the range exactly from the middle above the greatest mantissa on. -/
theorem Rounds.overflows_iff (h : Rounds q m e) :
    Overflows m e ↔ (2 : ℚ) ^ (1024 : ℤ) - (2 : ℚ) ^ (970 : ℤ) ≤ q := by
  unfold Overflows
  rcases lt_trichotomy e 971 with he | rfl | he
  · have hbelow : q < (2 : ℚ) ^ (1023 : ℤ) :=
      h.fits.trans_le (zpow_le_zpow_right₀ one_le_two (by omega))
    have hgap : (2 : ℚ) ^ (1023 : ℤ) ≤ middle (2 ^ 53 - 1) 971 := by
      rw [two_zpow_eq (i := 1023) (j := 971 - 1) 53 rfl, middle]
      gcongr
      norm_num
    rw [← middle_greatest]
    exact iff_of_false (by omega) (hbelow.trans_le hgap).not_ge
  · -- The greatest mantissa is odd, so the middle above it is rounded up.
    have hle := h.le
    have hnearest : m ≤ 2 ^ 53 - 1 ↔ q < middle (2 ^ 53 - 1) 971 := by
      rw [h.nearest]
      exact or_iff_left (fun hodd => absurd hodd.2 (by decide))
    rw [← middle_greatest, ← not_lt, ← hnearest]
    omega
  · have habove : (2 : ℚ) ^ (1024 : ℤ) ≤ q := by
      rcases h.full with hlast | hfull
      · omega
      · exact (zpow_le_zpow_right₀ one_le_two (by omega)).trans hfull
    exact iff_of_true (.inl he) ((sub_le_self _ (by positivity)).trans habove)

/-- What does not leave the range is below the next power. -/
theorem Rounds.lt_zpow (h : Rounds q m e) (hin : ¬ Overflows m e) :
    m * (2 : ℚ) ^ e < (2 : ℚ) ^ (1024 : ℤ) := by
  unfold Overflows at hin
  have hle := h.le
  by_cases he : e = 971
  · subst he
    rw [two_zpow_eq (i := 1024) (j := 971) 53 rfl]
    gcongr
    have hlt : m < 2 ^ 53 := by omega
    exact_mod_cast hlt
  · calc m * (2 : ℚ) ^ e ≤ 2 ^ 53 * (2 : ℚ) ^ e := by
          gcongr
          exact_mod_cast hle
      _ = (2 : ℚ) ^ (e + 53) := (two_zpow_eq 53 rfl).symm
      _ < (2 : ℚ) ^ (1024 : ℤ) := zpow_lt_zpow_right₀ one_lt_two (by omega)

/-- A mantissa that is not at the last place stands for more than this. -/
theorem Rounds.zpow_lt (h : Rounds q m e) (he : e ≠ -1074) :
    (2 : ℚ) ^ (-1023 : ℤ) < m * (2 : ℚ) ^ e ∧ (2 : ℚ) ^ (-1023 : ℤ) < q := by
  have hplace : (2 : ℚ) ^ (-1023 : ℤ) < 2 ^ (e + 52) :=
    zpow_lt_zpow_right₀ one_lt_two (by have := h.last; omega)
  refine ⟨hplace.trans_le ?_, hplace.trans_le (h.full.resolve_left he)⟩
  rw [two_zpow_eq (i := e + 52) (j := e) 52 rfl]
  gcongr
  exact_mod_cast h.full_mantissa.resolve_left he

/-- The mantissa is zero up to the middle above zero. -/
theorem Rounds.eq_zero_iff (h : Rounds q m e) : m = 0 ↔ q ≤ (2 : ℚ) ^ (-1075 : ℤ) := by
  by_cases he : e = -1074
  · subst he
    have hmiddle : middle 0 (-1074) = (2 : ℚ) ^ (-1075 : ℤ) := by simp [middle]
    rw [← Nat.le_zero, h.nearest, ← hmiddle, le_iff_lt_or_eq]
    simp
  · have hmantissa := h.full_mantissa.resolve_left he
    have hpower : (2 : ℚ) ^ (-1075 : ℤ) < 2 ^ (-1023 : ℤ) :=
      zpow_lt_zpow_right₀ one_lt_two (by decide)
    exact iff_of_false (by omega) (hpower.trans (h.zpow_lt he).2).not_ge

/-- What is rounded to the reciprocal of the power above the range, or to less. -/
theorem Rounds.le_iff (h : Rounds q m e) :
    m * (2 : ℚ) ^ e ≤ (2 : ℚ) ^ (-1024 : ℤ) ↔
      q ≤ (2 : ℚ) ^ (-1024 : ℤ) + (2 : ℚ) ^ (-1075 : ℤ) := by
  by_cases he : e = -1074
  · subst he
    have hmiddle : middle (2 ^ 50) (-1074) = (2 : ℚ) ^ (-1024 : ℤ) + (2 : ℚ) ^ (-1075 : ℤ) := by
      have hodd : (2 * (2 ^ 50 : ℕ) + 1 : ℚ) = 2 ^ 51 + 1 := by norm_num
      rw [two_zpow_eq (i := -1024) (j := -1075) 51 rfl, middle, hodd, add_mul, one_mul]
      rfl
    have hmantissa : m * (2 : ℚ) ^ (-1074 : ℤ) ≤ (2 : ℚ) ^ (-1024 : ℤ) ↔ m ≤ 2 ^ 50 := by
      rw [two_zpow_eq (i := -1024) (j := -1074) 50 rfl, mul_le_mul_iff_of_pos_right (by positivity)]
      norm_cast
    rw [hmantissa, h.nearest, ← hmiddle, le_iff_lt_or_eq]
    simp
  · obtain ⟨hm, hq⟩ := h.zpow_lt he
    have hless : (2 : ℚ) ^ (-1024 : ℤ) + (2 : ℚ) ^ (-1075 : ℤ) ≤ 2 ^ (-1023 : ℤ) := by
      rw [two_zpow_eq (i := -1023) (j := -1024) 1 rfl, pow_one, two_mul]
      gcongr
      · exact one_le_two
      · decide
    have hpos : (0 : ℚ) < 2 ^ (-1075 : ℤ) := by positivity
    exact iff_of_false ((le_add_of_nonneg_right hpos.le).trans hless |>.trans_lt hm).not_ge
      (hless.trans_lt hq).not_ge

/-- A reciprocal leaves the range exactly for the numbers up to that of the power above it. There
is a gap behind that number, so rounding plays no part. -/
theorem overflows_reciprocal_iff (hm : 0 < m) (he : -1074 ≤ e) :
    (2 : ℚ) ^ (1024 : ℤ) - (2 : ℚ) ^ (970 : ℤ) ≤ 1 / (m * (2 : ℚ) ^ e) ↔
      m * (2 : ℚ) ^ e ≤ (2 : ℚ) ^ (-1024 : ℤ) := by
  obtain ⟨j, hj⟩ := Int.eq_ofNat_of_zero_le (by omega : 0 ≤ e + 1074)
  have hvalue : m * (2 : ℚ) ^ e = (m * 2 ^ j : ℕ) * (2 : ℚ) ^ (-1074 : ℤ) := by
    rw [two_zpow_eq (i := e) (j := -1074) j (by omega), Nat.cast_mul, Nat.cast_pow, mul_assoc]
    rfl
  have hpos : 0 < m * 2 ^ j := by positivity
  rw [hvalue]
  generalize m * 2 ^ j = n at hpos
  have hn : (0 : ℚ) < n := by exact_mod_cast hpos
  have hscale : middle (2 ^ 53 - 1) 971 * (n * (2 : ℚ) ^ (-1074 : ℤ)) =
      ((2 ^ 54 - 1) * n : ℕ) * (2 : ℚ) ^ (-104 : ℤ) := by
    have hodd : (2 * (2 ^ 53 - 1 : ℕ) + 1 : ℚ) = (2 ^ 54 - 1 : ℕ) := by norm_num
    have hpower : (2 : ℚ) ^ (971 - 1 : ℤ) * (2 : ℚ) ^ (-1074 : ℤ) = 2 ^ (-104 : ℤ) :=
      (zpow_add₀ two_ne_zero _ _).symm
    rw [middle, hodd, ← hpower, Nat.cast_mul, mul_mul_mul_comm]
  have hbound : (1 : ℚ) = (2 ^ 104 : ℕ) * (2 : ℚ) ^ (-104 : ℤ) := by norm_num
  have hlimit : (2 : ℚ) ^ (-1024 : ℤ) = (2 ^ 50 : ℕ) * (2 : ℚ) ^ (-1074 : ℤ) := by
    rw [two_zpow_eq (i := -1024) (j := -1074) 50 rfl]
    norm_cast
  rw [← middle_greatest, le_div_iff₀ (by positivity), hscale, hbound, hlimit,
    mul_le_mul_iff_of_pos_right (by positivity), mul_le_mul_iff_of_pos_right (by positivity),
    Nat.cast_le, Nat.cast_le]
  omega

end BenchBoard.Decimal
