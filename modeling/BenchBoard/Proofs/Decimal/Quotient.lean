import BenchBoard.Proofs.Decimal.Packing
/-!
# BenchBoard.Proofs.Decimal.Quotient

**When a quotient leaves the range of a float.** A quotient of two floats is their exact quotient,
rounded once (`exists_rounds_div`). So the exact quotient alone decides whether the result is finite
(`isFinite_div_iff`) and whether it is zero (`div_eq_zero_iff`).

A number divided by itself is exactly one (`div_self_of_isUsable`): nothing is left to round.

A reciprocal of a quotient is rounded twice. It is never zero, and it is infinite for the quotients
that are rounded to `2 ^ -1024` or to less (`isFinite_one_div_div_iff`): these are floats, but their
reciprocals are not.
-/

namespace BenchBoard.Decimal

open Float.Model Float.Model.UnpackedFloat

variable {x y : Float}

/-! ### Division -/

/-- The quotient of two mantissas is cut off far enough to the right to be rounded. -/
theorem locates_divCore {m₁ m₂ : Nat} (e₁ e₂ : Int) (h₁ : 0 < m₁) (h₂ : 0 < m₂) :
    ∃ m e acc, divCore .binary64 m₁ e₁ m₂ e₂ = (m, e, acc) ∧ (e ≤ -1074 ∨ 2 ^ 52 ≤ m) ∧
      Locates (.ofMantissaAndAccuracy m acc)
        (m₁ * (2 : ℚ) ^ e₁ / (m₂ * (2 : ℚ) ^ e₂) / (2 : ℚ) ^ e) := by
  have hpos : (0 : ℚ) < m₂ := by exact_mod_cast h₂
  have hle : min (e₁ - e₂) (Format.binary64.targetExponent
      (totalExponent m₁ e₁ - totalExponent m₂ e₂)) ≤ e₁ - e₂ := min_le_left _ _
  have htarget : min (e₁ - e₂) (Format.binary64.targetExponent
      (totalExponent m₁ e₁ - totalExponent m₂ e₂)) ≤
        max (m₁.log2 + e₁ - (m₂.log2 + e₂) - 53) (-1074) := by
    have : Format.binary64.targetExponent (totalExponent m₁ e₁ - totalExponent m₂ e₂) =
        max (m₁.log2 + e₁ - (m₂.log2 + e₂) - 53) (-1074) := by
      simp only [Format.targetExponent, totalExponent, Format.mantissaBits, Format.minExponent]
      omega
    omega
  unfold divCore
  generalize min (e₁ - e₂) (Format.binary64.targetExponent
      (totalExponent m₁ e₁ - totalExponent m₂ e₂)) = t at hle htarget ⊢
  obtain ⟨n, hn⟩ := Int.eq_ofNat_of_zero_le (by omega : 0 ≤ e₁ - e₂ - t)
  refine ⟨_, _, _, rfl, ?_, ?_⟩
  · rw [hn, Int.toNat_natCast, Nat.le_div_iff_mul_le h₂, Nat.shiftLeft_eq]
    by_cases hlast : t ≤ -1074
    · exact .inl hlast
    · right
      calc 2 ^ 52 * m₂ ≤ 2 ^ 52 * 2 ^ (m₂.log2 + 1) :=
            Nat.mul_le_mul_left _ (Nat.le_of_lt Nat.lt_log2_self)
        _ = 2 ^ (52 + (m₂.log2 + 1)) := (Nat.pow_add 2 _ _).symm
        _ ≤ 2 ^ (m₁.log2 + n) := Nat.pow_le_pow_right (by decide) (by omega)
        _ = 2 ^ m₁.log2 * 2 ^ n := Nat.pow_add 2 _ _
        _ ≤ m₁ * 2 ^ n := Nat.mul_le_mul_right _ (Nat.log2_self_le (by omega))
  · have hquotient : m₁ * (2 : ℚ) ^ e₁ / (m₂ * (2 : ℚ) ^ e₂) / (2 : ℚ) ^ t =
        (m₁ <<< n : ℕ) / m₂ := by
      obtain rfl : e₁ = n + e₂ + t := by omega
      rw [Nat.shiftLeft_eq, zpow_add₀ two_ne_zero, zpow_add₀ two_ne_zero, zpow_natCast]
      push_cast
      field_simp
    rw [hn, Int.toNat_natCast, hquotient]
    exact locates_div h₂ _

/-- The quotient of two numbers has the quotient of their signs. -/
theorem exists_rounds_of_unpack {s₁ s₂ : Sign} {m₁ m₂ : Nat} {e₁ e₂ : Int} {h₁ : 0 < m₁}
    {h₂ : 0 < m₂} (hx : x.toModel.unpack = .finite s₁ m₁ e₁ h₁)
    (hy : y.toModel.unpack = .finite s₂ m₂ e₂ h₂) :
    ∃ m e, Rounds (magnitude x / magnitude y) m e ∧
      (x / y).toModel = Float.Model.pack (ofMantissa (s₁ / s₂) m e) := by
  obtain ⟨m, e, acc, hcore, hcut, hlocates⟩ := locates_divCore e₁ e₂ h₁ h₂
  rw [← magnitude_of_unpack hx, ← magnitude_of_unpack hy] at hlocates
  obtain ⟨r, t, hrounds, hresult⟩ := roundWithAccuracy_eq hlocates hcut (s₁ / s₂)
  refine ⟨r, t, hrounds, ?_⟩
  show Float.Model.pack (UnpackedFloat.div .binary64 x.toModel.unpack y.toModel.unpack) = _
  rw [hx, hy, UnpackedFloat.div, hcore]
  simp only [hresult]

/-- The quotient of two numbers is their exact quotient, rounded. -/
theorem exists_rounds_div (hx : IsUsable x) (hy : IsUsable y) :
    ∃ s m e, Rounds (magnitude x / magnitude y) m e ∧
      (x / y).toModel.unpack = (Float.Model.pack (ofMantissa s m e)).unpack := by
  obtain ⟨s₁, m₁, e₁, h₁, hx⟩ := hx.exists_unpack
  obtain ⟨s₂, m₂, e₂, h₂, hy⟩ := hy.exists_unpack
  obtain ⟨m, e, hrounds, hresult⟩ := exists_rounds_of_unpack hx hy
  exact ⟨s₁ / s₂, m, e, hrounds, by rw [hresult]⟩

/-! ### A number divided by itself -/

/-- One is a number with fifty-three places, so it is rounded to itself. -/
theorem Rounds.of_one {m : Nat} {e : Int} (h : Rounds 1 m e) : m = 2 ^ 52 ∧ e = -52 := by
  have he : e = -52 := by
    have hfits : (2 : ℚ) ^ (0 : ℤ) < 2 ^ (e + 53) := by simpa using h.fits
    have hlow := (zpow_lt_zpow_iff_right₀ one_lt_two).1 hfits
    rcases h.full with hlast | hfull
    · omega
    · have hfull : (2 : ℚ) ^ (e + 52) ≤ 2 ^ (0 : ℤ) := by simpa using hfull
      have hhigh := (zpow_le_zpow_iff_right₀ one_lt_two).1 hfull
      omega
  subst he
  have hnearest : ∀ k : Nat, m ≤ k ↔ 2 ^ 52 ≤ k := by
    intro k
    have hmiddle : middle k (-52) = (2 * k + 1 : ℕ) * (2 : ℚ) ^ (-53 : ℤ) := by
      rw [middle]
      push_cast
      rfl
    have hone : (1 : ℚ) = (2 ^ 53 : ℕ) * (2 : ℚ) ^ (-53 : ℤ) := by norm_num
    rw [h.nearest, hmiddle, hone, mul_lt_mul_iff_of_pos_right (by positivity),
      mul_left_inj' (by positivity), Nat.cast_lt, Nat.cast_inj]
    omega
  exact ⟨le_antisymm ((hnearest _).2 le_rfl) ((hnearest m).1 le_rfl), rfl⟩

/-- A number divided by itself is exactly one. -/
theorem div_self_of_isUsable (h : IsUsable x) : x / x = 1.0 := by
  obtain ⟨s, m, e, hm, hx⟩ := h.exists_unpack
  obtain ⟨r, t, hrounds, hresult⟩ := exists_rounds_of_unpack hx hx
  have hpos : magnitude x ≠ 0 := by
    rw [magnitude_of_unpack hx]
    positivity
  rw [div_self hpos] at hrounds
  obtain ⟨rfl, rfl⟩ := hrounds.of_one
  have hsign : s / s = .positive := by cases s <;> rfl
  have hone : Float.Model.pack (ofMantissa .positive (2 ^ 52) (-52)) = (1.0 : Float).toModel := by
    decide +kernel
  rw [hsign, hone] at hresult
  exact congrArg Float.ofModel hresult

/-! ### The range of a quotient -/

theorem isNaN_div (hx : IsUsable x) (hy : IsUsable y) : (x / y).isNaN = false := by
  obtain ⟨s, m, e, hrounds, hunpack⟩ := exists_rounds_div hx hy
  show (x / y).toModel.unpack.isNaN = false
  rw [hunpack]
  rcases unpack_pack_ofMantissa hrounds s with ⟨-, h⟩ | ⟨-, -, h⟩ | ⟨-, -, m', e', hm, h, -⟩ <;>
    rw [h] <;> rfl

/-- A quotient that is not finite is infinite. -/
theorem isInf_div (hx : IsUsable x) (hy : IsUsable y) : (x / y).isInf = !(x / y).isFinite := by
  have hnumber : (x / y).toModel.unpack.isNaN = false := isNaN_div hx hy
  show (x / y).toModel.unpack.isInf = !(x / y).toModel.unpack.isFinite
  cases hunpack : (x / y).toModel.unpack with
  | notANumber =>
      rw [hunpack] at hnumber
      cases hnumber
  | infinity s => rfl
  | zero s => rfl
  | finite s m e hm => rfl

/-- A quotient is finite below the middle between the greatest float and the power above it. -/
theorem isFinite_div_iff (hx : IsUsable x) (hy : IsUsable y) :
    (x / y).isFinite = true ↔
      magnitude x / magnitude y < (2 : ℚ) ^ (1024 : ℤ) - (2 : ℚ) ^ (970 : ℤ) := by
  obtain ⟨s, m, e, hrounds, hunpack⟩ := exists_rounds_div hx hy
  show (x / y).toModel.unpack.isFinite = true ↔ _
  rw [hunpack, ← not_le, ← hrounds.overflows_iff]
  rcases unpack_pack_ofMantissa hrounds s with ⟨hm, h⟩ | ⟨hm, hover, h⟩ | ⟨-, hin, m', e', hm, h, -⟩
  · rw [h]
    have := hrounds.full_mantissa
    exact iff_of_true rfl (by unfold Overflows; omega)
  · rw [h]
    exact iff_of_false Bool.false_ne_true (not_not.2 hover)
  · rw [h]
    exact iff_of_true rfl hin

/-- A quotient is zero up to half the least float. -/
theorem div_eq_zero_iff (hx : IsUsable x) (hy : IsUsable y) :
    (x / y == 0.0) = true ↔ magnitude x / magnitude y ≤ (2 : ℚ) ^ (-1075 : ℤ) := by
  obtain ⟨s, m, e, hrounds, hunpack⟩ := exists_rounds_div hx hy
  show (x / y).toModel.unpack.beq (.zero .positive) = true ↔ _
  rw [hunpack, ← hrounds.eq_zero_iff, beq_zero_eq]
  rcases unpack_pack_ofMantissa hrounds s with ⟨hm, h⟩ | ⟨hm, -, h⟩ | ⟨hm, -, m', e', hm', h, -⟩
  · rw [h]
    exact iff_of_true rfl hm
  · rw [h]
    exact iff_of_false Bool.false_ne_true hm
  · rw [h]
    exact iff_of_false Bool.false_ne_true hm

/-- A quotient that can be used is the exact quotient rounded to a float. -/
theorem exists_rounds_of_isUsable_div (hx : IsUsable x) (hy : IsUsable y) (h : IsUsable (x / y)) :
    ∃ m e, Rounds (magnitude x / magnitude y) m e ∧ 0 < m ∧
      m * (2 : ℚ) ^ e < (2 : ℚ) ^ (1024 : ℤ) ∧ magnitude (x / y) = m * (2 : ℚ) ^ e := by
  obtain ⟨s, m, e, hrounds, hunpack⟩ := exists_rounds_div hx hy
  obtain ⟨s', m', e', hm', hread⟩ := h.exists_unpack
  have hmagnitude := magnitude_of_unpack hread
  rw [hunpack] at hread
  rcases unpack_pack_ofMantissa hrounds s with ⟨-, h⟩ | ⟨-, -, h⟩ | ⟨hm, hin, m'', e'', _, h, hvalue⟩
  · rw [h] at hread
    cases hread
  · rw [h] at hread
    cases hread
  · rw [h] at hread
    cases hread
    exact ⟨m, e, hrounds, Nat.pos_of_ne_zero hm, hrounds.lt_zpow hin, hmagnitude.trans hvalue⟩

/-! ### The range of a reciprocal -/

theorem isUsable_one : IsUsable 1.0 :=
  ⟨by decide, by decide⟩

theorem magnitude_one : magnitude 1.0 = 1 := by
  have hone : (1.0 : Float).toModel.unpack = .finite .positive (2 ^ 52) (-52) (by decide) := rfl
  rw [magnitude_of_unpack hone]
  norm_num

/-- The reciprocal of a quotient is finite unless the quotient is rounded to the reciprocal of the
power above the range, or to less. -/
theorem isFinite_one_div_div_iff (hx : IsUsable x) (hy : IsUsable y) (h : IsUsable (x / y)) :
    (1.0 / (x / y)).isFinite = true ↔
      (2 : ℚ) ^ (-1024 : ℤ) + (2 : ℚ) ^ (-1075 : ℤ) < magnitude x / magnitude y := by
  obtain ⟨m, e, hrounds, hm, -, hvalue⟩ := exists_rounds_of_isUsable_div hx hy h
  rw [isFinite_div_iff isUsable_one h, magnitude_one, hvalue, ← not_le,
    overflows_reciprocal_iff hm hrounds.last, hrounds.le_iff, not_le]

/-- No reciprocal of a quotient is zero. -/
theorem one_div_div_ne_zero (hx : IsUsable x) (hy : IsUsable y) (h : IsUsable (x / y)) :
    (1.0 / (x / y) == 0.0) = false := by
  obtain ⟨m, e, hrounds, hm, hlt, hvalue⟩ := exists_rounds_of_isUsable_div hx hy h
  rw [← Bool.not_eq_true, div_eq_zero_iff isUsable_one h, magnitude_one, hvalue, not_le]
  have hpos : (0 : ℚ) < m * (2 : ℚ) ^ e := by positivity
  calc (2 : ℚ) ^ (-1075 : ℤ) < 2 ^ (-1024 : ℤ) := zpow_lt_zpow_right₀ one_lt_two (by decide)
    _ = 1 / 2 ^ (1024 : ℤ) := by rw [zpow_neg, one_div]
    _ < 1 / (m * 2 ^ e) := one_div_lt_one_div_of_lt hpos hlt

end BenchBoard.Decimal
