import BenchBoard.Comparison.Speedup
import BenchBoard.Proofs.Decimal.Quotient
/-!
# BenchBoard.Proofs.Comparison.Range

**Which speedups are numbers that can be used.** Both operands are finite and not zero, so the
ratio is rounded from an exact quotient, and the cell is out of range exactly when that quotient is
too large or too small for a float. The check is made on the ratio alone. A ratio that is given out
is always finite and not zero; its inverse is never zero, but it is infinite when the ratio is
rounded to the least of the numbers that have no finite reciprocal, or to less (`speedup_range`).
-/

namespace BenchBoard

open BenchBoard.Decimal

variable {baseline entry value : Option String} {reciprocal : Bool} {b x v : Float}

theorem isUsable_of_operand (h : operand value = .ok x) : IsUsable x := by
  unfold operand at h
  simp only at h
  split at h
  · cases h
  · split at h
    · cases h
    · rename_i y _
      split at h
      · cases h
      · rename_i hfinite
        split at h
        · cases h
        · rename_i hzero
          cases h
          exact ⟨by simpa using hfinite, by simpa using hzero⟩

/-- A speedup has both operands, and is their ratio. -/
theorem exists_operands_of_speedup (h : speedup baseline entry reciprocal = .ok v) :
    ∃ b x, operand baseline = .ok b ∧ operand entry = .ok x ∧ ratio reciprocal b x = .ok v := by
  unfold speedup at h
  split at h
  · cases h
  · rename_i b hb
    split at h
    · cases h
    · rename_i x hx
      exact ⟨b, x, hb, hx, h⟩

theorem speedup_of_operands (hb : operand baseline = .ok b) (hx : operand entry = .ok x)
    (reciprocal : Bool) : speedup baseline entry reciprocal = ratio reciprocal b x := by
  unfold speedup
  rw [hb, hx]

theorem ratio_of_isUsable (h : IsUsable (b / x)) (reciprocal : Bool) :
    ratio reciprocal b x = .ok (if reciprocal then 1.0 / (b / x) else b / x) := by
  unfold ratio
  simp only [h.finite, h.ne_zero]
  rfl

theorem ratio_of_not_isUsable (h : ¬ IsUsable (b / x)) (reciprocal : Bool) :
    ratio reciprocal b x = .error .outOfRange := by
  unfold ratio
  refine if_pos ?_
  by_contra hrange
  simp only [Bool.or_eq_true, Bool.not_eq_true', not_or, Bool.not_eq_false, Bool.not_eq_true]
    at hrange
  exact h ⟨hrange.1, hrange.2⟩

/-- A quotient can be used exactly when it is within the range. -/
theorem isUsable_div_iff (hb : IsUsable b) (hx : IsUsable x) :
    IsUsable (b / x) ↔
      (2 : ℚ) ^ (-1075 : ℤ) < magnitude b / magnitude x ∧
        magnitude b / magnitude x < (2 : ℚ) ^ (1024 : ℤ) - (2 : ℚ) ^ (970 : ℤ) := by
  rw [← isFinite_div_iff hb hx, ← not_le, ← div_eq_zero_iff hb hx, Bool.not_eq_true]
  exact ⟨fun h => ⟨h.ne_zero, h.finite⟩, fun h => ⟨h.2, h.1⟩⟩

/-- **Which speedups can be used.** A speedup that is given out is the ratio of two operands or its
inverse. It is a number and not zero, and it is finite if it is the ratio; the inverse is finite
only for ratios beyond `2 ^ -1024`, as they are rounded. The cell is out of range exactly when the
exact ratio of the operands is too small or too large for a float, whichever of both is asked
for. -/
theorem speedup_range (baseline entry : Option String) (reciprocal : Bool) :
    (∀ v, speedup baseline entry reciprocal = .ok v →
      ∃ b x, operand baseline = .ok b ∧ operand entry = .ok x ∧ v.isNaN = false ∧
        (v == 0.0) = false ∧
        (v.isFinite = true ↔ reciprocal = false ∨
          (2 : ℚ) ^ (-1024 : ℤ) + (2 : ℚ) ^ (-1075 : ℤ) < magnitude b / magnitude x)) ∧
    ∀ b x, operand baseline = .ok b → operand entry = .ok x →
      (speedup baseline entry reciprocal = .error .outOfRange ↔
        magnitude b / magnitude x ≤ (2 : ℚ) ^ (-1075 : ℤ) ∨
          (2 : ℚ) ^ (1024 : ℤ) - (2 : ℚ) ^ (970 : ℤ) ≤ magnitude b / magnitude x) := by
  refine ⟨fun v hv => ?_, fun b x hb hx => ?_⟩
  · obtain ⟨b, x, hb, hx, hratio⟩ := exists_operands_of_speedup hv
    have hb' := isUsable_of_operand hb
    have hx' := isUsable_of_operand hx
    refine ⟨b, x, hb, hx, ?_⟩
    by_cases hdiv : IsUsable (b / x)
    · rw [ratio_of_isUsable hdiv] at hratio
      cases hratio
      cases reciprocal with
      | false => exact ⟨isNaN_div hb' hx', hdiv.ne_zero, iff_of_true hdiv.finite (.inl rfl)⟩
      | true =>
          refine ⟨isNaN_div isUsable_one hdiv, one_div_div_ne_zero hb' hx' hdiv, ?_⟩
          rw [if_pos rfl, isFinite_one_div_div_iff hb' hx' hdiv]
          simp
    · rw [ratio_of_not_isUsable hdiv] at hratio
      cases hratio
  · have hrange := isUsable_div_iff (isUsable_of_operand hb) (isUsable_of_operand hx)
    rw [speedup_of_operands hb hx]
    by_cases hdiv : IsUsable (b / x)
    · rw [ratio_of_isUsable hdiv]
      have := hrange.1 hdiv
      exact iff_of_false (by simp) (by rintro (h | h) <;> linarith)
    · rw [ratio_of_not_isUsable hdiv]
      refine iff_of_true rfl ?_
      by_contra hout
      rw [not_or, not_le, not_le] at hout
      exact hdiv (hrange.2 hout)

/-- The ratio is a float below `2 ^ -1024`, and its inverse is infinite. -/
theorem speedup_range_of_small_ratio :
    speedup (some "1e-310") (some "1") true = .ok (1.0 / 0.0) ∧
      ∃ b x, operand (some "1e-310") = .ok b ∧ operand (some "1") = .ok x ∧
        magnitude b / magnitude x ≤ (2 : ℚ) ^ (-1024 : ℤ) + (2 : ℚ) ^ (-1075 : ℤ) := by
  have hspeedup : speedup (some "1e-310") (some "1") true = .ok (1.0 / 0.0) := by decide +kernel
  obtain ⟨b, x, hb, hx, -, -, hfinite⟩ := (speedup_range (some "1e-310") (some "1") true).1 _ hspeedup
  refine ⟨hspeedup, b, x, hb, hx, ?_⟩
  rw [← not_lt]
  intro hlt
  exact absurd (hfinite.2 (.inr hlt)) (by decide)

/-- Not every speedup that is given out is finite. -/
theorem exists_speedup_infinite :
    ∃ (baseline entry : Option String) (reciprocal : Bool) (v : Float),
      speedup baseline entry reciprocal = .ok v ∧ v.isFinite = false :=
  ⟨some "1e-310", some "1", true, 1.0 / 0.0, by decide +kernel, by decide⟩

end BenchBoard
