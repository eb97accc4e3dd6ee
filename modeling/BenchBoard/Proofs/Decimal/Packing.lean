import Mathlib
import BenchBoard.Decimal.Binary
import BenchBoard.Proofs.Decimal.Rounding
/-!
# BenchBoard.Proofs.Decimal.Packing

**Floats and their mantissas.** A finite float other than zero has a mantissa at a place, and its
magnitude is the number that these stand for (`magnitude_of_unpack`). Put together again they give
the same float (`unpack_pack_of_le`), unless the place lies beyond those of a float; then the float
is infinite (`unpack_pack_of_lt`). So a rounded value is zero, infinite or kept as it is
(`unpack_pack_ofMantissa`).
-/

namespace BenchBoard.Decimal

open Float.Model Float.Model.UnpackedFloat

variable {x : Float} {s : Sign} {m : Nat} {e : Int} {hm : 0 < m}

/-- The exact magnitude of a finite number. -/
def magnitude (x : Float) : ℚ :=
  (Binary.ofFloat x).mantissa * (2 : ℚ) ^ (Binary.ofFloat x).exponent

/-! ### Taking a float apart -/

theorem exponentBias_eq : Format.binary64.exponentBias = 1023 := rfl

theorem toNat_unpackMantissa (b : BitVec 64) :
    (@unpackMantissa .binary64 b).toNat = b.toNat % 2 ^ 52 := by
  simp [unpackMantissa]

theorem toNat_unpackExponent (b : BitVec 64) :
    (@unpackExponent .binary64 b).toNat = b.toNat / 2 ^ 52 % 2 ^ 11 := by
  simp [unpackExponent, Nat.shiftRight_eq_div_pow]

theorem toNat_one_append (b : BitVec 52) : (1#1 ++ b).toNat = 2 ^ 52 + b.toNat := by
  rw [BitVec.toNat_append, ← Nat.shiftLeft_add_eq_or_of_lt b.isLt]
  rfl

/-- Both ways of taking a bit pattern apart agree. -/
theorem ofBits_of_unpack {bits : UInt64}
    (h : UnpackedFloat.unpack .binary64 bits.toBitVec = .finite s m e hm) :
    (Binary.ofBits bits).mantissa = m ∧ (Binary.ofBits bits).exponent = e := by
  have hfraction : (@unpackMantissa .binary64 bits.toBitVec).toNat =
      bits.toNat % Binary.hiddenBit := toNat_unpackMantissa _
  have hbiased : (@unpackExponent .binary64 bits.toBitVec).toNat =
      bits.toNat / Binary.hiddenBit % 0x800 := toNat_unpackExponent _
  unfold UnpackedFloat.unpack at h
  simp only at h
  unfold Binary.ofBits
  simp only [← hfraction, ← hbiased]
  split at h
  · split at h <;> cases h
  · split at h
    · rename_i hsubnormal
      rw [hsubnormal]
      split at h
      · cases h
      · cases h
        simp [exponentBias_eq, hsubnormal]
    · rename_i hnormal
      cases h
      have hpositive : ¬ (@unpackExponent .binary64 bits.toBitVec).toNat = 0 :=
        fun hzero => hnormal (BitVec.eq_of_toNat_eq hzero)
      rw [if_neg hpositive, toNat_one_append, exponentBias_eq]
      exact ⟨rfl, rfl⟩

theorem magnitude_of_unpack (h : x.toModel.unpack = .finite s m e hm) :
    magnitude x = m * (2 : ℚ) ^ e := by
  obtain ⟨hmantissa, hexponent⟩ := ofBits_of_unpack h
  rw [magnitude, Binary.ofFloat, ← hmantissa, ← hexponent]
  rfl

/-- Both zeros are equal to zero, and nothing else is. -/
theorem beq_zero_eq (u : UnpackedFloat) :
    u.beq (.zero .positive) = match u with
      | .zero _ => true
      | _ => false := by
  cases u with
  | notANumber => rfl
  | infinity s => cases s <;> rfl
  | zero s => cases s <;> rfl
  | finite s => cases s <;> rfl

theorem isFinite_of_beq_zero (h : (x == 0.0) = true) : x.isFinite = true := by
  have hzero : x.toModel.unpack.beq (.zero .positive) = true := h
  show x.toModel.unpack.isFinite = true
  rw [beq_zero_eq] at hzero
  cases hx : x.toModel.unpack with
  | zero s => rfl
  | finite s m e hm => rfl
  | _ =>
      rw [hx] at hzero
      cases hzero

/-- A finite number other than zero. -/
structure IsUsable (x : Float) : Prop where
  finite : x.isFinite = true
  ne_zero : (x == 0.0) = false

/-- A finite number other than zero has a mantissa. -/
theorem IsUsable.exists_unpack (h : IsUsable x) :
    ∃ s m e hm, x.toModel.unpack = .finite s m e hm := by
  have hfinite' : x.toModel.unpack.isFinite = true := h.finite
  have hzero' : x.toModel.unpack.beq (.zero .positive) = false := h.ne_zero
  cases hx : x.toModel.unpack with
  | infinity s => rw [hx] at hfinite'; cases hfinite'
  | notANumber => rw [hx] at hfinite'; cases hfinite'
  | zero s => rw [hx] at hzero'; cases hzero'
  | finite s m e hm => exact ⟨s, m, e, hm, rfl⟩

/-! ### Putting a float together -/

theorem unpack_pack_zero (s : Sign) : (Float.Model.pack (.zero s)).unpack = .zero s := by
  cases s <;> rfl

theorem unpack_packedInfinity (s : Sign) :
    UnpackedFloat.unpack .binary64 (packedInfinity .binary64 s) = .infinity s := by
  cases s <;> rfl

/-- A mantissa at a place to the left of all that a float has is infinite. -/
theorem unpack_pack_of_lt (he : 971 < e) :
    (Float.Model.pack (.finite s m e hm)).unpack = .infinity s := by
  show UnpackedFloat.unpack .binary64 (UnpackedFloat.pack .binary64 (.finite s m e hm)) = _
  have hbiased : 2 ^ 11 ≤ (e + (1023 : ℕ) + (52 : ℕ)).toNat + 1 := by omega
  rw [UnpackedFloat.pack]
  simp only
  rw [exponentBias_eq, if_pos hbiased, unpack_packedInfinity]

/-- With a hidden bit the fraction is taken apart again. -/
theorem unpack_packComponents_normal (s : Sign) {biased : BitVec 11} (fraction : BitVec 52)
    (hlow : biased ≠ 0#11) (hhigh : biased ≠ -1#11) :
    UnpackedFloat.unpack .binary64 (packComponents .binary64 s biased fraction) =
      .finite s (2 ^ 52 + fraction.toNat) (biased.toNat - 1075)
        (Nat.add_pos_left (Nat.two_pow_pos 52) _) := by
  rw [UnpackedFloat.unpack]
  simp only [unpackMantissa_packComponents, unpackExponent_packComponents,
    unpackSign_packComponents, Sign.ofBitVec_toBitVec]
  rw [if_neg hhigh, if_neg hlow, finite.injEq]
  exact ⟨rfl, toNat_one_append fraction, rfl⟩

/-- Without a hidden bit the fraction is all there is. -/
theorem unpack_packComponents_subnormal (s : Sign) {fraction : BitVec 52}
    (hfraction : 0 < fraction.toNat) :
    UnpackedFloat.unpack .binary64 (packComponents .binary64 s 0#11 fraction) =
      .finite s fraction.toNat (-1074) hfraction := by
  have hne : fraction ≠ 0#52 := by
    rintro rfl
    simp at hfraction
  rw [UnpackedFloat.unpack]
  simp only [unpackMantissa_packComponents, unpackExponent_packComponents,
    unpackSign_packComponents, Sign.ofBitVec_toBitVec]
  rw [if_neg (by decide), if_true, dif_neg hne, finite.injEq]
  exact ⟨rfl, rfl, rfl⟩

/-- The pattern of a mantissa at one of the places of a float. A mantissa of fifty-three bits is
written without the first of them. -/
theorem pack_of_le (he : e ≤ 971) :
    UnpackedFloat.pack .binary64 (.finite s m e hm) =
      if m.log2 + 1 = 53 then
        packComponents .binary64 s (BitVec.ofNat 11 (e + (1023 : ℕ) + (52 : ℕ)).toNat)
          (BitVec.ofNat 52 m)
      else packComponents .binary64 s 0#11 (BitVec.ofNat 52 m) := by
  have hbiased : ¬ 2 ^ 11 ≤ (e + (1023 : ℕ) + (52 : ℕ)).toNat + 1 := by omega
  rw [UnpackedFloat.pack]
  simp only
  rw [exponentBias_eq, if_neg hbiased]
  rfl

theorem unpack_pack_normal (hlast : -1074 ≤ e) (he : e ≤ 971) (hlow : 2 ^ 52 ≤ m)
    (hbits : m < 2 ^ 53) : (Float.Model.pack (.finite s m e hm)).unpack = .finite s m e hm := by
  show UnpackedFloat.unpack .binary64 (UnpackedFloat.pack .binary64 (.finite s m e hm)) = _
  have hlog : m.log2 + 1 = 53 := by rw [(Nat.log2_eq_iff hm.ne').2 ⟨hlow, hbits⟩]
  have hbiased : (BitVec.ofNat 11 (e + (1023 : ℕ) + (52 : ℕ)).toNat).toNat =
      (e + (1023 : ℕ) + (52 : ℕ)).toNat := Nat.mod_eq_of_lt (by omega)
  have hfraction : (BitVec.ofNat 52 m).toNat = m - 2 ^ 52 := by
    rw [BitVec.toNat_ofNat, Nat.mod_eq_sub_mod hlow, Nat.mod_eq_of_lt (by omega)]
  have hfirst : BitVec.ofNat 11 (e + (1023 : ℕ) + (52 : ℕ)).toNat ≠ 0#11 := by
    intro heq
    rw [heq, BitVec.toNat_zero] at hbiased
    omega
  have hend : BitVec.ofNat 11 (e + (1023 : ℕ) + (52 : ℕ)).toNat ≠ -1#11 := by
    intro heq
    rw [heq, show (-1#11 : BitVec 11).toNat = 2047 from rfl] at hbiased
    omega
  rw [pack_of_le he, if_pos hlog, unpack_packComponents_normal s _ hfirst hend, finite.injEq]
  exact ⟨rfl, by omega, by omega⟩

theorem unpack_pack_subnormal (hlow : m < 2 ^ 52) :
    (Float.Model.pack (.finite s m (-1074) hm)).unpack = .finite s m (-1074) hm := by
  show UnpackedFloat.unpack .binary64 (UnpackedFloat.pack .binary64 (.finite s m (-1074) hm)) = _
  have hlog : ¬ m.log2 + 1 = 53 := by
    have := (Nat.log2_lt hm.ne').2 hlow
    omega
  have hfraction : (BitVec.ofNat 52 m).toNat = m := Nat.mod_eq_of_lt hlow
  rw [pack_of_le (by decide), if_neg hlog,
    unpack_packComponents_subnormal s (hfraction.symm ▸ hm), finite.injEq]
  exact ⟨rfl, hfraction, rfl⟩

/-- A mantissa at one of the places of a float is kept. -/
theorem unpack_pack_of_le (hlast : -1074 ≤ e) (he : e ≤ 971) (hbits : m < 2 ^ 53)
    (hfull : e = -1074 ∨ 2 ^ 52 ≤ m) :
    (Float.Model.pack (.finite s m e hm)).unpack = .finite s m e hm := by
  by_cases hlow : 2 ^ 52 ≤ m
  · exact unpack_pack_normal hlast he hlow hbits
  · obtain rfl := hfull.resolve_right hlow
    exact unpack_pack_subnormal (by omega)

/-- A rounded value as a float: zero, infinite, or itself. -/
theorem unpack_pack_ofMantissa {q : ℚ} (h : Rounds q m e) (s : Sign) :
    let packed := (Float.Model.pack (ofMantissa s m e)).unpack
    (m = 0 ∧ packed = .zero s) ∨
    (m ≠ 0 ∧ Overflows m e ∧ packed = .infinity s) ∨
    (m ≠ 0 ∧ ¬ Overflows m e ∧
      ∃ m' e' hm, packed = .finite s m' e' hm ∧ m' * (2 : ℚ) ^ e' = m * (2 : ℚ) ^ e) := by
  intro packed
  unfold Overflows
  have hlast := h.last
  have hle := h.le
  by_cases hzero : m = 0
  · refine .inl ⟨hzero, ?_⟩
    show (Float.Model.pack (ofMantissa s m e)).unpack = _
    rw [ofMantissa, dif_pos hzero, unpack_pack_zero]
  right
  by_cases hlong : m = 2 ^ 53
  · have hread : packed = (Float.Model.pack (.finite s (2 ^ 52) (e + 1) (by decide))).unpack := by
      show (Float.Model.pack (ofMantissa s m e)).unpack = _
      rw [ofMantissa, dif_neg hzero, if_pos hlong]
    by_cases he : 971 < e + 1
    · exact .inl ⟨hzero, by omega, hread.trans (unpack_pack_of_lt he)⟩
    · refine .inr ⟨hzero, by omega, _, _, _, hread.trans (unpack_pack_of_le (by omega) (by omega)
        (by decide) (.inr le_rfl)), ?_⟩
      rw [hlong, two_zpow_eq (i := e + 1) (j := e) 1 rfl]
      push_cast
      ring
  · have hread : packed = (Float.Model.pack (.finite s m e (Nat.pos_of_ne_zero hzero))).unpack := by
      show (Float.Model.pack (ofMantissa s m e)).unpack = _
      rw [ofMantissa, dif_neg hzero, if_neg hlong]
    by_cases he : 971 < e
    · exact .inl ⟨hzero, .inl he, hread.trans (unpack_pack_of_lt he)⟩
    · exact .inr ⟨hzero, by omega, _, _, _, hread.trans (unpack_pack_of_le hlast (by omega)
        (by omega) h.full_mantissa), rfl⟩

end BenchBoard.Decimal
