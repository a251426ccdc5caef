import Dashboard.Proofs.Double.Difference

/-! # Doubles of whole numbers

A whole number becomes the double it is rounded to, and a double from zero on is cut to its
whole part. -/

namespace Dashboard.Double

open Float.Model (UnpackedFloat Format)
open Float.Model.UnpackedFloat

/-! ## From whole numbers -/

section OfNat

variable {n : ℕ}

theorem le_roundedExponent_mul_two_pow (hn : 0 < n) {k : ℕ} (h : 52 ≤ n.log2 + k) :
    -(k : ℤ) ≤ roundedExponent (n * 2 ^ k) (-k) := by
  rw [roundedExponent, log2_mul_two_pow hn]
  omega

theorem mul_two_pow_mul_zpow (n k : ℕ) : ((n * 2 ^ k : ℕ) : ℚ) * 2 ^ (-(k : ℤ)) = n := by
  have hshift := mul_two_pow_mul_zpow_sub n k 0
  rwa [zero_sub, zpow_zero, mul_one] at hshift

theorem one_le_rounded_natCast (hn : 0 < n) : 1 ≤ rounded n :=
  one_le_rounded (Nat.one_le_cast.mpr hn)

/-- A number with enough bits is rounded as it is. -/
theorem standsFor_pack_mul_two_pow (hn : 0 < n) {k : ℕ} (h : 52 ≤ n.log2 + k) :
    StandsFor ⟨Float.Model.pack (roundWithAccuracy .binary64 .positive (n * 2 ^ k) (-k) .exact)⟩
      (rounded n) := by
  have hstands := standsFor_rounded (.of_exact (n * 2 ^ k)) (by positivity)
    (le_roundedExponent_mul_two_pow hn h)
  rwa [mul_two_pow_mul_zpow] at hstands

theorem isFinite_toFloat_toUInt64 (hlt : n < 2 ^ 53) :
    n.toUInt64.toFloat.isFinite = true ∧ value n.toUInt64.toFloat = rounded n := by
  have hword : n.toUInt64.toNat = n := Nat.mod_eq_of_lt (hlt.trans (by norm_num))
  have hfloat : n.toUInt64.toFloat = ⟨Float.Model.pack
      (UnpackedFloat.normalize .binary64 n.toUInt64.toNat 0 .positive)⟩ := rfl
  have hmagnitude : |((n : ℤ) : ℚ) * 2 ^ (0 : ℤ)| = n := by
    simp
  have hbound : rounded |((n : ℤ) : ℚ) * 2 ^ (0 : ℤ)| < 2 ^ 1024 := by
    calc rounded |((n : ℤ) : ℚ) * 2 ^ (0 : ℤ)| ≤ rounded (2 ^ 53) :=
          rounded_mono (hmagnitude.trans_le (by exact_mod_cast hlt.le))
      _ = 2 ^ 53 := rounded_two_pow 53
      _ < 2 ^ 1024 := pow_lt_pow_right₀ (by norm_num) (by norm_num)
  have hround := isFinite_normalize (n : ℤ) hbound
  rw [zpow_zero, mul_one, Int.cast_natCast, roundedSigned_of_nonneg n.cast_nonneg] at hround
  rw [hfloat, hword]
  exact hround

theorem standsFor_ofScientific (hn : 0 < n) (hlarge : 2 ^ 53 ≤ n) :
    StandsFor (Float.ofModel (Float.Model.ofScientific n 0)) (rounded n) := by
  have hlog : 53 ≤ n.log2 := (Nat.le_log2 hn.ne').mpr hlarge
  have hbits : -((2 ^ Format.binary64.exponentBits : ℤ) + n.log2) ≤ 0 := by
    have hpower : (0 : ℤ) ≤ 2 ^ Format.binary64.exponentBits := by positivity
    omega
  have hscientific : UnpackedFloat.ofScientific .binary64 n 0 =
      roundWithAccuracy .binary64 .positive (n * 2 ^ 53) (-(53 : ℕ)) .exact := by
    rw [UnpackedFloat.ofScientific, dif_neg hn.ne', if_neg (by decide), if_neg hbits.not_gt,
      if_pos le_rfl, UnpackedFloat.mul]
    simp only [Int.toNat_zero, pow_zero, mul_one, add_zero, Nat.shiftLeft_eq]
    rfl
  have hmodel : Float.ofModel (Float.Model.ofScientific n 0) =
      ⟨Float.Model.pack (UnpackedFloat.ofScientific .binary64 n 0)⟩ := rfl
  rw [hmodel, hscientific]
  exact standsFor_pack_mul_two_pow hn (by omega)

/-- A whole number becomes the double it is rounded to. -/
theorem standsFor_ofNat (hn : 0 < n) : StandsFor (Float.ofNat n) (rounded n) := by
  have hofNat : Float.ofNat n = Float.ofScientific n false 0 := rfl
  rw [hofNat, Float.ofScientific]
  split
  · next h =>
    -- Small numbers are converted as they are and multiplied by the zeroth power of ten.
    have hone : (Float.exactlyRepresentablePowersOfTen[0]).isFinite = true ∧
        value (Float.exactlyRepresentablePowersOfTen[0]) = 1 := by
      decide +kernel
    obtain ⟨hfinite, hvalue⟩ := isFinite_toFloat_toUInt64 h.1
    have hpos : 0 < value n.toUInt64.toFloat :=
      hvalue ▸ zero_lt_one.trans_le (one_le_rounded_natCast hn)
    have hproduct := standsFor_mul hfinite hone.1 hpos (hone.2 ▸ one_pos)
    rwa [hvalue, hone.2, mul_one, rounded_rounded] at hproduct
  · exact standsFor_ofScientific hn (by omega)

end OfNat

/-! ## Words -/

section Words

variable {n : ℕ}

theorem size_eq : UInt64.size = 2 ^ 64 := by
  decide

theorem rounded_le_size (h : n < UInt64.size) : rounded n ≤ UInt64.size := by
  have hsize : (UInt64.size : ℚ) = 2 ^ 64 := by exact_mod_cast size_eq
  rw [hsize, ← rounded_two_pow, ← hsize]
  exact rounded_mono (by exact_mod_cast h.le)

theorem size_lt : (UInt64.size : ℚ) < 2 ^ 1024 := by
  rw [size_eq, Nat.cast_pow, Nat.cast_ofNat]
  exact pow_lt_pow_right₀ (by norm_num) (by norm_num)

theorem isFinite_ofNat (hword : n < UInt64.size) :
    (Float.ofNat n).isFinite = true ∧ value (Float.ofNat n) = rounded n := by
  rcases Nat.eq_zero_or_pos n with rfl | hn
  · rw [Nat.cast_zero, rounded_of_nonpos le_rfl]
    exact ⟨rfl, rfl⟩
  · exact (standsFor_ofNat hn).isFinite ((rounded_le_size hword).trans_lt size_lt)

end Words

/-! ## To whole numbers -/

section ToUInt64

variable {x : Float}

/-- The part of a number that is cut off lies after the point. -/
theorem roundToInt_eq (s : Sign) (m : ℕ) (e : ℤ) :
    roundToInt s m e = s.apply ⌊(m : ℚ) * 2 ^ e⌋₊ := by
  have hwhole : (m * 2 ^ e.toNat / 2 ^ (-e).toNat : ℕ) = ⌊(m : ℚ) * 2 ^ e⌋₊ := by
    have hsplit : (m : ℚ) * 2 ^ e =
        ((m * 2 ^ e.toNat : ℕ) : ℚ) / ((2 ^ (-e).toNat : ℕ) : ℚ) := by
      have hexponent : e = (e.toNat : ℤ) - (-e).toNat := by omega
      conv_lhs => rw [hexponent, zpow_sub₀ (by norm_num), zpow_natCast, zpow_natCast]
      push_cast
      rw [mul_div_assoc]
    rw [hsplit, Nat.floor_div_eq_div]
  have hshift : (0 - (e - (e - 0).toNat)).toNat = (-e).toNat := by omega
  have hmantissa : (ExtendedMantissa.ofMantissaAndAccuracy (m * 2 ^ e.toNat) .exact).mantissa =
      m * 2 ^ e.toNat := rfl
  rw [roundToInt, decreaseExponent]
  dsimp only
  rw [shiftToExponent]
  dsimp only
  rw [hshift, mantissa_shiftRight, sub_zero, Nat.shiftLeft_eq, hmantissa, hwhole]

theorem toUInt64_eq (x : Float) : x.toUInt64 =
    UInt64.ofNatClamp (x.toModel.unpack.toInt 0 (UInt64.size - 1)).toNat :=
  rfl

/-- Whatever is not positive is cut to zero, and so is NaN. -/
theorem toUInt64_eq_zero (h : ¬ 0.0 < x) : x.toUInt64 = 0 := by
  have hinfinity : x ≠ 1.0 / 0.0 := by
    rintro rfl
    exact h (by decide)
  rw [toUInt64_eq]
  cases hu : x.toModel.unpack with
  | notANumber | zero s => rfl
  | infinity s =>
      cases s with
      | positive => exact absurd (eq_of_unpack_eq (hu.trans unpack_infinity.symm)) hinfinity
      | negative => rfl
  | finite s m e hm =>
      cases s with
      | positive =>
          have hfinite : x.isFinite = true := by
            rw [isFinite_eq, hu]
            rfl
          have hpos : value 0.0 < value x := by
            rw [value, value, hu]
            exact mul_pos (by exact_mod_cast hm) (by positivity)
          exact absurd ((lt_iff_value_lt rfl hfinite).mpr hpos) h
      | negative =>
          have hnonpos : (Sign.negative.apply ⌊(m : ℚ) * 2 ^ e⌋₊).toNat = 0 :=
            Int.toNat_of_nonpos (by simp [Sign.apply])
          rw [UnpackedFloat.toInt, roundToInt_eq, hnonpos]
          rfl

/-- A double in the range of words from zero on is cut to its whole part. -/
theorem toNat_toUInt64 (hx : x.isFinite = true) (hnonneg : 0 ≤ value x)
    (hlt : value x < UInt64.size) : x.toUInt64.toNat = ⌊value x⌋₊ := by
  rcases hnonneg.eq_or_lt with hzero | hpos
  · have hnot : ¬ 0.0 < x := by
      rw [lt_iff_value_lt rfl hx, ← hzero]
      exact lt_irrefl _
    rw [toUInt64_eq_zero hnot, ← hzero, Nat.floor_zero]
    rfl
  obtain ⟨m, e, hm, hu, -, hvalue⟩ := unpack_of_value_pos hx hpos
  rw [toUInt64_eq, hu, UnpackedFloat.toInt, roundToInt_eq, ← hvalue]
  exact UInt64.toNat_ofNatClamp_of_lt ((Nat.floor_lt hnonneg).mpr hlt)

/-- A double that does not reach a whole number is not cut to a larger one. -/
theorem toNat_toUInt64_le {n : ℕ} (hword : n < UInt64.size) (h : ¬ Float.ofNat n ≤ x) :
    x.toUInt64.toNat ≤ n := by
  by_cases hpos : 0.0 < x
  · obtain ⟨hfinite, hvalue⟩ := isFinite_ofNat hword
    have hne : x ≠ 1.0 / 0.0 := by
      rintro rfl
      exact h (le_infinity (isNaN_of_isFinite hfinite))
    have hx := isFinite_of_lt hpos hne
    have hnonneg : 0 ≤ value x := ((lt_iff_value_lt rfl hx).mp hpos).le
    have hlt : value x < rounded n := by
      rwa [le_iff_value_le hfinite hx, hvalue, not_le] at h
    -- No double lies between a number and what it is rounded to.
    have hbelow : value x < n := by
      by_contra hge
      rw [← rounded_value hx hnonneg] at hlt
      exact hlt.not_ge (rounded_mono (not_lt.mp hge))
    rw [toNat_toUInt64 hx hnonneg (hlt.trans_le (rounded_le_size hword))]
    exact_mod_cast (Nat.floor_le hnonneg).trans hbelow.le
  · rw [toUInt64_eq_zero hpos]
    exact Nat.zero_le n

end ToUInt64

end Dashboard.Double
