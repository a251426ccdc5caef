import Dashboard.Proofs.Double.Nearest

/-! # Differences

A difference may be negative. Its magnitude is rounded and it keeps its sign, so the order of
numbers is kept below zero too. The same holds for quotients of such numbers. -/

namespace Dashboard.Double

open Float.Model (UnpackedFloat Format)
open Float.Model.UnpackedFloat

/-! ## Numbers of either sign -/

/-- A number of either sign with its magnitude rounded. -/
def roundedSigned (v : ℚ) : ℚ :=
  rounded v - rounded (-v)

theorem roundedSigned_mono : Monotone roundedSigned :=
  fun _ _ h => sub_le_sub (rounded_mono h) (rounded_mono (neg_le_neg h))

theorem roundedSigned_signed (s : Sign) {v : ℚ} (hv : 0 ≤ v) :
    roundedSigned (signed s v) = signed s (rounded v) := by
  have hneg : rounded (-v) = 0 := rounded_of_nonpos (neg_nonpos.mpr hv)
  cases s <;> simp [roundedSigned, signed, hneg]

theorem roundedSigned_of_nonneg {v : ℚ} (hv : 0 ≤ v) : roundedSigned v = rounded v :=
  roundedSigned_signed .positive hv

/-! ## Shifted mantissas -/

section Shifted

variable {m : ℕ}

theorem log2_mul_two_pow (hm : 0 < m) (k : ℕ) : (m * 2 ^ k).log2 = m.log2 + k := by
  rw [Nat.log2_eq_iff (by positivity), add_right_comm, pow_add, pow_add _ (m.log2 + 1)]
  have hpos : 0 < 2 ^ k := by positivity
  exact ⟨Nat.mul_le_mul_right _ (Nat.log2_self_le hm.ne'),
    Nat.mul_lt_mul_of_pos_right Nat.lt_log2_self hpos⟩

theorem mul_two_pow_mul_zpow_sub (m k : ℕ) (e : ℤ) :
    ((m * 2 ^ k : ℕ) : ℚ) * 2 ^ (e - k) = m * 2 ^ e := by
  rw [Nat.cast_mul, mul_assoc, Nat.cast_pow, Nat.cast_ofNat, ← zpow_natCast,
    ← zpow_add₀ (by norm_num), add_sub_cancel]

theorem mul_two_pow_mul_zpow_of_le (m : ℕ) {e e' : ℤ} (h : e' ≤ e) :
    ((m * 2 ^ (e - e').toNat : ℕ) : ℚ) * 2 ^ e' = m * 2 ^ e := by
  have hshift := mul_two_pow_mul_zpow_sub m (e - e').toNat e
  rwa [Int.toNat_of_nonneg (sub_nonneg.mpr h), sub_sub_cancel] at hshift

end Shifted

/-! ## Rounded results -/

section Packed

variable {m : ℕ} {e : ℤ} {a : Accuracy} {q : ℚ}

/-- What is computed with an accuracy and a sign has the value of the rounded number, unless that
is too large for a double. -/
theorem isFinite_roundWithAccuracy (s : Sign) (h : Describes (.ofMantissaAndAccuracy m a) q)
    (hq : 0 < q) (hle : e ≤ roundedExponent m e) (hlt : rounded (q * 2 ^ e) < 2 ^ 1024) :
    let u := (Float.Model.pack (roundWithAccuracy .binary64 s m e a)).unpack
    u.isFinite = true ∧ unpackedValue u = roundedSigned (signed s (q * 2 ^ e)) := by
  intro u
  have hpack := unpack_pack_roundWithAccuracy s a hle
  rw [roundedUnits_eq h hle, roundedExponent_eq h hq hle, ← rounded] at hpack
  rw [roundedSigned_signed s (by positivity)]
  rcases hpack with hfinite | ⟨hlarge, -⟩
  · exact hfinite
  · exact absurd hlt (not_lt.mpr hlarge)

/-- A mantissa is shifted to the left until no bit of it can be lost, and then rounded. -/
theorem round_eq (s : Sign) (hm : 0 < m) (e : ℤ) :
    let k := (e - roundedExponent m e).toNat
    UnpackedFloat.round .binary64 s m e =
        roundWithAccuracy .binary64 s (m * 2 ^ k) (e - k) .exact ∧
      e - k ≤ roundedExponent (m * 2 ^ k) (e - k) := by
  intro k
  constructor
  · rw [UnpackedFloat.round, targetExponent_eq, decreaseExponent, Nat.shiftLeft_eq]
  · have hk : k = (e - roundedExponent m e).toNat := rfl
    rw [roundedExponent] at hk
    rw [roundedExponent, log2_mul_two_pow hm]
    omega

theorem isFinite_round (s : Sign) (hm : 0 < m) (hlt : rounded (m * 2 ^ e) < 2 ^ 1024) :
    let u := (Float.Model.pack (UnpackedFloat.round .binary64 s m e)).unpack
    u.isFinite = true ∧ unpackedValue u = roundedSigned (signed s (m * 2 ^ e)) := by
  obtain ⟨hround, hle⟩ := round_eq s hm e
  rw [← mul_two_pow_mul_zpow_sub m (e - roundedExponent m e).toNat e] at hlt ⊢
  rw [hround]
  exact isFinite_roundWithAccuracy s (.of_exact _) (by positivity) hle hlt

/-- A whole multiple of a power of two, whatever its sign, is rounded as the number it is. -/
theorem isFinite_normalize (n : ℤ) (hlt : rounded |n * 2 ^ e| < 2 ^ 1024) :
    let u := (Float.Model.pack (UnpackedFloat.normalize .binary64 n e .positive)).unpack
    u.isFinite = true ∧ unpackedValue u = roundedSigned (n * 2 ^ e) := by
  rw [abs_mul, abs_of_nonneg (by positivity : (0 : ℚ) ≤ 2 ^ e)] at hlt
  rw [UnpackedFloat.normalize]
  rcases lt_trichotomy n 0 with hneg | rfl | hpos
  · have hcast : (((-n).toNat : ℕ) : ℚ) = -n := by
      exact_mod_cast Int.toNat_of_nonneg (neg_nonneg.mpr hneg.le)
    have hsigned : signed .negative (((-n).toNat : ℕ) * 2 ^ e) = n * 2 ^ e := by
      rw [signed, hcast, neg_mul, neg_neg]
    rw [compare_lt_iff_lt.mpr hneg, ← hsigned]
    refine isFinite_round .negative (by omega) ?_
    rwa [hcast, ← abs_of_neg (Int.cast_lt_zero.mpr hneg)]
  · rw [compare_eq_iff_eq.mpr rfl, Int.cast_zero, zero_mul, roundedSigned_of_nonneg le_rfl,
      rounded_of_nonpos le_rfl]
    dsimp only
    rw [unpack_pack_zero]
    exact ⟨rfl, rfl⟩
  · have hcast : ((n.toNat : ℕ) : ℚ) = n := by
      exact_mod_cast Int.toNat_of_nonneg hpos.le
    have hsigned : signed .positive ((n.toNat : ℕ) * 2 ^ e) = n * 2 ^ e := by
      rw [signed, hcast]
    rw [compare_gt_iff_gt.mpr hpos, ← hsigned]
    refine isFinite_round .positive (by omega) ?_
    rwa [hcast, ← abs_of_pos (Int.cast_pos.mpr hpos)]

end Packed

/-! ## Differences -/

section Operations

variable {x y : Float}

/-- Nothing is lost when the mantissas of positive numbers are brought to one exponent. -/
theorem exists_sub_eq_normalize {m n : ℕ} {e f : ℤ} (hm : 0 < m) (hn : 0 < n) :
    ∃ k : ℤ, UnpackedFloat.sub .binary64 (.finite .positive m e hm) (.finite .positive n f hn) =
        UnpackedFloat.normalize .binary64 k (min e f) .positive ∧
      (k * 2 ^ min e f : ℚ) = m * 2 ^ e - n * 2 ^ f := by
  refine ⟨(m * 2 ^ (e - min e f).toNat : ℕ) - (n * 2 ^ (f - min e f).toNat : ℕ), ?_, ?_⟩
  · rw [← Nat.shiftLeft_eq, ← Nat.shiftLeft_eq]
    rfl
  · rw [Int.cast_sub, Int.cast_natCast, Int.cast_natCast, sub_mul,
      mul_two_pow_mul_zpow_of_le m (min_le_left e f),
      mul_two_pow_mul_zpow_of_le n (min_le_right e f)]

/-- A double keeps its mantissa and exponent under either sign. -/
theorem unpack_pack_of_unpack {s t : Sign} {m : ℕ} {e : ℤ} {hm : 0 < m}
    (h : x.toModel.unpack = .finite s m e hm) :
    (Float.Model.pack (.finite t m e hm)).unpack = .finite t m e hm :=
  have hcanonical := isCanonical_of_unpack h
  unpack_pack_of_isCanonical t hm hcanonical.1 hcanonical.2

theorem isFinite_zero_sub {s : Sign} (hx : x.toModel.unpack = .zero s) (hy : y.isFinite = true) :
    (x - y).isFinite = true ∧ value (x - y) = -value y := by
  rw [isFinite_eq, value, value, sub_eq, hx]
  dsimp only
  rcases unpack_cases hy with ⟨t, hyu⟩ | ⟨t, n, f, hn, hyu, -⟩
  · rw [hyu]
    cases s <;> cases t <;> exact ⟨rfl, rfl⟩
  · have hneg : UnpackedFloat.sub .binary64 (.zero s) (.finite t n f hn) =
        .finite (-t) n f hn := rfl
    rw [hyu, hneg, unpack_pack_of_unpack hyu, unpackedValue_finite, unpackedValue_finite]
    cases t with
    | positive => exact ⟨rfl, rfl⟩
    | negative => exact ⟨rfl, (neg_neg _).symm⟩

theorem isFinite_sub_zero {t : Sign} (hx : x.isFinite = true) (hy : y.toModel.unpack = .zero t) :
    (x - y).isFinite = true ∧ value (x - y) = value x := by
  rw [isFinite_eq, value, value, sub_eq, hy]
  dsimp only
  rcases unpack_cases hx with ⟨s, hxu⟩ | ⟨s, m, e, hm, hxu, -⟩
  · rw [hxu]
    cases s <;> cases t <;> exact ⟨rfl, rfl⟩
  · have hsame : UnpackedFloat.sub .binary64 (.finite s m e hm) (.zero t) = .finite s m e hm := rfl
    rw [hxu, hsame, unpack_pack_of_unpack hxu]
    exact ⟨rfl, rfl⟩

theorem rounded_abs_sub_lt (hx : x.isFinite = true) (hy : y.isFinite = true)
    (hxnonneg : 0 ≤ value x) (hynonneg : 0 ≤ value y) :
    rounded |value x - value y| < 2 ^ 1024 := by
  calc rounded |value x - value y| ≤ rounded (max (value x) (value y)) :=
        rounded_mono (abs_sub_le_of_nonneg_of_le hxnonneg (le_max_left _ _) hynonneg
          (le_max_right _ _))
    _ = max (value x) (value y) := by
        rw [rounded_mono.map_max, rounded_value hx hxnonneg, rounded_value hy hynonneg]
    _ < 2 ^ 1024 := max_lt (value_lt hx) (value_lt hy)

/-- The difference of two doubles from zero on is no larger than one of them, so it is finite. -/
theorem isFinite_sub (hx : x.isFinite = true) (hy : y.isFinite = true) (hxnonneg : 0 ≤ value x)
    (hynonneg : 0 ≤ value y) :
    (x - y).isFinite = true ∧ value (x - y) = roundedSigned (value x - value y) := by
  rcases hxnonneg.eq_or_lt with hxzero | hxpos
  · obtain ⟨s, hxu⟩ := unpack_of_value_eq_zero hx hxzero.symm
    have hsigned : roundedSigned (-value y) = -value y := by
      rw [roundedSigned, neg_neg, rounded_of_nonpos (neg_nonpos.mpr hynonneg),
        rounded_value hy hynonneg, zero_sub]
    rw [← hxzero, zero_sub, hsigned]
    exact isFinite_zero_sub hxu hy
  rcases hynonneg.eq_or_lt with hyzero | hypos
  · obtain ⟨t, hyu⟩ := unpack_of_value_eq_zero hy hyzero.symm
    rw [← hyzero, sub_zero, roundedSigned_of_nonneg hxnonneg, rounded_value hx hxnonneg]
    exact isFinite_sub_zero hx hyu
  · obtain ⟨m, e, hm, hxu, -, hxvalue⟩ := unpack_of_value_pos hx hxpos
    obtain ⟨n, f, hn, hyu, -, hyvalue⟩ := unpack_of_value_pos hy hypos
    obtain ⟨k, hnormalize, hk⟩ := exists_sub_eq_normalize (e := e) (f := f) hm hn
    have hlt := rounded_abs_sub_lt hx hy hxnonneg hynonneg
    rw [isFinite_eq, value, sub_eq, hxu, hyu, hnormalize]
    rw [hxvalue, hyvalue, ← hk] at hlt ⊢
    exact isFinite_normalize k hlt

/-- Dividing a double of either sign by one from one on does not lead out of the doubles. -/
theorem isFinite_div (hx : x.isFinite = true) (hy : y.isFinite = true) (hone : 1 ≤ value y) :
    (x / y).isFinite = true ∧ value (x / y) = roundedSigned (value x / value y) := by
  obtain ⟨n, f, hn, hyu, -, hyvalue⟩ := unpack_of_value_pos hy (zero_lt_one.trans_le hone)
  rw [isFinite_eq, value, div_eq]
  rcases unpack_cases hx with ⟨s, hxu⟩ | ⟨s, m, e, hm, hxu, hcanonical, hle⟩
  · have hzero : value x = 0 := by
      rw [value, hxu]
      rfl
    have hnone : UnpackedFloat.div .binary64 (.zero s) (.finite .positive n f hn) =
        .zero (s / .positive) := rfl
    dsimp only
    rw [hxu, hyu, hnone, unpack_pack_zero, hzero, zero_div, roundedSigned_of_nonneg le_rfl,
      rounded_of_nonpos le_rfl]
    exact ⟨rfl, rfl⟩
  · have hxvalue : value x = signed s (m * 2 ^ e) := by
      rw [value, hxu, unpackedValue_finite]
    have hquotient : value x / value y = signed s (m * 2 ^ e / value y) := by
      rw [hxvalue]
      cases s with
      | positive => rfl
      | negative => exact neg_div _ _
    have hlt : rounded (m * 2 ^ e / value y) < 2 ^ 1024 := by
      calc rounded (m * 2 ^ e / value y) ≤ rounded (m * 2 ^ e) :=
            rounded_mono (div_le_self (by positivity) hone)
        _ = m * 2 ^ e := rounded_of_isCanonical hcanonical
        _ < 2 ^ 1024 := hcanonical.mul_zpow_lt_two_pow hle
    have hsign : s / Sign.positive = s := by
      cases s <;> rfl
    have hn' : (0 : ℚ) < n := by exact_mod_cast hn
    rw [hquotient]
    rw [hyvalue, div_eq_mul_zpow m hn] at hlt ⊢
    rw [hxu, hyu, UnpackedFloat.div, divCore_eq, hsign]
    exact isFinite_roundWithAccuracy s (.of_fraction _ hn) (by positivity)
      (quotientExponent_le hm hn e f) hlt

end Operations

end Dashboard.Double
