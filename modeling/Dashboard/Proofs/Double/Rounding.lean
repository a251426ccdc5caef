import Dashboard.Proofs.Double.Value

/-! # Rounding of doubles

A product or a quotient is rounded in units of its last place, of which 53 bits are left.
The rounded number is packed without loss, and it is infinite only if it is too large for a
double. -/

namespace Dashboard.Double

open Float.Model (UnpackedFloat Format totalExponent)
open Float.Model.UnpackedFloat

section Unpacked

variable {m : ℕ} {e : ℤ}

/-! ## Packing -/

theorem pack_eq_ite (s : Sign) (e : ℤ) (hm : 0 < m) :
    UnpackedFloat.pack .binary64 (.finite s m e hm) =
      if 2048 ≤ (e + 1075).toNat + 1 then packedInfinity .binary64 s
      else if m.log2 = 52 then
        packComponents .binary64 s (BitVec.ofNat 11 (e + 1075).toNat) (BitVec.ofNat 52 m)
      else packComponents .binary64 s 0#11 (BitVec.ofNat 52 m) := by
  have hbias : e + ((Format.binary64.exponentBias : ℕ) : ℤ) +
      ((Format.binary64.mantissaBitsWithoutImplicit : ℕ) : ℤ) = e + 1075 := by
    change e + 1023 + 52 = e + 1075
    ring
  rw [UnpackedFloat.pack]
  dsimp only
  rw [hbias]
  change (if 2048 ≤ (e + 1075).toNat + 1 then _ else if m.log2 + 1 = 53 then _ else _) = _
  simp only [Nat.reduceEqDiff]

theorem unpack_pack_of_large (s : Sign) (hm : 0 < m) (he : 971 < e) :
    (Float.Model.pack (.finite s m e hm)).unpack = .infinity s := by
  change UnpackedFloat.unpack .binary64 (UnpackedFloat.pack .binary64 _) = _
  rw [pack_eq_ite, if_pos (by omega)]
  cases s <;> rfl

theorem unpack_pack_of_normal (s : Sign) (hm : 0 < m) (hlow : 2 ^ 52 ≤ m) (hhigh : m < 2 ^ 53)
    (hle : -1074 ≤ e) (he : e ≤ 971) :
    (Float.Model.pack (.finite s m e hm)).unpack = .finite s m e hm := by
  have hexponent : (BitVec.ofNat 11 (e + 1075).toNat).toNat = (e + 1075).toNat := by
    rw [BitVec.toNat_ofNat, Nat.mod_eq_of_lt (by omega)]
  have hall : BitVec.ofNat 11 (e + 1075).toNat ≠ -1#11 := by
    intro h
    have := congrArg BitVec.toNat h
    rw [hexponent] at this
    change _ = 2047 at this
    omega
  have hnonzero : BitVec.ofNat 11 (e + 1075).toNat ≠ 0#11 := by
    intro h
    have := congrArg BitVec.toNat h
    rw [hexponent] at this
    change _ = 0 at this
    omega
  have himplicit : (1#1 ++ BitVec.ofNat 52 m).toNat = m := by
    rw [BitVec.toNat_append, ← Nat.shiftLeft_add_eq_or_of_lt (BitVec.isLt _), BitVec.toNat_ofNat]
    change 2 ^ 52 + m % 2 ^ 52 = m
    omega
  change UnpackedFloat.unpack .binary64 (UnpackedFloat.pack .binary64 _) = _
  rw [pack_eq_ite, if_neg (by omega), if_pos ((Nat.log2_eq_iff hm.ne').mpr ⟨hlow, hhigh⟩),
    UnpackedFloat.unpack]
  simp only [unpackExponent_packComponents, unpackMantissa_packComponents,
    unpackSign_packComponents, hall, hnonzero, if_false, himplicit, hexponent,
    Sign.ofBitVec_toBitVec]
  have hunbiased :
      ((e + 1075).toNat : ℤ) - ((Format.binary64.exponentBias : ℤ) + (52 : ℕ)) = e := by
    change ((e + 1075).toNat : ℤ) - (1023 + 52) = e
    omega
  rw [hunbiased]

theorem unpack_pack_of_subnormal (s : Sign) (hm : 0 < m) (hhigh : m < 2 ^ 52) :
    (Float.Model.pack (.finite s m (-1074) hm)).unpack = .finite s m (-1074) hm := by
  have hlog : m.log2 ≠ 52 := ((Nat.log2_lt hm.ne').mpr hhigh).ne
  have hmantissa : (BitVec.ofNat 52 m).toNat = m := by
    rw [BitVec.toNat_ofNat, Nat.mod_eq_of_lt hhigh]
  have hnonzero : BitVec.ofNat 52 m ≠ 0#52 := by
    intro h
    have := congrArg BitVec.toNat h
    rw [hmantissa] at this
    change _ = 0 at this
    omega
  have hall : (0#11 : BitVec 11) ≠ -1#11 := by decide
  change UnpackedFloat.unpack .binary64 (UnpackedFloat.pack .binary64 _) = _
  rw [pack_eq_ite, if_neg (by omega), if_neg hlog, UnpackedFloat.unpack]
  simp only [unpackExponent_packComponents, unpackMantissa_packComponents,
    unpackSign_packComponents, hall, hnonzero, if_false, if_true, hmantissa,
    Sign.ofBitVec_toBitVec]
  rfl

theorem unpack_pack_of_isCanonical (s : Sign) (hm : 0 < m) (h : IsCanonical m e) (he : e ≤ 971) :
    (Float.Model.pack (.finite s m e hm)).unpack = .finite s m e hm := by
  rcases Nat.lt_or_ge m (2 ^ 52) with hlt | hfull
  · obtain rfl : e = -1074 := h.full_or_least.resolve_left hlt.not_ge
    exact unpack_pack_of_subnormal s hm hlt
  · exact unpack_pack_of_normal s hm hfull h.lt h.le_exponent he

/-! ## Units in the last place -/

theorem mantissa_shiftRight (em : ExtendedMantissa) (k : ℕ) :
    (em >>> k).mantissa = em.mantissa / 2 ^ k := by
  induction k with
  | zero =>
      rw [pow_zero, Nat.div_one]
      rfl
  | succ k ih =>
      change (em >>> k).mantissa / 2 = _
      rw [ih, Nat.div_div_eq_div_mul, pow_succ]

theorem roundedMantissa_mem_Icc (em : ExtendedMantissa) :
    em.roundedMantissa ∈ Set.Icc em.mantissa (em.mantissa + 1) := by
  rw [Set.mem_Icc, ExtendedMantissa.roundedMantissa]
  cases em.accuracy with
  | exact => simp [Accuracy.roundToNearestEven]
  | inexact order =>
      cases order with
      | lt | gt => simp [Accuracy.roundToNearestEven]
      | eq =>
          simp only [Accuracy.roundToNearestEven]
          omega

/-- Exponent of the double a number is rounded to, unless the mantissa overflows. -/
def roundedExponent (m : ℕ) (e : ℤ) : ℤ :=
  max (m.log2 + e - 52) (-1074)

theorem targetExponent_eq (m : ℕ) (e : ℤ) :
    Format.binary64.targetExponent (totalExponent m e) = roundedExponent m e := by
  change max ((m.log2 : ℤ) + 1 + e - 53) (-1074) = max ((m.log2 : ℤ) + e - 52) (-1074)
  omega

/-- Whole part of a number in units of its last place. -/
def wholePart (m : ℕ) (e : ℤ) : ℕ :=
  m / 2 ^ (roundedExponent m e - e).toNat

theorem mantissa_shiftToTargetExponent (m : ℕ) (e : ℤ) (a : Accuracy) :
    (shiftToTargetExponent .binary64 m e a).1.mantissa = wholePart m e := by
  rw [shiftToTargetExponent, targetExponent_eq, shiftToExponent, mantissa_shiftRight, wholePart]
  congr 1
  cases a with
  | exact => rfl
  | inexact order => cases order <;> rfl

theorem exponent_shiftToTargetExponent (a : Accuracy) (h : e ≤ roundedExponent m e) :
    (shiftToTargetExponent .binary64 m e a).2 = roundedExponent m e := by
  rw [shiftToTargetExponent, targetExponent_eq, shiftToExponent]
  dsimp only
  omega

theorem wholePart_lt (m : ℕ) (e : ℤ) : wholePart m e < 2 ^ 53 := by
  rw [wholePart, Nat.div_lt_iff_lt_mul (by positivity), ← pow_add]
  refine Nat.lt_log2_self.trans_le (Nat.pow_le_pow_right (by decide) ?_)
  rw [roundedExponent]
  omega

/-- The unit in the last place leaves 53 bits, unless it is the least one. -/
theorem le_wholePart (h : e ≤ roundedExponent m e)
    (hne : roundedExponent m e ≠ -1074) : 2 ^ 52 ≤ wholePart m e := by
  have hm : 0 < m := by
    rw [Nat.pos_iff_ne_zero]
    rintro rfl
    rw [roundedExponent, Nat.log2_zero] at *
    omega
  rw [wholePart, Nat.le_div_iff_mul_le (by positivity), ← pow_add]
  refine (Nat.pow_le_pow_right (by decide) ?_).trans (Nat.log2_self_le hm.ne')
  rw [roundedExponent] at *
  omega

/-- Nothing is shifted out of a mantissa that fits. -/
theorem shiftToTargetExponent_of_lt (hm : m < 2 ^ 53) (he : -1074 ≤ e) :
    shiftToTargetExponent .binary64 m e .exact = (⟨m, false, false⟩, e) := by
  have hlog : m.log2 < 53 := by
    by_cases hzero : m = 0
    · rw [hzero]
      decide
    · exact (Nat.log2_lt hzero).mpr hm
  have hshift : (roundedExponent m e - e).toNat = 0 := by
    rw [roundedExponent]
    omega
  rw [shiftToTargetExponent, targetExponent_eq, shiftToExponent, hshift]
  simp only [Nat.cast_zero, add_zero]
  rfl

theorem shiftToTargetExponent_of_eq (he : -1074 ≤ e) :
    shiftToTargetExponent .binary64 (2 ^ 53) e .exact = (⟨2 ^ 52, false, false⟩, e + 1) := by
  have hshift : (roundedExponent (2 ^ 53) e - e).toNat = 1 := by
    rw [roundedExponent, Nat.log2_two_pow]
    omega
  rw [shiftToTargetExponent, targetExponent_eq, shiftToExponent, hshift]
  rfl

/-- Units in the last place that a number is rounded to. -/
def roundedUnits (m : ℕ) (e : ℤ) (a : Accuracy) : ℕ :=
  (shiftToTargetExponent .binary64 m e a).1.roundedMantissa

/-- A number is rounded to one of the two whole numbers of units around it. -/
theorem roundedUnits_mem_Icc (m : ℕ) (e : ℤ) (a : Accuracy) :
    roundedUnits m e a ∈ Set.Icc (wholePart m e) (wholePart m e + 1) := by
  have hround := roundedMantissa_mem_Icc (shiftToTargetExponent .binary64 m e a).1
  rwa [mantissa_shiftToTargetExponent] at hround

/-- What is rounded up past the bits of the mantissa moves to the next exponent. -/
theorem roundWithAccuracy_cases (s : Sign) (a : Accuracy) (h : e ≤ roundedExponent m e) :
    (roundedUnits m e a = 0 ∧ roundWithAccuracy .binary64 s m e a = .zero s) ∨
      ∃ m' e' hm', roundWithAccuracy .binary64 s m e a = .finite s m' e' hm' ∧
        IsCanonical m' e' ∧
        (m' : ℚ) * 2 ^ e' = roundedUnits m e a * 2 ^ roundedExponent m e := by
  have hround := roundedUnits_mem_Icc m e a
  obtain ⟨em, hem⟩ : ∃ em, shiftToTargetExponent .binary64 m e a = (em, roundedExponent m e) :=
    ⟨_, Prod.ext rfl (exponent_shiftToTargetExponent a h)⟩
  have hunits : roundedUnits m e a = em.roundedMantissa := by rw [roundedUnits, hem]
  rw [hunits] at hround ⊢
  have hleast : -1074 ≤ roundedExponent m e := le_max_right _ _
  have hlt := wholePart_lt m e
  rw [roundWithAccuracy, hem]
  dsimp only
  rcases (Nat.lt_or_ge em.roundedMantissa (2 ^ 53)) with hfits | hcarry
  · rw [shiftToTargetExponent_of_lt hfits hleast]
    dsimp only
    split
    · next hzero => exact .inl ⟨hzero, rfl⟩
    · next hnonzero =>
      refine .inr ⟨_, _, Nat.pos_of_ne_zero hnonzero, rfl, ⟨hfits, hleast, ?_⟩, rfl⟩
      by_cases hne : roundedExponent m e = -1074
      · exact .inr hne
      · exact .inl ((le_wholePart h hne).trans hround.1)
  · have heq : em.roundedMantissa = 2 ^ 53 := by
      have := hround.2
      omega
    rw [heq, shiftToTargetExponent_of_eq hleast]
    right
    refine ⟨2 ^ 52, _, by norm_num, rfl, ⟨by norm_num, by omega, .inl le_rfl⟩, ?_⟩
    rw [zpow_add_one₀ (by norm_num)]
    push_cast
    ring

end Unpacked

/-! ## Numbers and the doubles they are rounded to -/

/-- A double stands for a number that is its value, and infinity for all that are too large. -/
def StandsFor (x : Float) (v : ℚ) : Prop :=
  (x.isFinite = true ∧ value x = v) ∨ (2 ^ 1024 ≤ v ∧ x = 1.0 / 0.0)

theorem StandsFor.isFinite {x : Float} {v : ℚ} (h : StandsFor x v) (hlt : v < 2 ^ 1024) :
    x.isFinite = true ∧ value x = v := by
  rcases h with hfinite | ⟨hlarge, -⟩
  · exact hfinite
  · exact absurd hlt (not_lt.mpr hlarge)

theorem StandsFor.le_iff {x y : Float} {w : ℚ} (hx : x.isFinite = true) (hy : StandsFor y w) :
    x ≤ y ↔ value x ≤ w := by
  rcases hy with ⟨hfinite, rfl⟩ | ⟨hlarge, rfl⟩
  · exact le_iff_value_le hx hfinite
  · exact iff_of_true (le_infinity (isNaN_of_isFinite hx)) ((value_lt hx).le.trans hlarge)

theorem zpow_le_mul_zpow {m : ℕ} (hm : 0 < m) (e : ℤ) :
    (2 : ℚ) ^ ((m.log2 : ℤ) + e) ≤ m * 2 ^ e := by
  rw [zpow_add₀ (by norm_num), zpow_natCast]
  gcongr
  exact_mod_cast Nat.log2_self_le hm.ne'

/-- A rounded number is packed without loss, or is too large for a double. -/
theorem unpack_pack_roundWithAccuracy (s : Sign) {m : ℕ} {e : ℤ} (a : Accuracy)
    (h : e ≤ roundedExponent m e) :
    let v : ℚ := roundedUnits m e a * 2 ^ roundedExponent m e
    let u := (Float.Model.pack (roundWithAccuracy .binary64 s m e a)).unpack
    (u.isFinite = true ∧ unpackedValue u = signed s v) ∨ (2 ^ 1024 ≤ v ∧ u = .infinity s) := by
  intro v u
  rcases roundWithAccuracy_cases s a h with
    ⟨hnone, hzero⟩ | ⟨m', e', hm', hfinite, hcanonical, hvalue⟩
  · left
    have hu : u = .zero s := by
      rw [← unpack_pack_zero s, ← hzero]
    have hv : v = 0 := by
      simp only [v, hnone, Nat.cast_zero, zero_mul]
    rw [hu, hv]
    cases s <;> exact ⟨rfl, by simp [unpackedValue, signed]⟩
  · rcases le_or_gt e' 971 with hle | hgt
    · left
      have hu : u = .finite s m' e' hm' := by
        rw [← unpack_pack_of_isCanonical s hm' hcanonical hle, ← hfinite]
      rw [hu, unpackedValue_finite, hvalue]
      exact ⟨rfl, rfl⟩
    · right
      have hu : u = .infinity s := by
        rw [← unpack_pack_of_large s hm' hgt, ← hfinite]
      refine ⟨?_, hu⟩
      have hfull : 2 ^ 52 ≤ m' := hcanonical.full_or_least.resolve_right (by omega)
      calc (2 : ℚ) ^ 1024 = 2 ^ 52 * 2 ^ (972 : ℤ) := by
            change (2 : ℚ) ^ (52 + 972) = 2 ^ 52 * 2 ^ 972
            rw [pow_add]
        _ ≤ (m' : ℚ) * 2 ^ e' := by
            gcongr
            · exact_mod_cast hfull
            · norm_num
            · omega
        _ = v := hvalue

theorem standsFor_pack {m : ℕ} {e : ℤ} (a : Accuracy) (h : e ≤ roundedExponent m e) :
    StandsFor ⟨Float.Model.pack (roundWithAccuracy .binary64 .positive m e a)⟩
      (roundedUnits m e a * 2 ^ roundedExponent m e) := by
  rcases unpack_pack_roundWithAccuracy .positive a h with hfinite | ⟨hlarge, hinfinity⟩
  · exact .inl hfinite
  · exact .inr ⟨hlarge, eq_of_unpack_eq (hinfinity.trans unpack_infinity.symm)⟩

/-! ## Products and quotients -/

theorem unpack_of_value_pos {x : Float} (hx : x.isFinite = true) (hpos : 0 < value x) :
    ∃ m e hm, x.toModel.unpack = .finite .positive m e hm ∧ IsCanonical m e ∧
      value x = m * 2 ^ e := by
  rcases unpack_cases hx with ⟨s, hu⟩ | ⟨s, m, e, hm, hu, hcanonical, -⟩
  · rw [value, hu] at hpos
    exact absurd hpos (lt_irrefl 0)
  cases s with
  | positive =>
      refine ⟨m, e, hm, hu, hcanonical, ?_⟩
      rw [value, hu]
      rfl
  | negative =>
      rw [value, hu] at hpos
      exact absurd hpos (not_lt.mpr (neg_nonpos.mpr (by positivity)))

theorem mul_eq_infinity {x y : Float}
    (h : UnpackedFloat.mul .binary64 x.toModel.unpack y.toModel.unpack = .infinity .positive) :
    x * y = 1.0 / 0.0 := by
  rw [mul_eq, h]
  exact eq_of_unpack_eq rfl

/-- Exponent of a quotient before it is rounded. -/
def quotientExponent (m : ℕ) (e : ℤ) (n : ℕ) (f : ℤ) : ℤ :=
  min (e - f) (max ((m.log2 : ℤ) + e - (n.log2 + f) - 53) (-1074))

/-- Mantissa of a quotient before it is rounded. -/
def quotient (m : ℕ) (e : ℤ) (n : ℕ) (f : ℤ) : ℕ :=
  m * 2 ^ (e - f - quotientExponent m e n f).toNat / n

theorem divCore_eq (m : ℕ) (e : ℤ) (n : ℕ) (f : ℤ) :
    divCore .binary64 m e n f = (quotient m e n f, quotientExponent m e n f,
      accuracyOfFraction (m * 2 ^ (e - f - quotientExponent m e n f).toNat % n) n) := by
  have htarget : Format.binary64.targetExponent (totalExponent m e - totalExponent n f) =
      max ((m.log2 : ℤ) + e - (n.log2 + f) - 53) (-1074) := by
    change max ((m.log2 : ℤ) + 1 + e - (n.log2 + 1 + f) - 53) (-1074) = _
    omega
  rw [divCore, htarget, Nat.shiftLeft_eq]
  rfl

theorem quotientExponent_le {m n : ℕ} (hm : 0 < m) (hn : 0 < n) (e f : ℤ) :
    quotientExponent m e n f ≤ roundedExponent (quotient m e n f) (quotientExponent m e n f) := by
  by_cases hleast : quotientExponent m e n f ≤ -1074
  · exact hleast.trans (le_max_right _ _)
  have hlow : 2 ^ 52 ≤ quotient m e n f := by
    rw [quotient, Nat.le_div_iff_mul_le hn]
    calc 2 ^ 52 * n ≤ 2 ^ 52 * 2 ^ (n.log2 + 1) :=
          Nat.mul_le_mul_left _ Nat.lt_log2_self.le
      _ = 2 ^ (52 + (n.log2 + 1)) := (pow_add _ _ _).symm
      _ ≤ 2 ^ (m.log2 + (e - f - quotientExponent m e n f).toNat) := by
          refine Nat.pow_le_pow_right (by decide) ?_
          rw [quotientExponent] at *
          omega
      _ = 2 ^ m.log2 * 2 ^ (e - f - quotientExponent m e n f).toNat := pow_add _ _ _
      _ ≤ m * 2 ^ (e - f - quotientExponent m e n f).toNat :=
          Nat.mul_le_mul_right _ (Nat.log2_self_le hm.ne')
  have hlog : 52 ≤ (quotient m e n f).log2 :=
    (Nat.le_log2 (by omega)).mpr hlow
  rw [roundedExponent]
  omega

/-- The exact quotient, before its whole part is taken. -/
theorem div_eq_mul_zpow (m : ℕ) {n : ℕ} (hn : 0 < n) (e f : ℤ) :
    (m : ℚ) * 2 ^ e / (n * 2 ^ f) =
      ((m * 2 ^ (e - f - quotientExponent m e n f).toNat : ℕ) : ℚ) / n *
        2 ^ quotientExponent m e n f := by
  have hsplit : e = (e - f - quotientExponent m e n f).toNat + quotientExponent m e n f + f := by
    have hle : quotientExponent m e n f ≤ e - f := min_le_left _ _
    omega
  have hn' : (0 : ℚ) < n := by exact_mod_cast hn
  rw [div_eq_iff (by positivity)]
  conv_lhs => rw [hsplit, zpow_add₀ (by norm_num), zpow_add₀ (by norm_num), zpow_natCast]
  push_cast
  field_simp

end Dashboard.Double
