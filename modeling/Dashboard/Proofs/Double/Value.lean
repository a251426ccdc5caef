import Dashboard.Decimal
import Dashboard.Proofs.Double

/-! # Values of doubles

A finite double is a mantissa of at most 53 bits times a power of two. All of the bits are
used unless the exponent is the least one, so doubles are ordered as their values are. -/

namespace Dashboard.Double

open Float.Model (UnpackedFloat)
open Float.Model.UnpackedFloat

/-! ## Mantissa and exponent -/

/-- Bits of the mantissa, without the implicit one. -/
def fraction (x : Float) : ℕ :=
  x.toBits.toNat % 2 ^ 52

/-- Bits of the exponent. -/
def biasedExponent (x : Float) : ℕ :=
  x.toBits.toNat / 2 ^ 52 % 2 ^ 11

theorem fraction_lt (x : Float) : fraction x < 2 ^ 52 :=
  Nat.mod_lt _ (by norm_num)

theorem toNat_unpackMantissa (x : Float) :
    (@unpackMantissa .binary64 x.toModel.toBits.toBitVec).toNat = fraction x := by
  rw [unpackMantissa_def, BitVec.extractLsb'_toNat]
  rfl

theorem toNat_unpackExponent (x : Float) :
    (@unpackExponent .binary64 x.toModel.toBits.toBitVec).toNat = biasedExponent x := by
  rw [unpackExponent_def, BitVec.extractLsb'_toNat, Nat.shiftRight_eq_div_pow]
  rfl

/-- A finite double is subnormal, or has an implicit leading bit. -/
theorem bits_of_unpack {x : Float} {s : Sign} {m : ℕ} {e : ℤ} {hm : 0 < m}
    (h : x.toModel.unpack = .finite s m e hm) :
    (biasedExponent x = 0 ∧ m = fraction x ∧ e = -1074) ∨
      (0 < biasedExponent x ∧ biasedExponent x < 2047 ∧ m = 2 ^ 52 + fraction x ∧
        e = biasedExponent x - 1075) := by
  have hfraction := toNat_unpackMantissa x
  have hexponent := toNat_unpackExponent x
  have hbound : biasedExponent x < 2 ^ 11 := Nat.mod_lt _ (by norm_num)
  change UnpackedFloat.unpack .binary64 x.toModel.toBits.toBitVec = _ at h
  generalize x.toModel.toBits.toBitVec = bits at *
  revert h
  fun_cases UnpackedFloat.unpack with
  | case1 | case2 | case3 => exact fun h => nomatch h
  | case4 mantissa exponent unbiased sign s' hall hzero hne =>
      intro h
      injection h with hs hmantissa he
      simp +zetaDelta only at *
      left
      rw [hzero] at he hexponent
      simp only [BitVec.toNat_ofNat, Nat.zero_mod] at hexponent
      refine ⟨hexponent.symm, by omega, ?_⟩
      rw [← he]
      decide
  | case5 mantissa exponent unbiased sign s' hall hnonzero =>
      intro h
      injection h with hs hmantissa he
      simp +zetaDelta only at *
      right
      have himplicit : m = 2 ^ 52 + fraction x := by
        rw [← hmantissa, BitVec.toNat_append, ← Nat.shiftLeft_add_eq_or_of_lt (BitVec.isLt _),
          hfraction]
        rfl
      have hpositive : biasedExponent x ≠ 0 := by
        rw [← hexponent]
        exact fun hzero => hnonzero (BitVec.eq_of_toNat_eq hzero)
      have hlargest : biasedExponent x ≠ 2047 := by
        rw [← hexponent]
        exact fun hmax => hall (BitVec.eq_of_toNat_eq hmax)
      refine ⟨by omega, by omega, himplicit, ?_⟩
      rw [← he, hexponent]
      rfl

/-- A mantissa that uses all of its bits, unless its exponent is the least one. -/
structure IsCanonical (mantissa : ℕ) (exponent : ℤ) : Prop where
  lt : mantissa < 2 ^ 53
  le_exponent : -1074 ≤ exponent
  full_or_least : 2 ^ 52 ≤ mantissa ∨ exponent = -1074

theorem isCanonical_of_unpack {x : Float} {s : Sign} {m : ℕ} {e : ℤ} {hm : 0 < m}
    (h : x.toModel.unpack = .finite s m e hm) : IsCanonical m e ∧ e ≤ 971 := by
  have hlt := fraction_lt x
  rcases bits_of_unpack h with ⟨-, hmantissa, hexponent⟩ |
    ⟨hpositive, hlargest, hmantissa, hexponent⟩
  · exact ⟨⟨by omega, by omega, .inr hexponent⟩, by omega⟩
  · exact ⟨⟨by omega, by omega, .inl (by omega)⟩, by omega⟩

/-- Canonical numbers are ordered by their exponents first. -/
theorem IsCanonical.mul_zpow_lt {m m' : ℕ} {e e' : ℤ} (h : IsCanonical m e)
    (h' : IsCanonical m' e') (hlt : toLex (e, (m : ℤ)) < toLex (e', (m' : ℤ))) :
    (m : ℚ) * 2 ^ e < m' * 2 ^ e' := by
  rcases Prod.Lex.toLex_lt_toLex.mp hlt with hexponent | ⟨rfl, hmantissa⟩
  · simp only at hexponent
    have hle := h.le_exponent
    have hfull : 2 ^ 52 ≤ m' := h'.full_or_least.resolve_right (by omega)
    calc (m : ℚ) * 2 ^ e < 2 ^ 53 * 2 ^ e := by
          gcongr
          exact_mod_cast h.lt
      _ = 2 ^ 52 * 2 ^ (e + 1) := by
          rw [zpow_add_one₀ (by norm_num)]
          ring
      _ ≤ m' * 2 ^ e' := by
          gcongr
          · exact_mod_cast hfull
          · norm_num
          · omega
  · simp only at hmantissa
    gcongr
    exact_mod_cast hmantissa

/-! ## Values -/

/-- Exact value of an unpacked double; infinities and NaN count as zero. -/
def unpackedValue : UnpackedFloat → ℚ
  | .finite .positive mantissa exponent _ => mantissa * 2 ^ exponent
  | .finite .negative mantissa exponent _ => -(mantissa * 2 ^ exponent)
  | _ => 0

/-- Exact value of a finite double. -/
def value (x : Float) : ℚ :=
  unpackedValue x.toModel.unpack

/-- A magnitude with a sign. -/
def signed : Sign → ℚ → ℚ
  | .positive, v => v
  | .negative, v => -v

theorem unpackedValue_finite (s : Sign) {m : ℕ} {e : ℤ} (hm : 0 < m) :
    unpackedValue (.finite s m e hm) = signed s (m * 2 ^ e) := by
  cases s <;> rfl

section Order

variable {x y : Float}

theorem isFinite_eq (x : Float) : x.isFinite = x.toModel.unpack.isFinite := rfl

theorem isNaN_of_isFinite (h : x.isFinite = true) : x.isNaN = false := by
  change x.toModel.unpack.isFinite = true at h
  change x.toModel.unpack.isNaN = false
  cases hunpack : x.toModel.unpack with
  | notANumber | infinity s => simp [hunpack, UnpackedFloat.isFinite] at h
  | zero s | finite s m e hm => rfl

theorem lt_infinity (h : x.isFinite = true) : x < 1.0 / 0.0 := by
  by_contra hnot
  have heq := eq_infinity_of_le (le_of_not_lt (isNaN_of_isFinite h) rfl hnot)
  rw [heq] at h
  exact absurd h (by decide)

/-- A finite double is a zero, or has a canonical mantissa and exponent. -/
theorem unpack_cases (h : x.isFinite = true) :
    (∃ s, x.toModel.unpack = .zero s) ∨
      ∃ s m e hm, x.toModel.unpack = .finite s m e hm ∧ IsCanonical m e ∧ e ≤ 971 := by
  rw [isFinite_eq] at h
  cases hunpack : x.toModel.unpack with
  | notANumber | infinity s => simp [hunpack, UnpackedFloat.isFinite] at h
  | zero s => exact .inl ⟨s, rfl⟩
  | finite s m e hm => exact .inr ⟨s, m, e, hm, rfl, isCanonical_of_unpack hunpack⟩

theorem value_lt_of_place_lt (hx : x.isFinite = true) (hy : y.isFinite = true)
    (h : place x < place y) : value x < value y := by
  have hpos {m : ℕ} {e : ℤ} (hm : 0 < m) : (0 : ℚ) < m * 2 ^ e := by positivity
  rw [place, place] at h
  rw [value, value]
  rcases unpack_cases hx with ⟨s, hu⟩ | ⟨s, m, e, hm, hu, hcanonical, -⟩ <;>
    rcases unpack_cases hy with ⟨t, hv⟩ | ⟨t, n, f, hn, hv, hcanonical', -⟩ <;>
    rw [hu, hv] at h ⊢
  · simp [unpackedPlace] at h
  · cases t with
    | positive => exact hpos hn
    | negative => simp [unpackedPlace, Prod.Lex.toLex_lt_toLex] at h
  · cases s with
    | positive => simp [unpackedPlace, Prod.Lex.toLex_lt_toLex] at h
    | negative => exact neg_lt_zero.mpr (hpos hm)
  · cases s with
    | negative =>
        cases t with
        | negative =>
            have hlt : toLex (f, (n : ℤ)) < toLex (e, (m : ℤ)) := by
              simpa [unpackedPlace, Prod.Lex.toLex_lt_toLex, eq_comm] using h
            exact neg_lt_neg (hcanonical'.mul_zpow_lt hcanonical hlt)
        | positive => exact (neg_lt_zero.mpr (hpos hm)).trans (hpos hn)
    | positive =>
        cases t with
        | negative => simp [unpackedPlace, Prod.Lex.toLex_lt_toLex] at h
        | positive =>
            have hlt : toLex (e, (m : ℤ)) < toLex (f, (n : ℤ)) := by
              simpa [unpackedPlace, Prod.Lex.toLex_lt_toLex] using h
            exact hcanonical.mul_zpow_lt hcanonical' hlt

theorem value_eq_of_place_eq (hx : x.isFinite = true) (hy : y.isFinite = true)
    (h : place x = place y) : value x = value y := by
  rw [value, value]
  rcases unpackedPlace_inj (isNaN_of_isFinite hx) (isNaN_of_isFinite hy) h with
    heq | ⟨s, t, hu, hv⟩
  · rw [heq]
  · rw [hu, hv]
    rfl

theorem lt_iff_value_lt (hx : x.isFinite = true) (hy : y.isFinite = true) :
    x < y ↔ value x < value y := by
  rw [lt_iff]
  refine ⟨fun h => value_lt_of_place_lt hx hy h.2.2, fun h => ?_⟩
  refine ⟨isNaN_of_isFinite hx, isNaN_of_isFinite hy, ?_⟩
  by_contra hge
  rcases (not_lt.mp hge).lt_or_eq with hlt | heq
  · exact h.not_gt (value_lt_of_place_lt hy hx hlt)
  · exact h.ne' (value_eq_of_place_eq hy hx heq)

theorem le_iff_value_le (hx : x.isFinite = true) (hy : y.isFinite = true) :
    x ≤ y ↔ value x ≤ value y := by
  rw [← not_lt, ← lt_iff_value_lt hy hx]
  exact ⟨fun h hlt => not_le_of_lt hlt h,
    le_of_not_lt (isNaN_of_isFinite hy) (isNaN_of_isFinite hx)⟩

end Order

theorem IsCanonical.mul_zpow_lt_two_pow {m : ℕ} {e : ℤ} (h : IsCanonical m e) (hle : e ≤ 971) :
    (m : ℚ) * 2 ^ e < 2 ^ 1024 := by
  calc (m : ℚ) * 2 ^ e < 2 ^ 53 * 2 ^ e := by
        gcongr
        exact_mod_cast h.lt
    _ ≤ 2 ^ 53 * 2 ^ (971 : ℤ) := by
        gcongr
        norm_num
    _ = 2 ^ (53 + 971) := by
        rw [pow_add]
        rfl

/-- No double reaches two to the power of 1024. -/
theorem value_lt {x : Float} (h : x.isFinite = true) : value x < 2 ^ 1024 := by
  rcases unpack_cases h with ⟨s, hu⟩ | ⟨s, m, e, hm, hu, hcanonical, hle⟩
  · rw [value, hu]
    exact pow_pos (by norm_num) _
  rw [value, hu]
  cases s with
  | positive => exact hcanonical.mul_zpow_lt_two_pow hle
  | negative => exact (neg_nonpos.mpr (by positivity)).trans_lt (by positivity)

/-! ## Fractions -/

theorem exactFraction_of_unpack {x : Float} {s : Sign} {m : ℕ} {e : ℤ} {hm : 0 < m}
    (h : x.toModel.unpack = .finite s m e hm) :
    exactFraction x = (m * Nat.pow 2 e.toNat, Nat.pow 2 (-e).toNat) := by
  change (if biasedExponent x = 0 then (fraction x, Nat.pow 2 1074)
    else if biasedExponent x < 1075 then
      (fraction x + Nat.pow 2 52, Nat.pow 2 (1075 - biasedExponent x))
    else ((fraction x + Nat.pow 2 52) * Nat.pow 2 (biasedExponent x - 1075), 1)) = _
  have hone : Nat.pow 2 0 = 1 := rfl
  rcases bits_of_unpack h with ⟨hzero, rfl, hexponent⟩ | ⟨hpositive, -, rfl, hexponent⟩
  · have htop : e.toNat = 0 := by omega
    have hbottom : 1074 = (-e).toNat := by omega
    rw [if_pos hzero, htop, hone, mul_one, hbottom]
  rw [if_neg (by omega)]
  split
  · next hlt =>
    have htop : e.toNat = 0 := by omega
    have hbottom : (-e).toNat = 1075 - biasedExponent x := by omega
    rw [htop, hbottom, hone, mul_one, add_comm]
    rfl
  · next hge =>
    have htop : e.toNat = biasedExponent x - 1075 := by omega
    have hbottom : (-e).toNat = 0 := by omega
    rw [htop, hbottom, hone, add_comm]
    rfl

/-- The fraction of a positive double is its value. -/
theorem exactFraction_eq {x : Float} (h : x.isFinite = true) (hpos : 0 < value x) :
    0 < (exactFraction x).1 ∧ 0 < (exactFraction x).2 ∧
      ((exactFraction x).1 : ℚ) / (exactFraction x).2 = value x := by
  rcases unpack_cases h with ⟨s, hu⟩ | ⟨s, m, e, hm, hu, hcanonical, hle⟩
  · rw [value, hu] at hpos
    exact absurd hpos (lt_irrefl 0)
  have hpower : (2 : ℚ) ^ e = 2 ^ e.toNat / 2 ^ (-e).toNat := by
    rw [← zpow_natCast, ← zpow_natCast, ← zpow_sub₀ (by norm_num)]
    congr 1
    omega
  cases s with
  | negative =>
      rw [value, hu] at hpos
      exact absurd hpos (not_lt.mpr (neg_nonpos.mpr (by positivity)))
  | positive =>
      have hvalue : value x = m * 2 ^ e := by
        rw [value, hu]
        rfl
      rw [exactFraction_of_unpack hu, hvalue, hpower]
      simp only [Nat.pow_eq]
      refine ⟨by positivity, by positivity, ?_⟩
      push_cast
      rw [mul_div_assoc]

end Dashboard.Double
