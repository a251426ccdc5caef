import Dashboard.Proofs.Double.Whole
import Dashboard.Proofs.Scale.Decade

/-! # Doubles of decimal numbers

A decimal number becomes the double it is rounded to, whichever way it is written: as a
product or a quotient of two doubles if both are exact, by long division otherwise. -/

namespace Dashboard

namespace Double

open Float.Model (UnpackedFloat Format)
open Float.Model.UnpackedFloat

variable {x y : Float}

/-- Only one double stands for a positive number. -/
theorem StandsFor.eq {v : ℚ} (hv : 0 < v) (hx : StandsFor x v) (hy : StandsFor y v) : x = y := by
  rcases hx with ⟨hxfinite, hxvalue⟩ | ⟨hlarge, rfl⟩
  · obtain ⟨hyfinite, hyvalue⟩ := hy.isFinite (hxvalue ▸ value_lt hxfinite)
    have hvalue : value x = value y := hxvalue.trans hyvalue.symm
    have hle : x ≤ y := (le_iff_value_le hxfinite hyfinite).mpr hvalue.le
    have hge : y ≤ x := (le_iff_value_le hyfinite hxfinite).mpr hvalue.ge
    rcases eq_or_zero_of_le_of_le hle hge with heq | ⟨s, -, hzero, -⟩
    · exact heq
    · rw [← hxvalue, value, hzero] at hv
      exact absurd hv (lt_irrefl 0)
  · rcases hy with ⟨hyfinite, hyvalue⟩ | ⟨-, rfl⟩
    · exact absurd (hyvalue ▸ hlarge) (not_le.mpr (value_lt hyfinite))
    · rfl

theorem standsFor_value (hx : x.isFinite = true) : StandsFor x (value x) :=
  .inl ⟨hx, rfl⟩

/-! ## Numbers times powers of ten -/

section Scientific

variable {m : ℕ}

/-- Whole numbers of at most 53 bits are doubles. -/
theorem rounded_natCast (hm : 0 < m) (hlt : m < 2 ^ 53) : rounded m = m := by
  have hlog : m.log2 < 53 := (Nat.log2_lt hm.ne').mpr hlt
  have hbits : 2 ^ m.log2 * 2 ^ (52 - m.log2) = 2 ^ 52 := by
    rw [← pow_add]
    congr 1
    omega
  have hcanonical : IsCanonical (m * 2 ^ (52 - m.log2)) (-(52 - m.log2 : ℕ)) := by
    refine ⟨?_, by omega, .inl ?_⟩
    · calc m * 2 ^ (52 - m.log2) < 2 ^ (m.log2 + 1) * 2 ^ (52 - m.log2) :=
            Nat.mul_lt_mul_of_pos_right Nat.lt_log2_self (by positivity)
        _ = 2 ^ 53 := by rw [pow_succ, mul_right_comm, hbits]; rfl
    · calc 2 ^ 52 = 2 ^ m.log2 * 2 ^ (52 - m.log2) := hbits.symm
        _ ≤ m * 2 ^ (52 - m.log2) := Nat.mul_le_mul_right _ (Nat.log2_self_le hm.ne')
  have hround := rounded_of_isCanonical hcanonical
  rwa [mul_two_pow_mul_zpow] at hround

theorem isFinite_toFloat (hm : 0 < m) (hlt : m < 2 ^ 53) :
    m.toUInt64.toFloat.isFinite = true ∧ value m.toUInt64.toFloat = m := by
  have hfinite := isFinite_toFloat_toUInt64 hlt
  rwa [rounded_natCast hm hlt] at hfinite

/-- The powers of ten that doubles hold exactly are held exactly. -/
theorem value_powerOfTen (k : Fin Float.exactlyRepresentablePowersOfTen.size) :
    Float.exactlyRepresentablePowersOfTen[k].isFinite = true ∧
      value Float.exactlyRepresentablePowersOfTen[k] = 10 ^ k.val := by
  revert k
  decide +kernel

/-- A whole number times a power of ten is rounded once, unless the power is far beyond the
range of doubles. -/
theorem standsFor_scientific (hm : 0 < m) {e : ℤ} (hlow : -(2048 + m.log2 : ℤ) ≤ e)
    (hhigh : e ≤ 2048) :
    StandsFor (Float.ofModel (Float.Model.ofScientific m e)) (rounded (m * 10 ^ e)) := by
  have hmodel : Float.ofModel (Float.Model.ofScientific m e) =
      ⟨Float.Model.pack (UnpackedFloat.ofScientific .binary64 m e)⟩ := rfl
  have htop : ¬ e > 2 ^ Format.binary64.exponentBits := by
    change ¬ e > 2 ^ 11
    omega
  have hbottom : ¬ e < -((2 ^ Format.binary64.exponentBits : ℤ) + m.log2) := by
    change ¬ e < -(2 ^ 11 + (m.log2 : ℤ))
    omega
  rw [hmodel, UnpackedFloat.ofScientific, dif_neg hm.ne', if_neg htop, if_neg hbottom]
  rcases le_or_gt 0 e with hnonneg | hneg
  · have hpower : (m : ℚ) * 10 ^ e = (m * 10 ^ e.toNat : ℕ) := by
      push_cast
      rw [← zpow_natCast, Int.toNat_of_nonneg hnonneg]
    have hproduct : UnpackedFloat.mul .binary64
        (.finite .positive (m <<< Format.binary64.mantissaBits) (-Format.binary64.mantissaBits)
          (by simpa [Nat.pos_iff_ne_zero] using hm.ne'))
        (.finite .positive (10 ^ e.toNat) 0 (Nat.pow_pos (by decide))) =
        roundWithAccuracy .binary64 .positive (m * 10 ^ e.toNat * 2 ^ 53) (-(53 : ℕ)) .exact := by
      rw [UnpackedFloat.mul, mul_right_comm, Nat.shiftLeft_eq]
      rfl
    rw [if_pos hnonneg, hproduct, hpower]
    exact standsFor_pack_mul_two_pow (by positivity) (by omega)
  · have hten : 0 < 10 ^ (-e).toNat := by positivity
    have hquotient : (m : ℚ) * 10 ^ e =
        (m : ℚ) * 2 ^ (0 : ℤ) / ((10 ^ (-e).toNat : ℕ) * 2 ^ (0 : ℤ)) := by
      have hcast : (e : ℤ) = -((-e).toNat : ℤ) := by omega
      conv_lhs => rw [hcast, zpow_neg, zpow_natCast]
      push_cast
      rw [mul_one, mul_one, div_eq_mul_inv]
    rw [if_neg (not_le.mpr hneg), UnpackedFloat.div, divCore_eq, hquotient,
      div_eq_mul_zpow m hten]
    exact standsFor_rounded (.of_fraction _ hten) (by positivity) (quotientExponent_le hm hten 0 0)

/-- The power of ten that a sign and its magnitude stand for. -/
def scientificExponent (negative : Bool) (places : ℕ) : ℤ :=
  if negative then -places else places

theorem standsFor_ofScientific_rounded (hm : 0 < m) (negative : Bool) (places : ℕ)
    (hlow : -(2048 + m.log2 : ℤ) ≤ scientificExponent negative places)
    (hhigh : scientificExponent negative places ≤ 2048) :
    StandsFor (Float.ofScientific m negative places)
      (rounded (m * 10 ^ scientificExponent negative places)) := by
  rw [Float.ofScientific]
  split
  · next hexact =>
    -- Both numbers are doubles, so the only rounding is that of their product or quotient.
    obtain ⟨hfinite, hvalue⟩ := isFinite_toFloat hm hexact.1
    obtain ⟨htenFinite, htenValue⟩ := value_powerOfTen ⟨places, Nat.lt_succ_of_le hexact.2⟩
    have hpos : 0 < value m.toUInt64.toFloat := by
      rw [hvalue]
      exact_mod_cast hm
    have htenPos := htenValue ▸ (by positivity : (0 : ℚ) < 10 ^ places)
    cases negative with
    | false =>
        have hproduct := standsFor_mul hfinite htenFinite hpos htenPos
        rw [hvalue, htenValue] at hproduct
        exact hproduct
    | true =>
        have hquotient := standsFor_div hfinite htenFinite hpos htenPos
        rw [hvalue, htenValue, div_eq_mul_inv, ← zpow_natCast, ← zpow_neg] at hquotient
        exact hquotient
  · have hexponent : (if negative then Int.negOfNat places else Int.ofNat places) =
        scientificExponent negative places := by
      cases negative with
      | false => rfl
      | true => exact Int.negOfNat_eq
    rw [hexponent]
    exact standsFor_scientific hm hlow hhigh

end Scientific

end Double

/-! ## Decimal numbers -/

namespace Decimal

open Double (StandsFor rounded scientificExponent)

/-- The number that digits and an exponent stand for. -/
def value (d : Decimal) : ℚ :=
  d.digits * 10 ^ d.exponent

/-- Number of places that a number with digits reaches left of the point. -/
def top (d : Decimal) : ℤ :=
  digitCount d.digits + d.exponent

section Nearest

variable {d : Decimal}

theorem value_lt_zpow_top (d : Decimal) : d.value < 10 ^ d.top := by
  rw [value, top, digitCount_eq, zpow_add₀ (by norm_num)]
  gcongr
  exact_mod_cast cast_lt_zpow_log_succ d.digits

theorem zpow_top_le_value (h : 0 < d.digits) : (10 : ℚ) ^ (d.top - 1) ≤ d.value := by
  have hsplit : d.top - 1 = (Nat.log 10 d.digits : ℤ) + d.exponent := by
    rw [top, digitCount_eq]
    omega
  rw [hsplit, value, zpow_add₀ (by norm_num)]
  gcongr
  exact zpow_log_le_cast h

/-- A decimal number within the range of doubles becomes the double it is rounded to. -/
theorem standsFor_toFloat (h : 0 < d.digits) (hlow : -330 ≤ d.top) (hhigh : d.top ≤ 310) :
    StandsFor d.toFloat (rounded d.value) := by
  have hexponent : scientificExponent (d.exponent < 0) d.exponent.natAbs = d.exponent := by
    rw [scientificExponent]
    split
    · next hneg =>
      have := of_decide_eq_true hneg
      omega
    · next hnonneg =>
      have : ¬ d.exponent < 0 := by simpa using hnonneg
      omega
  have hlog : Nat.log 10 d.digits ≤ d.digits.log2 := by
    rw [Nat.log2_eq_log_two]
    exact Nat.log_anti_left (by decide) (by decide)
  have htop : d.top = (Nat.log 10 d.digits + 1 : ℕ) + d.exponent := by
    rw [top, digitCount_eq]
  have hstands := Double.standsFor_ofScientific_rounded h (d.exponent < 0) d.exponent.natAbs
    (by rw [hexponent]; omega) (by rw [hexponent]; omega)
  rw [hexponent] at hstands
  have hfloat : d.toFloat = Float.ofScientific d.digits (d.exponent < 0) d.exponent.natAbs := by
    rw [toFloat, if_neg h.ne', if_neg (by rw [top] at hhigh; omega),
      if_neg (by rw [top] at hlow; omega)]
  rw [hfloat]
  exact hstands

theorem top_eq_of_value_eq {d' : Decimal} (h : 0 < d.digits) (h' : 0 < d'.digits)
    (hvalue : d.value = d'.value) : d.top = d'.top := by
  have hlt : d.top - 1 < d'.top := (zpow_lt_zpow_iff_right₀ (by norm_num : (1 : ℚ) < 10)).mp <| by
    calc (10 : ℚ) ^ (d.top - 1) ≤ d.value := zpow_top_le_value h
      _ = d'.value := hvalue
      _ < 10 ^ d'.top := value_lt_zpow_top d'
  have hgt : d'.top - 1 < d.top := (zpow_lt_zpow_iff_right₀ (by norm_num : (1 : ℚ) < 10)).mp <| by
    calc (10 : ℚ) ^ (d'.top - 1) ≤ d'.value := zpow_top_le_value h'
      _ = d.value := hvalue.symm
      _ < 10 ^ d.top := value_lt_zpow_top d
  omega

/-- Two spellings of one number from one on become the same double. -/
theorem toFloat_eq_of_value_eq {d' : Decimal} (hone : 1 ≤ d.value) (hhigh : d.top ≤ 310)
    (hvalue : d.value = d'.value) : d.toFloat = d'.toFloat := by
  have hpos {d : Decimal} (hone : 1 ≤ d.value) : 0 < d.digits := by
    refine Nat.pos_of_ne_zero fun hzero => ?_
    rw [value, hzero, Nat.cast_zero, zero_mul] at hone
    exact absurd hone (by norm_num)
  have htop := top_eq_of_value_eq (hpos hone) (hpos (hvalue ▸ hone)) hvalue
  have hlow : 0 < d.top := (one_lt_zpow_iff_right₀ (by norm_num : (1 : ℚ) < 10)).mp
    (hone.trans_lt (value_lt_zpow_top d))
  refine StandsFor.eq (zero_lt_one.trans_le (Double.one_le_rounded hone))
    (standsFor_toFloat (hpos hone) (by omega) hhigh) ?_
  rw [hvalue]
  exact standsFor_toFloat (hpos (hvalue ▸ hone)) (by omega) (by omega)

end Nearest

end Decimal

end Dashboard
