import Dashboard.Proofs.Double.Value
import Dashboard.Proofs.Scale.Decade

/-! # Decades of doubles

The decade of a double is the one its value lies in, or the next one, which is reached only
from just below its power of ten. -/

namespace Dashboard

open Double (value)

section LogDecade

variable {x : Float}

/-- Bits of half the spacing of the logarithms just below a whole one. -/
def halfSpacing (next : ℤ) : ℕ :=
  if next < 0 then 53 - next.natAbs.log2
  else if next = 1 then 54
  else 53 - (next.toNat - 1).log2

/-- Half the spacing as a fraction of `10 ^ 30`, in which the natural logarithm of ten is
written. -/
def spacingUnit (next : ℤ) : ℕ :=
  Nat.pow 10 30 * Nat.pow 2 (halfSpacing next)

def naturalLogOfTen : ℕ := 2302585092994045684017991454684

/-- Part of a power of ten from which on its decade is reached, over twice the square of the
unit. -/
def reach (unit : ℕ) : ℕ :=
  2 * unit * unit - 2 * naturalLogOfTen * unit + naturalLogOfTen * naturalLogOfTen

theorem logDecade_eq_ite (x : Float) :
    logDecade x =
      if magnitude (exactFraction x).1 (exactFraction x).2 + 1 = 0 then
        magnitude (exactFraction x).1 (exactFraction x).2
      else if (exactFraction x).2 *
            Nat.pow 10 (magnitude (exactFraction x).1 (exactFraction x).2 + 1).toNat *
            reach (spacingUnit (magnitude (exactFraction x).1 (exactFraction x).2 + 1)) ≤
          (exactFraction x).1 *
            Nat.pow 10 (-(magnitude (exactFraction x).1 (exactFraction x).2 + 1)).toNat *
            (2 * spacingUnit (magnitude (exactFraction x).1 (exactFraction x).2 + 1) *
              spacingUnit (magnitude (exactFraction x).1 (exactFraction x).2 + 1)) then
        magnitude (exactFraction x).1 (exactFraction x).2 + 1
      else magnitude (exactFraction x).1 (exactFraction x).2 := rfl

/-- A number that is well below another one does not reach it. -/
theorem mul_lt_mul_reach {number power unit : ℕ} (hpower : 0 < power)
    (hunit : 25 * naturalLogOfTen ≤ 2 * unit) (h : 100 * number ≤ 91 * power) :
    number * (2 * unit * unit) < power * reach unit := by
  have hpos : 0 < unit := by
    by_contra hzero
    rw [Nat.eq_zero_of_not_pos hzero] at hunit
    exact absurd hunit (by decide)
  have hreach : 92 * (2 * unit * unit) ≤ 100 * reach unit := by
    have hmul : 25 * naturalLogOfTen * unit ≤ 2 * unit * unit := Nat.mul_le_mul_right unit hunit
    rw [Nat.mul_assoc 25] at hmul
    rw [reach, Nat.mul_assoc 2 naturalLogOfTen]
    omega
  have hlt : 100 * (number * (2 * unit * unit)) < 100 * (power * reach unit) := by
    calc 100 * (number * (2 * unit * unit))
        = 100 * number * (2 * unit * unit) := (Nat.mul_assoc _ _ _).symm
      _ ≤ 91 * power * (2 * unit * unit) := Nat.mul_le_mul_right _ h
      _ < 92 * power * (2 * unit * unit) := by gcongr; norm_num
      _ = power * (92 * (2 * unit * unit)) := by ring
      _ ≤ power * (100 * reach unit) := Nat.mul_le_mul_left _ hreach
      _ = 100 * (power * reach unit) := by ring
  exact Nat.lt_of_mul_lt_mul_left hlt

theorem le_spacingUnit {k : ℕ} (hk : k < 2 ^ 48) :
    25 * naturalLogOfTen ≤ 2 * spacingUnit (k + 1) := by
  have hspacing : 5 ≤ halfSpacing (k + 1) := by
    have hlog : k.log2 < 49 := by
      rcases Nat.eq_zero_or_pos k with rfl | hpos
      · decide
      · exact (Nat.log2_lt hpos.ne').mpr (hk.trans (by norm_num))
    rw [halfSpacing]
    have hcast : ((k : ℤ) + 1).toNat - 1 = k := by omega
    rw [hcast]
    split
    · omega
    · split
      · norm_num
      · omega
  calc 25 * naturalLogOfTen ≤ 2 * (Nat.pow 10 30 * Nat.pow 2 5) := by decide
    _ ≤ 2 * spacingUnit (k + 1) := by
      rw [spacingUnit]
      gcongr
      exact Nat.pow_le_pow_right (by decide) hspacing

theorem magnitude_exactFraction (hx : x.isFinite = true) (hpos : 0 < value x) :
    magnitude (exactFraction x).1 (exactFraction x).2 = Int.log 10 (value x) := by
  obtain ⟨hnum, hden, hvalue⟩ := Double.exactFraction_eq hx hpos
  rw [magnitude_eq_log hnum hden, hvalue]

theorem logDecade_eq_or (hx : x.isFinite = true) (hpos : 0 < value x) :
    logDecade x = Int.log 10 (value x) ∨ logDecade x = Int.log 10 (value x) + 1 := by
  rw [logDecade_eq_ite, magnitude_exactFraction hx hpos]
  split
  · exact .inl rfl
  · split
    · exact .inr rfl
    · exact .inl rfl

/-- A value that stays well below the next power of ten is not taken to its decade. -/
theorem logDecade_le (hx : x.isFinite = true) (hpos : 0 < value x) {k : ℕ} (hk : k < 2 ^ 48)
    (h : value x ≤ 91 / 100 * 10 ^ (k + 1)) : logDecade x ≤ k := by
  obtain ⟨hnum, hden, hvalue⟩ := Double.exactFraction_eq hx hpos
  have hpower : (0 : ℚ) < 10 ^ (k + 1) := by positivity
  have hlog : Int.log 10 (value x) ≤ k := by
    have hlt : value x < 10 ^ ((k : ℤ) + 1) := by
      rw [← Nat.cast_add_one, zpow_natCast]
      linarith
    have hnext := (lt_zpow_iff_log_lt hpos).mp hlt
    omega
  rcases hlog.lt_or_eq with hlt | heq
  · have hdecade := logDecade_eq_or hx hpos
    omega
  have hfraction :
      100 * (exactFraction x).1 ≤ 91 * ((exactFraction x).2 * Nat.pow 10 (k + 1)) := by
    have hdenpos : (0 : ℚ) < (exactFraction x).2 := by exact_mod_cast hden
    rw [← hvalue, div_le_iff₀ hdenpos] at h
    have hscaled : (100 : ℚ) * (exactFraction x).1 ≤ 91 * ((exactFraction x).2 * 10 ^ (k + 1)) := by
      linarith
    exact_mod_cast hscaled
  have hwhole : 0 < (exactFraction x).2 * Nat.pow 10 (k + 1) :=
    Nat.mul_pos hden (Nat.pow_pos (by decide))
  have hbelow := mul_lt_mul_reach hwhole (le_spacingUnit hk) hfraction
  rw [logDecade_eq_ite, magnitude_exactFraction hx hpos, heq]
  have htop : ((k : ℤ) + 1).toNat = k + 1 := by omega
  have hbottom : (-((k : ℤ) + 1)).toNat = 0 := by omega
  have hone : Nat.pow 10 0 = 1 := rfl
  rw [htop, hbottom, hone, mul_one, if_neg (by omega), if_neg hbelow.not_ge]

theorem le_logDecade (hx : x.isFinite = true) {k : ℕ} (h : 10 ^ k ≤ value x) :
    (k : ℤ) ≤ logDecade x := by
  have hpos : 0 < value x := (by positivity : (0 : ℚ) < 10 ^ k).trans_le h
  rw [← zpow_natCast] at h
  have hlog := (zpow_le_iff_le_log hpos).mp h
  have hdecade := logDecade_eq_or hx hpos
  omega

end LogDecade

end Dashboard
