import Dashboard.Scalar
import Mathlib.Algebra.Order.Field.Power
import Mathlib.Data.Int.Log
import Mathlib.Data.Rat.Floor
import Mathlib.Tactic.NormNum
import Mathlib.Tactic.Positivity

/-! # Decades

The decade of a positive fraction, read off the digits of its parts, is its integer
logarithm to base ten. -/

namespace Dashboard

theorem digitCount_eq (n : ℕ) : digitCount n = Nat.log 10 n + 1 := by
  induction n using Nat.strong_induction_on with
  | _ n ih =>
      rw [digitCount]
      split
      · next hlt => rw [Nat.log_of_lt hlt]
      · next hge =>
        have hlog : Nat.log 10 n = Nat.log 10 (n / 10) + 1 :=
          Nat.log_of_one_lt_of_le (by decide) (by omega)
        rw [ih (n / 10) (by omega), hlog]

theorem zpow_eq_div (k : ℤ) : (10 : ℚ) ^ k = (10 : ℚ) ^ k.toNat / (10 : ℚ) ^ (-k).toNat := by
  rw [← zpow_natCast, ← zpow_natCast, ← zpow_sub₀ (by norm_num)]
  congr 1
  omega

/-- Powers of ten are compared with a fraction without dividing. -/
theorem zpow_le_div_iff (k : ℤ) (numerator : ℕ) {denominator : ℕ} (h : 0 < denominator) :
    (10 : ℚ) ^ k ≤ numerator / denominator ↔
      denominator * Nat.pow 10 k.toNat ≤ numerator * Nat.pow 10 (-k).toNat := by
  have hpos : (0 : ℚ) < denominator := by exact_mod_cast h
  rw [zpow_eq_div, div_le_div_iff₀ (by positivity) hpos, mul_comm]
  exact_mod_cast Iff.rfl

theorem zpow_le_iff_le_log {k : ℤ} {r : ℚ} (h : 0 < r) : (10 : ℚ) ^ k ≤ r ↔ k ≤ Int.log 10 r := by
  simpa using Int.zpow_le_iff_le_log (b := 10) (x := k) (by decide) h

theorem lt_zpow_iff_log_lt {k : ℤ} {r : ℚ} (h : 0 < r) : r < (10 : ℚ) ^ k ↔ Int.log 10 r < k := by
  rw [← not_le, zpow_le_iff_le_log h, not_le]

theorem zpow_log_le_cast {n : ℕ} (h : 0 < n) : (10 : ℚ) ^ (Nat.log 10 n : ℤ) ≤ n := by
  rw [zpow_natCast]
  exact_mod_cast Nat.pow_log_le_self 10 h.ne'

theorem cast_lt_zpow_log_succ (n : ℕ) : (n : ℚ) < (10 : ℚ) ^ ((Nat.log 10 n : ℤ) + 1) := by
  rw [← Nat.cast_succ, zpow_natCast]
  exact_mod_cast Nat.lt_pow_succ_log_self (by decide) n

/-- The magnitude is the integer logarithm. That of the digit counts is at most one more. -/
theorem magnitude_eq_log {numerator denominator : ℕ} (hn : 0 < numerator)
    (hd : 0 < denominator) :
    magnitude numerator denominator = Int.log 10 ((numerator : ℚ) / denominator) := by
  let k : ℤ := Nat.log 10 numerator - Nat.log 10 denominator
  have hk : (digitCount numerator : ℤ) - digitCount denominator = k := by
    rw [digitCount_eq, digitCount_eq]
    omega
  have hpos : (0 : ℚ) < numerator / denominator := by positivity
  have hdpos : (0 : ℚ) < denominator := by exact_mod_cast hd
  have hbelow : (10 : ℚ) ^ (k - 1) ≤ numerator / denominator := by
    rw [le_div_iff₀ hdpos]
    calc (10 : ℚ) ^ (k - 1) * denominator
        ≤ 10 ^ (k - 1) * 10 ^ ((Nat.log 10 denominator : ℤ) + 1) := by
          gcongr
          exact (cast_lt_zpow_log_succ denominator).le
      _ = 10 ^ (Nat.log 10 numerator : ℤ) := by
          rw [← zpow_add₀ (by norm_num)]
          congr 1
          omega
      _ ≤ numerator := zpow_log_le_cast hn
  have habove : (numerator : ℚ) / denominator < 10 ^ (k + 1) := by
    rw [div_lt_iff₀ hdpos]
    calc (numerator : ℚ) < 10 ^ ((Nat.log 10 numerator : ℤ) + 1) := cast_lt_zpow_log_succ numerator
      _ = 10 ^ (k + 1) * 10 ^ (Nat.log 10 denominator : ℤ) := by
          rw [← zpow_add₀ (by norm_num)]
          congr 1
          omega
      _ ≤ 10 ^ (k + 1) * denominator := by
          gcongr
          exact zpow_log_le_cast hd
  have hlow := (zpow_le_iff_le_log hpos).mp hbelow
  have hhigh := (lt_zpow_iff_log_lt hpos).mp habove
  rw [magnitude, hk]
  simp only [← zpow_le_div_iff k numerator hd]
  split
  · next hle =>
    have hlog := (zpow_le_iff_le_log hpos).mp hle
    omega
  · next hlt =>
    have hlog := (lt_zpow_iff_log_lt hpos).mp (not_le.mp hlt)
    omega

/-- The decade of a positive rational is the one it lies in. -/
theorem decade_eq_log {x : ℚ} (h : 0 < x) : Scalar.decade x = Int.log 10 x := by
  have hnum : 0 < x.num.natAbs := Int.natAbs_pos.mpr (Rat.num_ne_zero.mpr h.ne')
  have hcast : (x.num.natAbs : ℚ) = x.num := by
    rw [Nat.cast_natAbs, abs_of_pos (Rat.num_pos.mpr h)]
  calc Scalar.decade x = magnitude x.num.natAbs x.den := rfl
    _ = Int.log 10 ((x.num.natAbs : ℚ) / x.den) := magnitude_eq_log hnum x.den_pos
    _ = Int.log 10 x := by rw [hcast, Rat.num_div_den]

theorem zpow_decade_le {x : ℚ} (h : 0 < x) : (10 : ℚ) ^ Scalar.decade x ≤ x := by
  rw [zpow_le_iff_le_log h, decade_eq_log h]

theorem lt_zpow_decade_succ {x : ℚ} (h : 0 < x) : x < (10 : ℚ) ^ (Scalar.decade x + 1) := by
  rw [lt_zpow_iff_log_lt h, decade_eq_log h]
  exact Int.lt_succ _

end Dashboard
