import Dashboard.Proofs.Decimal.Nearest
import Dashboard.Proofs.Decimal.Numerals

/-! # Shortest decimal numbers

The decimal number written for a double becomes that double again. -/

namespace Dashboard

namespace Double

variable {x : Float}

theorem eq_of_toBits_eq {y : Float} (h : x.toBits = y.toBits) : x = y := by
  obtain ⟨⟨bits, hvalid⟩⟩ := x
  obtain ⟨⟨bits', hvalid'⟩⟩ := y
  obtain rfl : bits = bits' := h
  rfl

theorem value_ge_of_pos (hx : x.isFinite = true) (hpos : 0 < value x) :
    (2 : ℚ) ^ (-1074 : ℤ) ≤ value x := by
  obtain ⟨m, e, hm, -, hcanonical, hvalue⟩ := unpack_of_value_pos hx hpos
  rw [hvalue]
  calc (2 : ℚ) ^ (-1074 : ℤ) ≤ 2 ^ e := zpow_le_zpow_right₀ (by norm_num) hcanonical.le_exponent
    _ ≤ m * 2 ^ e := le_mul_of_one_le_left (by positivity) (by exact_mod_cast hm)

end Double

namespace Decimal

open Double (StandsFor rounded)

variable {x : Float}

/-! ## The exact value of a double -/

theorem ten_zpow_lt_least : (10 : ℚ) ^ (-330 : ℤ) < 2 ^ (-1074 : ℤ) := by
  have hlt : 2 ^ 1074 < 10 ^ 330 := by decide +kernel
  have hpower (b : ℚ) (k : ℕ) : b ^ (-(k : ℤ)) = (b ^ k)⁻¹ := by rw [zpow_neg, zpow_natCast]
  calc (10 : ℚ) ^ (-330 : ℤ) = (10 ^ 330)⁻¹ := hpower 10 330
    _ < (2 ^ 1074)⁻¹ := inv_strictAnti₀ (by positivity) (by exact_mod_cast hlt)
    _ = 2 ^ (-1074 : ℤ) := (hpower 2 1074).symm

theorem bound_lt_ten_zpow : (2 : ℚ) ^ 1024 < 10 ^ (310 : ℤ) := by
  have hlt : 2 ^ 1024 < 10 ^ 310 := by decide +kernel
  exact_mod_cast hlt

theorem exact_eq (hx : x.isFinite = true) (hpos : 0 < Double.value x) :
    0 < (exact x).digits ∧ (exact x).value = Double.value x := by
  obtain ⟨m, e, hm, hu, -, -⟩ := Double.unpack_of_value_pos hx hpos
  obtain ⟨hnumerator, -, hfraction⟩ := Double.exactFraction_eq hx hpos
  have htwos : (exactFraction x).2.log2 = (-e).toNat := by
    rw [Double.exactFraction_of_unpack hu]
    exact Nat.log2_two_pow
  have hdenominator : (exactFraction x).2 = 2 ^ (exactFraction x).2.log2 := by
    rw [htwos, Double.exactFraction_of_unpack hu]
    rfl
  have hdigits : (exact x).digits = (exactFraction x).1 * 5 ^ (exactFraction x).2.log2 := rfl
  have hexponent : (exact x).exponent = -((exactFraction x).2.log2 : ℤ) := rfl
  refine ⟨hdigits ▸ by positivity, ?_⟩
  rw [value, hdigits, hexponent, ← hfraction, zpow_neg, zpow_natCast]
  conv_rhs => rw [hdenominator]
  push_cast
  rw [show (10 : ℚ) = 5 * 2 by norm_num, mul_pow]
  field_simp

theorem toFloat_exact (hx : x.isFinite = true) (hpos : 0 < Double.value x) :
    (exact x).toFloat = x := by
  obtain ⟨hdigits, hvalue⟩ := exact_eq hx hpos
  have hlow : -330 ≤ (exact x).top := by
    have hlt : (10 : ℚ) ^ (-330 : ℤ) < 10 ^ (exact x).top := by
      calc (10 : ℚ) ^ (-330 : ℤ) < 2 ^ (-1074 : ℤ) := ten_zpow_lt_least
        _ ≤ (exact x).value := hvalue ▸ Double.value_ge_of_pos hx hpos
        _ < 10 ^ (exact x).top := value_lt_zpow_top _
    exact ((zpow_lt_zpow_iff_right₀ (by norm_num)).mp hlt).le
  have hhigh : (exact x).top ≤ 310 := by
    have hlt : (10 : ℚ) ^ ((exact x).top - 1) < 10 ^ (310 : ℤ) := by
      calc (10 : ℚ) ^ ((exact x).top - 1) ≤ (exact x).value := zpow_top_le_value hdigits
        _ < 2 ^ 1024 := hvalue ▸ Double.value_lt hx
        _ < 10 ^ (310 : ℤ) := bound_lt_ten_zpow
    have := (zpow_lt_zpow_iff_right₀ (by norm_num)).mp hlt
    omega
  have hstands := standsFor_toFloat hdigits hlow hhigh
  rw [hvalue, Double.rounded_value hx hpos.le] at hstands
  exact StandsFor.eq hpos hstands (Double.standsFor_value hx)

/-! ## The number with the fewest digits -/

theorem toFloat_of_candidate? {places : ℕ} {d : Decimal} (h : candidate? x places = some d) :
    d.toFloat = x := by
  have hread : ∀ low high : Decimal,
      (if low.toFloat.toBits == x.toBits then some low
        else if high.toFloat.toBits == x.toBits then some high else none) = some d →
      d.toFloat = x := by
    intro low high hfound
    split at hfound
    · next heq =>
      cases hfound
      exact Double.eq_of_toBits_eq (beq_iff_eq.mp heq)
    · split at hfound
      · next heq =>
        cases hfound
        exact Double.eq_of_toBits_eq (beq_iff_eq.mp heq)
      · cases hfound
  exact hread _ _ h

theorem toFloat_shortest (hx : x.isFinite = true) (hpos : 0 < Double.value x) :
    (shortest x).toFloat = x := by
  rw [shortest]
  cases hfound : (List.range 17).findSome? fun n => candidate? x (n + 1) with
  | none => exact toFloat_exact hx hpos
  | some d =>
      obtain ⟨n, -, hcandidate⟩ := List.exists_of_findSome?_eq_some hfound
      exact toFloat_of_candidate? hcandidate

theorem digits_shortest_pos (hx : x.isFinite = true) (hpos : 0 < Double.value x) :
    0 < (shortest x).digits := by
  refine Nat.pos_of_ne_zero fun hzero => ?_
  have hfloat := toFloat_shortest hx hpos
  rw [toFloat, if_pos hzero] at hfloat
  rw [← hfloat] at hpos
  exact absurd hpos (lt_irrefl 0)

end Decimal

end Dashboard
