import Dashboard.Proofs.Scale.Decade
import Dashboard.Scale
import Mathlib.Order.Bounds.Defs
import Mathlib.Tactic.FinCases
import Mathlib.Tactic.Linarith
import Mathlib.Tactic.Ring

/-! # Round ceilings

In exact arithmetic the ceiling of a maximum is the least round number that leaves a tenth
of it free. The candidates of two decades are enough to find it: if the first one that covers
the maximum is too tight, the next larger one is round again, also where that lies in the
next decade. -/

namespace Dashboard.Scale

/-! ## Candidates -/

theorem powerFrom_eq (base product : ℚ) (n : ℕ) :
    powerFrom base product n = product * base ^ n := by
  induction base, product, n using powerFrom.induct with
  | case1 base product n hhalf =>
      rw [powerFrom, dif_pos hhalf]
      obtain rfl | rfl : n = 0 ∨ n = 1 := by omega
      · simp
      · simp [Scalar.mul]
  | case2 base product n step hhalf ih =>
      rw [powerFrom, dif_neg hhalf]
      refine ih.trans ?_
      have hn : n = n % 2 + 2 * (n / 2) := (Nat.mod_add_div n 2).symm
      calc step * (base * base) ^ (n / 2) = step * base ^ (2 * (n / 2)) := by rw [pow_mul, sq]
        _ = product * base ^ (n % 2) * base ^ (2 * (n / 2)) := by
          congr 1
          rcases Nat.mod_two_eq_zero_or_one n with hmod | hmod <;> simp [step, hmod, Scalar.mul]
        _ = product * base ^ n := by rw [mul_assoc, ← pow_add, ← hn]

theorem powerOfTen_eq (n : ℕ) : (powerOfTen n : ℚ) = 10 ^ n := by
  rw [powerOfTen, powerFrom_eq]
  simp [Scalar.ofNat]

theorem scaled_eq (step : ℕ) (exponent : ℤ) :
    (scaled step exponent : ℚ) = step * 10 ^ exponent := by
  rw [scaled, powerOfTen_eq, powerOfTen_eq]
  split
  · next h =>
    obtain ⟨n, rfl⟩ := Int.eq_ofNat_of_zero_le h
    simp [Scalar.mul, Scalar.ofNat]
  · next h =>
    obtain ⟨n, hn⟩ := Int.eq_ofNat_of_zero_le (a := -exponent) (by omega)
    obtain rfl : exponent = -n := by omega
    simp [Scalar.div, Scalar.ofNat, div_eq_mul_inv]

/-- Steps of the candidates, in units of the smallest one. -/
def steps : List ℚ :=
  [1, 2, 5, 10, 25, 50, 75, 100, 10, 20, 50, 100, 250, 500, 750, 1000]

theorem candidates_eq (exponent : ℤ) :
    (candidates exponent : List ℚ) = steps.map (· * 10 ^ exponent) := by
  have hnext : (10 : ℚ) ^ (exponent + 1) = 10 * 10 ^ exponent := by
    rw [zpow_add_one₀ (by norm_num), mul_comm]
  simp only [candidates, ladder, steps, List.map_cons, List.map_nil, List.cons_append,
    List.nil_append, scaled_eq, hnext, ← mul_assoc]
  norm_num

/-! ## The first candidate that covers a maximum -/

section First

variable {α : Type} [Scalar α] {max chosen : α} {front rest : List α}

theorem firstCovering_append (hfront : ∀ c ∈ front, Scalar.le max c = false)
    (hchosen : Scalar.le max chosen = true) :
    firstCovering max (front ++ chosen :: rest) =
      if hasHeadroom max chosen then chosen
      else (rest.find? fun c => Scalar.lt chosen c).getD chosen := by
  have hdrop : ((front ++ chosen :: rest).dropWhile fun c => !Scalar.le max c) =
      chosen :: rest := by
    rw [List.dropWhile_append_of_pos (by simpa using hfront), List.dropWhile_cons_of_neg]
    simp [hchosen]
  rw [firstCovering, hdrop]

end First

section Steps

variable {unit max : ℚ}

/-- Consecutive round numbers from ten units on, up to the first one past a hundred. -/
def neighbours : List (ℚ × ℚ) :=
  [(10, 25), (25, 50), (50, 75), (75, 100), (100, 250)]

/-- A maximum lies between two numbers if the larger one leaves a tenth of it free and the
smaller one does not. -/
def Between (unit max : ℚ) (pair : ℚ × ℚ) : Prop :=
  9 / 10 * (pair.1 * unit) < max ∧ max ≤ 9 / 10 * (pair.2 * unit)

/-- The first step that covers a maximum is chosen, or the next larger one. -/
theorem firstCovering_steps (front : List ℚ) (below step next : ℚ) (rest : List ℚ)
    (hunit : 0 < unit) (hfront : ∀ s ∈ front, s ≤ below) (hpositive : 0 ≤ below)
    (hbelow : below * unit < max) (hstep : max ≤ step * unit)
    (hnext : rest.find? (step < ·) = some next) (hroom : step ≤ 9 / 10 * next) :
    ∃ pair ∈ [(below, step), (step, next)], Between unit max pair ∧
      firstCovering max ((front ++ step :: rest).map (· * unit)) = pair.2 * unit := by
  have hlt : ((fun c => Scalar.lt (step * unit) c) ∘ (· * unit)) = fun s => decide (step < s) := by
    funext s
    exact decide_eq_decide.mpr (mul_lt_mul_iff_left₀ hunit)
  have hheadroom : hasHeadroom max (step * unit) = decide (max ≤ 9 / 10 * (step * unit)) := by
    simp [hasHeadroom, Scalar.le, Scalar.mul, Scalar.div, Scalar.ofNat, mul_comm]
  have hfirst : firstCovering max ((front ++ step :: rest).map (· * unit)) =
      if max ≤ 9 / 10 * (step * unit) then step * unit else next * unit := by
    rw [List.map_append, List.map_cons, firstCovering_append, hheadroom, List.find?_map, hlt, hnext]
    · simp
    · intro c hc
      obtain ⟨s, hs, rfl⟩ := List.mem_map.mp hc
      have hle : s * unit ≤ below * unit := mul_le_mul_of_nonneg_right (hfront s hs) hunit.le
      simpa [Scalar.le] using hle.trans_lt hbelow
    · simpa [Scalar.le] using hstep
  rw [hfirst]
  by_cases htight : max ≤ 9 / 10 * (step * unit)
  · refine ⟨(below, step), by simp, ⟨?_, htight⟩, if_pos htight⟩
    have hnonneg : 0 ≤ below * unit := mul_nonneg hpositive hunit.le
    change 9 / 10 * (below * unit) < max
    linarith
  · refine ⟨(step, next), by simp, ⟨not_le.mp htight, ?_⟩, if_neg htight⟩
    have hscaled : step * unit ≤ 9 / 10 * next * unit :=
      mul_le_mul_of_nonneg_right hroom hunit.le
    change max ≤ 9 / 10 * (next * unit)
    linarith

/-- For a maximum of at least ten units and less than a hundred, the larger of the two
neighbours it lies between is chosen. -/
theorem exists_neighbours (hunit : 0 < unit) (hlow : 10 * unit ≤ max) (hhigh : max < 100 * unit) :
    ∃ pair ∈ neighbours, Between unit max pair ∧
      firstCovering max (steps.map (· * unit)) = pair.2 * unit := by
  rcases le_or_gt max (10 * unit) with h10 | h10
  · obtain ⟨pair, hpair, hbetween, hfirst⟩ :=
      firstCovering_steps [1, 2, 5] 5 10 25
        [25, 50, 75, 100, 10, 20, 50, 100, 250, 500, 750, 1000] hunit
        (by norm_num) (by norm_num) (by linarith) h10 (by norm_num) (by norm_num)
    refine ⟨pair, ?_, hbetween, hfirst⟩
    obtain rfl | rfl : pair = (5, 10) ∨ pair = (10, 25) := by simpa using hpair
    · -- Ten units leave no room for a maximum of at least ten.
      have htight : max ≤ 9 / 10 * (10 * unit) := hbetween.2
      linarith
    · simp [neighbours]
  rcases le_or_gt max (25 * unit) with h25 | h25
  · obtain ⟨pair, hpair, hchosen⟩ :=
      firstCovering_steps [1, 2, 5, 10] 10 25 50
        [50, 75, 100, 10, 20, 50, 100, 250, 500, 750, 1000] hunit
        (by norm_num) (by norm_num) h10 h25 (by norm_num) (by norm_num)
    have hsub : [(10, 25), (25, 50)] ⊆ neighbours := by simp [neighbours]
    exact ⟨pair, hsub hpair, hchosen⟩
  rcases le_or_gt max (50 * unit) with h50 | h50
  · obtain ⟨pair, hpair, hchosen⟩ :=
      firstCovering_steps [1, 2, 5, 10, 25] 25 50 75
        [75, 100, 10, 20, 50, 100, 250, 500, 750, 1000] hunit
        (by norm_num) (by norm_num) h25 h50 (by norm_num) (by norm_num)
    have hsub : [(25, 50), (50, 75)] ⊆ neighbours := by simp [neighbours]
    exact ⟨pair, hsub hpair, hchosen⟩
  rcases le_or_gt max (75 * unit) with h75 | h75
  · obtain ⟨pair, hpair, hchosen⟩ :=
      firstCovering_steps [1, 2, 5, 10, 25, 50] 50 75 100
        [100, 10, 20, 50, 100, 250, 500, 750, 1000] hunit
        (by norm_num) (by norm_num) h50 h75 (by norm_num) (by norm_num)
    have hsub : [(50, 75), (75, 100)] ⊆ neighbours := by simp [neighbours]
    exact ⟨pair, hsub hpair, hchosen⟩
  · -- The next larger candidate is one of the second decade, past four that repeat.
    obtain ⟨pair, hpair, hchosen⟩ :=
      firstCovering_steps [1, 2, 5, 10, 25, 50, 75] 75 100 250
        [10, 20, 50, 100, 250, 500, 750, 1000] hunit
        (by norm_num) (by norm_num) h75 hhigh.le (by norm_num) (by norm_num)
    have hsub : [(75, 100), (100, 250)] ⊆ neighbours := by simp [neighbours]
    exact ⟨pair, hsub hpair, hchosen⟩

end Steps

/-! ## Round numbers -/

/-- A number is round if it is one, two and a half, five or seven and a half times a power
of ten. -/
def IsRound (c : ℚ) : Prop :=
  ∃ step ∈ [1, 5 / 2, 5, 15 / 2], ∃ k : ℤ, c = step * 10 ^ k

theorem IsRound.ten_mul {c : ℚ} (h : IsRound c) : IsRound (10 * c) := by
  obtain ⟨step, hstep, k, rfl⟩ := h
  refine ⟨step, hstep, k + 1, ?_⟩
  rw [zpow_add_one₀ (by norm_num)]
  ring

theorem isRound_of_mem_neighbours {pair : ℚ × ℚ} (h : pair ∈ neighbours) (e : ℤ) :
    IsRound (pair.2 * 10 ^ e) := by
  have hbase (step : ℚ) (hstep : step ∈ [1, 5 / 2, 5, 15 / 2]) :
      IsRound (10 * (step * 10 ^ e)) :=
    IsRound.ten_mul ⟨step, hstep, e, rfl⟩
  fin_cases h
  · convert hbase (5 / 2) (by simp) using 1
    ring
  · convert hbase 5 (by simp) using 1
    ring
  · convert hbase (15 / 2) (by simp) using 1
    ring
  · convert (hbase 1 (by simp)).ten_mul using 1
    ring
  · convert (hbase (5 / 2) (by simp)).ten_mul using 1
    ring

/-- The round numbers around a power of ten: up to ten times it, the four from there to a
hundred times it, and those from two hundred and fifty times it on. -/
theorem IsRound.cases_of_power {c : ℚ} (h : IsRound c) (e : ℤ) :
    c ≤ 10 * 10 ^ e ∨ (∃ step ∈ [25, 50, 75, 100], c = step * 10 ^ e) ∨ 250 * 10 ^ e ≤ c := by
  obtain ⟨step, hstep, k, rfl⟩ := h
  have hunit : (0 : ℚ) < 10 ^ e := by positivity
  obtain hk | rfl | rfl | hk : k ≤ e ∨ k = e + 1 ∨ k = e + 1 + 1 ∨ e + 1 + 1 + 1 ≤ k := by omega
  · have hpower : (10 : ℚ) ^ k ≤ 10 ^ e := zpow_le_zpow_right₀ (by norm_num) hk
    left
    fin_cases hstep <;> linarith
  · rw [zpow_add_one₀ (by norm_num)]
    fin_cases hstep
    · exact .inl (by linarith)
    · exact .inr (.inl ⟨25, by simp, by ring⟩)
    · exact .inr (.inl ⟨50, by simp, by ring⟩)
    · exact .inr (.inl ⟨75, by simp, by ring⟩)
  · rw [zpow_add_one₀ (by norm_num), zpow_add_one₀ (by norm_num)]
    fin_cases hstep
    · exact .inr (.inl ⟨100, by simp, by ring⟩)
    all_goals exact .inr (.inr (by linarith))
  · have hpower : (10 : ℚ) ^ (e + 1 + 1 + 1) ≤ 10 ^ k := zpow_le_zpow_right₀ (by norm_num) hk
    rw [zpow_add_one₀ (by norm_num), zpow_add_one₀ (by norm_num), zpow_add_one₀ (by norm_num)]
      at hpower
    right
    right
    fin_cases hstep <;> linarith

/-- No round number lies strictly between two neighbours. -/
theorem IsRound.le_of_neighbours {c : ℚ} (h : IsRound c) {pair : ℚ × ℚ}
    (hpair : pair ∈ neighbours) {e : ℤ} (hlt : pair.1 * 10 ^ e < c) : pair.2 * 10 ^ e ≤ c := by
  have hunit : (0 : ℚ) < 10 ^ e := by positivity
  rcases h.cases_of_power e with hc | ⟨step, hstep, rfl⟩ | hc
  · fin_cases hpair <;> linarith
  · have hsteps : pair.1 < step := (mul_lt_mul_iff_left₀ hunit).mp hlt
    apply mul_le_mul_of_nonneg_right _ hunit.le
    fin_cases hpair <;> fin_cases hstep <;> revert hsteps <;> norm_num
  · fin_cases hpair <;> linarith

/-! ## The least round number -/

theorem niceCeiling_eq {max : ℚ} (h : 0 < max) :
    niceCeiling max = firstCovering max (steps.map (· * 10 ^ (Scalar.decade max - 1))) := by
  rw [niceCeiling, candidates_eq]
  simp [Scalar.isFinite, Scalar.le, Scalar.ofNat, h]

theorem decade_bounds {max : ℚ} (h : 0 < max) :
    10 * 10 ^ (Scalar.decade max - 1) ≤ max ∧ max < 100 * 10 ^ (Scalar.decade max - 1) := by
  have hten : (10 : ℚ) ^ Scalar.decade max = 10 * 10 ^ (Scalar.decade max - 1) := by
    rw [← zpow_one_add₀ (by norm_num)]
    congr 1
    omega
  have hlow := zpow_decade_le h
  have hhigh := lt_zpow_decade_succ h
  rw [zpow_add_one₀ (by norm_num)] at hhigh
  constructor <;> linarith

/-- The ceiling is the larger of two neighbours between which the maximum lies. -/
theorem exists_niceCeiling_eq {max : ℚ} (h : 0 < max) :
    ∃ pair ∈ neighbours, ∃ e : ℤ, Between (10 ^ e) max pair ∧
      niceCeiling max = pair.2 * 10 ^ e := by
  obtain ⟨hlow, hhigh⟩ := decade_bounds h
  obtain ⟨pair, hpair, hbetween, hfirst⟩ := exists_neighbours (by positivity) hlow hhigh
  exact ⟨pair, hpair, _, hbetween, (niceCeiling_eq h).trans hfirst⟩

theorem isLeast_niceCeiling {max : ℚ} (h : 0 < max) :
    IsLeast {c | IsRound c ∧ max ≤ 9 / 10 * c} (niceCeiling max) := by
  obtain ⟨pair, hpair, e, ⟨htight, hroom⟩, heq⟩ := exists_niceCeiling_eq h
  rw [heq]
  constructor
  · exact ⟨isRound_of_mem_neighbours hpair e, hroom⟩
  · rintro c ⟨hround, hc⟩
    apply hround.le_of_neighbours hpair
    linarith

theorem niceCeiling_lt {max : ℚ} (h : 0 < max) : niceCeiling max < 3 * max := by
  obtain ⟨pair, hpair, e, ⟨htight, -⟩, heq⟩ := exists_niceCeiling_eq h
  have hunit : (0 : ℚ) < 10 ^ e := by positivity
  rw [heq]
  fin_cases hpair <;> linarith

/-- In exact arithmetic, where the decade of a maximum is the one it lies in, its ceiling is
the least round number of which it leaves a tenth free. A larger maximum has no smaller
ceiling, and the ceiling is less than three times the maximum. -/
theorem niceCeiling_isLeast {max : ℚ} (h : 0 < max) :
    (10 ^ Scalar.decade max ≤ max ∧ max < 10 ^ (Scalar.decade max + 1)) ∧
    IsLeast {c | IsRound c ∧ max ≤ 9 / 10 * c} (niceCeiling max) ∧
    (∀ larger, max ≤ larger → niceCeiling max ≤ niceCeiling larger) ∧
    niceCeiling max < 3 * max := by
  have hleast := isLeast_niceCeiling h
  refine ⟨⟨zpow_decade_le h, lt_zpow_decade_succ h⟩, hleast, ?_, niceCeiling_lt h⟩
  intro larger hle
  obtain ⟨⟨hround, hroom⟩, -⟩ := isLeast_niceCeiling (h.trans_le hle)
  exact hleast.2 ⟨hround, hle.trans hroom⟩

/-- A maximum just above nine tenths of a hundred has its ceiling in the next decade. -/
theorem niceCeiling_isLeast_nextDecade :
    (0 : ℚ) < 95 ∧ (95 : ℚ) ≤ 900 ∧ niceCeiling (95 : ℚ) = 250 ∧
      IsLeast {c | IsRound c ∧ 95 ≤ 9 / 10 * c} (niceCeiling (95 : ℚ)) ∧
      niceCeiling (95 : ℚ) ≤ niceCeiling (900 : ℚ) := by
  have hpos : (0 : ℚ) < 95 := by norm_num
  have hle : (95 : ℚ) ≤ 900 := by norm_num
  obtain ⟨-, hleast, hmono, -⟩ := niceCeiling_isLeast hpos
  exact ⟨hpos, hle, by decide +kernel, hleast, hmono 900 hle⟩

end Dashboard.Scale
