import Dashboard.Proofs.Double.Nearest
import Dashboard.Scale

/-! # Rounded powers of ten

Repeated squaring rounds every product, so a power of ten is off by a factor that grows with
the exponent. That leaves every candidate up to a hundred times the 306th power finite. -/

namespace Dashboard.Scale

open Double (StandsFor growth one_le_growth value)

/-! ## Powers -/

theorem exists_standsFor_step {base product : Float} {b p : ℚ} (hbase : StandsFor base b)
    (hproduct : StandsFor product p) (hb : 1 ≤ b) (hp : 1 ≤ p) (n : ℕ) :
    ∃ v, StandsFor (if n % 2 = 1 then Scalar.mul product base else product) v ∧ 1 ≤ v ∧
      v ≤ p * b ^ (n % 2) * growth ^ (n % 2) := by
  rcases Nat.mod_two_eq_zero_or_one n with heven | hodd
  · rw [heven]
    exact ⟨p, hproduct, hp, by simp⟩
  · rw [hodd, pow_one, pow_one]
    exact Double.exists_standsFor_mul hproduct hbase hp hb

/-- Each of the at most two products for a bit of the exponent adds its rounding. -/
theorem exists_standsFor_powerFrom {base product : Float} {b p : ℚ} (hbase : StandsFor base b)
    (hproduct : StandsFor product p) (hb : 1 ≤ b) (hp : 1 ≤ p) (n : ℕ) :
    ∃ v, StandsFor (powerFrom base product n) v ∧ 1 ≤ v ∧ v ≤ p * b ^ n * growth ^ (2 * n) := by
  have hgrowth := one_le_growth
  have hpos : 0 < growth := zero_lt_one.trans_le one_le_growth
  induction base, product, n using powerFrom.induct generalizing b p with
  | case1 base product n hhalf =>
      obtain ⟨v, hstands, hone, hle⟩ := exists_standsFor_step hbase hproduct hb hp n
      have hbit : n % 2 = n := by omega
      rw [powerFrom, dif_pos hhalf]
      refine ⟨v, hstands, hone, hle.trans ?_⟩
      rw [hbit]
      gcongr
      omega
  | @case2 base product n step hhalf ih =>
      obtain ⟨q, hstep, hq, hqle⟩ := exists_standsFor_step hbase hproduct hb hp n
      obtain ⟨c, hsquare, hc, hcle⟩ := Double.exists_standsFor_mul hbase hbase hb hb
      obtain ⟨v, hstands, hone, hle⟩ := ih hsquare hstep hc hq
      rw [powerFrom, dif_neg hhalf]
      refine ⟨v, hstands, hone, hle.trans ?_⟩
      have hn : n % 2 + 2 * (n / 2) = n := Nat.mod_add_div n 2
      calc q * c ^ (n / 2) * growth ^ (2 * (n / 2))
          ≤ p * b ^ (n % 2) * growth ^ (n % 2) * (b * b * growth) ^ (n / 2) *
              growth ^ (2 * (n / 2)) := by
            gcongr
        _ = p * b ^ (n % 2 + 2 * (n / 2)) * growth ^ (n % 2 + n / 2 + 2 * (n / 2)) := by
            rw [mul_pow, mul_pow]
            ring
        _ ≤ p * b ^ n * growth ^ (2 * n) := by
            rw [hn]
            gcongr
            omega

/-- Steps of the ladder, and the base and the start of the powers, are exact. -/
theorem standsFor_ofNat {n : ℕ} (h : n ∈ ladder) : StandsFor (Scalar.ofNat n) n := by
  have hexact : ∀ step ∈ ladder,
      (Float.ofNat step).isFinite = true ∧ value (Float.ofNat step) = step := by
    decide +kernel
  exact .inl (hexact n h)

theorem exists_standsFor_powerOfTen (n : ℕ) :
    ∃ v, StandsFor (powerOfTen n) v ∧ 1 ≤ v ∧ v ≤ 10 ^ n * growth ^ (2 * n) := by
  obtain ⟨v, hstands, hone, hle⟩ := exists_standsFor_powerFrom
    (standsFor_ofNat (n := 10) (by decide)) (standsFor_ofNat (n := 1) (by decide))
    (by norm_num) (by norm_num) n
  exact ⟨v, hstands, hone, by simpa using hle⟩

/-- The roundings of a thousandth power do not add up to a hundredth. -/
theorem growth_pow_le {n : ℕ} (h : n ≤ 2001) : growth ^ n ≤ 101 / 100 := by
  have hlinear : growth ^ n ≤ 1 + 2 * n / 2 ^ 52 := by
    induction n with
    | zero => simp
    | succ n ih =>
        have hn : (n : ℚ) ≤ 2001 := by exact_mod_cast Nat.le_of_succ_le h
        have hpos : 0 < growth := zero_lt_one.trans_le one_le_growth
        calc growth ^ (n + 1) = growth ^ n * growth := pow_succ _ _
          _ ≤ (1 + 2 * n / 2 ^ 52) * growth := by
            gcongr
            exact ih (Nat.le_of_succ_le h)
          _ ≤ 1 + 2 * (n + 1 : ℕ) / 2 ^ 52 := by
            rw [growth]
            push_cast
            linarith
  have hn : (n : ℚ) ≤ 2001 := by exact_mod_cast h
  linarith

/-! ## Candidates -/

theorem one_le_of_mem_ladder {step : ℕ} (h : step ∈ ladder) : 1 ≤ step ∧ step ≤ 100 := by
  revert step
  decide

theorem exists_standsFor_scaled {step : ℕ} (hstep : step ∈ ladder) {k : ℕ} (hk : k ≤ 1000) :
    ∃ v, StandsFor (scaled step k) v ∧ v ≤ 101 / 100 * (step * 10 ^ k) := by
  have hone : (1 : ℚ) ≤ step := by exact_mod_cast (one_le_of_mem_ladder hstep).1
  obtain ⟨v, hpower, hv, hle⟩ := exists_standsFor_powerOfTen k
  obtain ⟨z, hproduct, -, hz⟩ :=
    Double.exists_standsFor_mul (standsFor_ofNat hstep) hpower hone hv
  have hpos : 0 < growth := zero_lt_one.trans_le one_le_growth
  have hgrowth := growth_pow_le (n := 2 * k + 1) (by omega)
  refine ⟨z, ?_, ?_⟩
  · rw [scaled, if_pos (Int.natCast_nonneg k), Int.toNat_natCast]
    exact hproduct
  · calc z ≤ step * v * growth := hz
      _ ≤ step * (10 ^ k * growth ^ (2 * k)) * growth := by gcongr
      _ = growth ^ (2 * k + 1) * (step * 10 ^ k) := by ring
      _ ≤ 101 / 100 * (step * 10 ^ k) := by gcongr

theorem isFinite_scaled {step : ℕ} (hstep : step ∈ ladder) {exponent : ℤ} (h : exponent ≤ 306) :
    (scaled step exponent : Float).isFinite = true := by
  obtain ⟨hlow, hhigh⟩ := one_le_of_mem_ladder hstep
  have hhigh' : (step : ℚ) ≤ 100 := by exact_mod_cast hhigh
  rcases le_or_gt 0 exponent with hnonneg | hneg
  · obtain ⟨k, rfl⟩ := Int.eq_ofNat_of_zero_le hnonneg
    obtain ⟨v, hstands, hle⟩ := exists_standsFor_scaled hstep (k := k) (by omega)
    refine (hstands.isFinite ?_).1
    calc v ≤ 101 / 100 * (step * 10 ^ k) := hle
      _ ≤ 101 / 100 * (100 * 10 ^ 306) := by
        gcongr
        · norm_num
        · omega
      _ = 101 / 100 * (100 * (10 ^ 102) ^ 3) := by rw [← pow_mul]
      _ < (2 ^ 128) ^ 8 := by norm_num
      _ = 2 ^ 1024 := by rw [← pow_mul]
  · obtain ⟨v, hpower, hv, -⟩ := exists_standsFor_powerOfTen (-exponent).toNat
    have hsmall : (step : ℚ) < 2 ^ 1024 := by
      calc (step : ℚ) ≤ 100 := hhigh'
        _ < 2 ^ 7 := by norm_num
        _ ≤ 2 ^ 1024 := pow_le_pow_right₀ (by norm_num) (by norm_num)
    obtain ⟨hfinite, hvalue⟩ := (standsFor_ofNat hstep).isFinite hsmall
    rw [scaled, if_neg (by omega)]
    refine hpower.isFinite_div hv hfinite ?_
    rw [hvalue]
    positivity

/-- A candidate is at most every double that exceeds its exact value by a hundredth. -/
theorem scaled_le {step : ℕ} (hstep : step ∈ ladder) {k : ℕ} (hk : k ≤ 1000) {x : Float}
    (hx : x.isFinite = true) (h : 101 / 100 * (step * 10 ^ k) ≤ value x) : scaled step k ≤ x := by
  obtain ⟨v, hstands, hle⟩ := exists_standsFor_scaled hstep hk
  have hvalue := hle.trans h
  obtain ⟨hfinite, rfl⟩ := hstands.isFinite (hvalue.trans_lt (Double.value_lt hx))
  exact (Double.le_iff_value_le hfinite hx).mpr hvalue

theorem isFinite_of_mem_candidates {exponent : ℤ} (h : exponent ≤ 305) {c : Float}
    (hc : c ∈ candidates exponent) : c.isFinite = true := by
  rw [candidates, List.mem_append, List.mem_map, List.mem_map] at hc
  obtain ⟨step, hstep, rfl⟩ | ⟨step, hstep, rfl⟩ := hc
  · exact isFinite_scaled hstep (by omega)
  · exact isFinite_scaled hstep (by omega)

end Dashboard.Scale
