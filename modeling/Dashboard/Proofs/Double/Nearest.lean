import Dashboard.Proofs.Double.Rounding

/-! # Rounding to nearest

Products, quotients and whole numbers are computed as if exactly and then rounded: to the
nearest multiple of a unit in the last place, and to the even one of two that are as near.
Rounding keeps the order of numbers and leaves what is rounded already as it is. -/

namespace Dashboard.Double

open Float.Model (UnpackedFloat Format)
open Float.Model.UnpackedFloat

/-! ## Whole numbers -/

/-- The whole number nearest to a number, the even one of two, for numbers from zero on. -/
def nearestWhole (q : ℚ) : ℕ :=
  if q < ⌊q⌋₊ + 1 / 2 then ⌊q⌋₊
  else if q = ⌊q⌋₊ + 1 / 2 then ⌊q⌋₊ + ⌊q⌋₊ % 2
  else ⌊q⌋₊ + 1

theorem nearestWhole_mem_Icc (q : ℚ) : nearestWhole q ∈ Set.Icc ⌊q⌋₊ (⌊q⌋₊ + 1) := by
  rw [Set.mem_Icc, nearestWhole]
  split
  · omega
  · split <;> omega

@[simp] theorem nearestWhole_natCast (n : ℕ) : nearestWhole n = n := by
  rw [nearestWhole, Nat.floor_natCast, if_pos (by norm_num)]

theorem nearestWhole_mono : Monotone nearestWhole := by
  intro q r hle
  rcases (Nat.floor_mono hle).lt_or_eq with hlt | heq
  · calc nearestWhole q ≤ ⌊q⌋₊ + 1 := (nearestWhole_mem_Icc q).2
      _ ≤ ⌊r⌋₊ := hlt
      _ ≤ nearestWhole r := (nearestWhole_mem_Icc r).1
  · rw [nearestWhole, nearestWhole, heq]
    split
    · split
      · exact le_rfl
      · split <;> omega
    · next hq =>
      rw [if_neg fun hr => hq (hle.trans_lt hr)]
      split
      · split <;> omega
      · next hne =>
        -- The first number lies past the middle, and so does the second one.
        have hlt : (⌊r⌋₊ : ℚ) + 1 / 2 < q := lt_of_le_of_ne (not_lt.mp hq) (Ne.symm hne)
        rw [if_neg (hlt.trans_le hle).ne']

/-! ## Rounded numbers -/

/-- Exponent of the unit in the last place of a number. -/
def unitExponent (v : ℚ) : ℤ :=
  max (Int.log 2 v - 52) (-1074)

/-- A number from zero on, rounded to a multiple of its unit in the last place. -/
def rounded (v : ℚ) : ℚ :=
  nearestWhole (v / 2 ^ unitExponent v) * 2 ^ unitExponent v

theorem rounded_nonneg (v : ℚ) : 0 ≤ rounded v := by
  rw [rounded]
  positivity

theorem rounded_of_nonpos {v : ℚ} (h : v ≤ 0) : rounded v = 0 := by
  have hle : v / 2 ^ unitExponent v ≤ (0 : ℕ) := by
    rw [Nat.cast_zero]
    exact div_nonpos_of_nonpos_of_nonneg h (by positivity)
  have hzero : nearestWhole (v / 2 ^ unitExponent v) ≤ 0 :=
    (nearestWhole_mono hle).trans_eq (nearestWhole_natCast 0)
  rw [rounded, Nat.le_zero.mp hzero, Nat.cast_zero, zero_mul]

section Positive

variable {v w : ℚ}

theorem div_unit_lt (v : ℚ) : v / 2 ^ unitExponent v < (2 ^ 53 : ℕ) := by
  have hlt := Int.lt_zpow_succ_log_self (b := 2) (by decide) v
  rw [div_lt_iff₀ (by positivity)]
  calc v < 2 ^ (Int.log 2 v + 1) := mod_cast hlt
    _ ≤ 2 ^ (53 + unitExponent v) := by
        refine zpow_le_zpow_right₀ (by norm_num) ?_
        rw [unitExponent]
        omega
    _ = (2 ^ 53 : ℕ) * 2 ^ unitExponent v := by
        rw [zpow_add₀ (by norm_num)]
        norm_num

theorem nearestWhole_div_unit_le (v : ℚ) : nearestWhole (v / 2 ^ unitExponent v) ≤ 2 ^ 53 :=
  (nearestWhole_mono (div_unit_lt v).le).trans_eq (nearestWhole_natCast _)

/-- The unit in the last place leaves 53 bits, unless it is the least one. -/
theorem le_nearestWhole_div_unit (hv : 0 < v) (hne : unitExponent v ≠ -1074) :
    2 ^ 52 ≤ nearestWhole (v / 2 ^ unitExponent v) := by
  have hle := Int.zpow_log_le_self (b := 2) (by decide) hv
  have hunit : ((2 ^ 52 : ℕ) : ℚ) ≤ v / 2 ^ unitExponent v := by
    rw [le_div_iff₀ (by positivity)]
    calc ((2 ^ 52 : ℕ) : ℚ) * 2 ^ unitExponent v = 2 ^ (52 + unitExponent v) := by
          rw [zpow_add₀ (by norm_num)]
          norm_num
      _ = 2 ^ Int.log 2 v := by
          congr 1
          rw [unitExponent] at *
          omega
      _ ≤ v := mod_cast hle
  exact (nearestWhole_natCast _).symm.trans_le (nearestWhole_mono hunit)

theorem unitExponent_le (hv : 0 < v) (hle : v ≤ w) : unitExponent v ≤ unitExponent w := by
  have hlog := Int.log_mono_right (b := 2) hv hle
  rw [unitExponent, unitExponent]
  omega

theorem rounded_mono : Monotone rounded := by
  intro v w hle
  rcases le_or_gt v 0 with hv | hv
  · rw [rounded_of_nonpos hv]
    exact rounded_nonneg w
  rcases (unitExponent_le hv hle).lt_or_eq with hlt | heq
  · -- From one unit to the next the rounded numbers take up where the smaller ones end.
    have hne : unitExponent w ≠ -1074 := by
      have : -1074 ≤ unitExponent v := le_max_right _ _
      omega
    have hfull := le_nearestWhole_div_unit (hv.trans_le hle) hne
    calc rounded v ≤ (2 ^ 53 : ℕ) * 2 ^ unitExponent v := by
          rw [rounded]
          gcongr
          exact nearestWhole_div_unit_le v
      _ = (2 ^ 52 : ℕ) * 2 ^ (unitExponent v + 1) := by
          rw [zpow_add_one₀ (by norm_num)]
          push_cast
          ring
      _ ≤ (2 ^ 52 : ℕ) * 2 ^ unitExponent w := by
          gcongr
          · norm_num
          · exact hlt
      _ ≤ rounded w := by
          rw [rounded]
          gcongr
  · rw [rounded, rounded, heq]
    gcongr
    exact nearestWhole_mono (by gcongr)

/-- Canonical numbers are rounded already. -/
theorem rounded_of_isCanonical {m : ℕ} {e : ℤ} (h : IsCanonical m e) :
    rounded (m * 2 ^ e) = m * 2 ^ e := by
  rcases Nat.eq_zero_or_pos m with rfl | hm
  · rw [Nat.cast_zero, zero_mul, rounded_of_nonpos le_rfl]
  have hpos : (0 : ℚ) < m * 2 ^ e := by positivity
  have hlt : (m : ℚ) * 2 ^ e < (2 : ℕ) ^ (53 + e) := by
    rw [Nat.cast_ofNat, zpow_add₀ (by norm_num)]
    gcongr
    exact_mod_cast h.lt
  have hlog := (Int.lt_zpow_iff_log_lt (by decide) hpos).mp hlt
  have hunit : unitExponent (m * 2 ^ e) = e := by
    have hle := h.le_exponent
    rw [unitExponent]
    rcases h.full_or_least with hfull | hleast
    · have hge : ((2 : ℕ) : ℚ) ^ (52 + e) ≤ m * 2 ^ e := by
        rw [Nat.cast_ofNat, zpow_add₀ (by norm_num)]
        gcongr
        exact_mod_cast hfull
      have hlog' := (Int.zpow_le_iff_le_log (by decide) hpos).mp hge
      omega
    · omega
  rw [rounded, hunit, mul_div_cancel_right₀ _ (by positivity), nearestWhole_natCast]

/-- A rounded number is canonical, also where it is rounded up to the next power of two. -/
theorem exists_isCanonical_rounded (v : ℚ) :
    ∃ m e, IsCanonical m e ∧ rounded v = m * 2 ^ e := by
  rcases le_or_gt v 0 with hv | hv
  · exact ⟨0, -1074, ⟨by norm_num, le_rfl, .inr rfl⟩, by simp [rounded_of_nonpos hv]⟩
  have hleast : -1074 ≤ unitExponent v := le_max_right _ _
  rcases (nearestWhole_div_unit_le v).lt_or_eq with hlt | heq
  · refine ⟨_, _, ⟨hlt, hleast, ?_⟩, rfl⟩
    by_cases hne : unitExponent v = -1074
    · exact .inr hne
    · exact .inl (le_nearestWhole_div_unit hv hne)
  · refine ⟨2 ^ 52, unitExponent v + 1, ⟨by norm_num, by omega, .inl le_rfl⟩, ?_⟩
    rw [rounded, heq, zpow_add_one₀ (by norm_num)]
    push_cast
    ring

/-- So are the values of doubles. -/
theorem rounded_value {x : Float} (hx : x.isFinite = true) (hnonneg : 0 ≤ value x) :
    rounded (value x) = value x := by
  rcases hnonneg.eq_or_lt with hzero | hpos
  · rw [← hzero, rounded_of_nonpos le_rfl]
  obtain ⟨m, e, -, -, hcanonical, hvalue⟩ := unpack_of_value_pos hx hpos
  rw [hvalue, rounded_of_isCanonical hcanonical]

theorem rounded_rounded (v : ℚ) : rounded (rounded v) = rounded v := by
  obtain ⟨m, e, hcanonical, hvalue⟩ := exists_isCanonical_rounded v
  rw [hvalue, rounded_of_isCanonical hcanonical]

theorem rounded_two_zpow {z : ℤ} (hz : -1022 ≤ z) : rounded (2 ^ z) = 2 ^ z := by
  have hpower : (2 : ℚ) ^ z = (2 ^ 52 : ℕ) * 2 ^ (z - 52) := by
    rw [zpow_sub₀ (by norm_num)]
    push_cast
    field_simp
  rw [hpower]
  exact rounded_of_isCanonical ⟨by norm_num, by omega, .inl le_rfl⟩

theorem rounded_two_pow (n : ℕ) : rounded (2 ^ n) = 2 ^ n := by
  have hpower := rounded_two_zpow (z := n) (by omega)
  rwa [zpow_natCast] at hpower

theorem one_le_rounded (hv : 1 ≤ v) : 1 ≤ rounded v :=
  (rounded_two_pow 0).symm.trans_le (rounded_mono hv)

/-- Factor by which rounding raises a number from one on at most. -/
def growth : ℚ := 1 + 1 / 2 ^ 52

theorem one_le_growth : 1 ≤ growth := by
  rw [growth]
  norm_num

/-- A number is rounded up by less than its unit in the last place. -/
theorem rounded_le_add_unit (hv : 0 ≤ v) : rounded v ≤ v + 2 ^ unitExponent v := by
  have hunits : 0 ≤ v / 2 ^ unitExponent v := by positivity
  calc rounded v ≤ (⌊v / 2 ^ unitExponent v⌋₊ + 1 : ℕ) * 2 ^ unitExponent v := by
        rw [rounded]
        gcongr
        exact (nearestWhole_mem_Icc _).2
    _ ≤ (v / 2 ^ unitExponent v + 1) * 2 ^ unitExponent v := by
        push_cast
        gcongr
        exact Nat.floor_le hunits
    _ = v + 2 ^ unitExponent v := by
        rw [add_mul, one_mul, div_mul_cancel₀ _ (by positivity)]

theorem rounded_le_mul_growth (hv : 1 ≤ v) : rounded v ≤ v * growth := by
  have hpos : 0 < v := zero_lt_one.trans_le hv
  have hlog : 0 ≤ Int.log 2 v := (Int.zpow_le_iff_le_log (by decide) hpos).mp (by simpa using hv)
  have hunit : unitExponent v = Int.log 2 v - 52 := by
    rw [unitExponent]
    omega
  have hle : (2 : ℚ) ^ unitExponent v ≤ v / 2 ^ 52 := by
    rw [hunit, zpow_sub₀ (by norm_num)]
    have hfirst := Int.zpow_log_le_self (b := 2) (by decide) hpos
    gcongr
    · exact_mod_cast hfirst
    · exact le_rfl
  have hadd := rounded_le_add_unit hpos.le
  rw [growth]
  linarith

end Positive

/-! ## Extended mantissas -/

/-- An extended mantissa gives a number up to the next half: its whole part, whether the half
after that is passed, and whether anything is left then. -/
def Describes (em : ExtendedMantissa) (q : ℚ) : Prop :=
  ∃ rest ∈ Set.Ico (0 : ℚ) (1 / 2), (em.stickyBit = true ↔ 0 < rest) ∧
    q = em.mantissa + (if em.roundBit then 1 / 2 else 0) + rest

namespace Describes

variable {em : ExtendedMantissa} {q : ℚ}

theorem mem_Ico (h : Describes em q) : q ∈ Set.Ico (em.mantissa : ℚ) (em.mantissa + 1) := by
  obtain ⟨rest, ⟨hnonneg, hlt⟩, -, hq⟩ := h
  rw [hq]
  split <;> constructor <;> linarith

theorem roundedMantissa_eq (h : Describes em q) : em.roundedMantissa = nearestWhole q := by
  have hmem := h.mem_Ico
  have hfloor : ⌊q⌋₊ = em.mantissa :=
    (Nat.floor_eq_iff (em.mantissa.cast_nonneg.trans hmem.1)).mpr hmem
  obtain ⟨rest, ⟨hnonneg, hlt⟩, hsticky, hq⟩ := h
  rw [nearestWhole, hfloor]
  obtain ⟨m, round, sticky⟩ := em
  cases round with
  | false =>
      have hbefore : q < m + 1 / 2 := by
        simp only [Bool.false_eq_true, if_false] at hq
        linarith
      rw [if_pos hbefore]
      cases sticky <;> rfl
  | true =>
      simp only [if_true] at hq
      have hnot : ¬ q < m + 1 / 2 := by linarith
      rw [if_neg hnot]
      cases sticky with
      | false =>
          have hrest : ¬ 0 < rest := fun hpos => Bool.false_ne_true (hsticky.mpr hpos)
          rw [if_pos (by linarith)]
          rfl
      | true =>
          have hrest : 0 < rest := hsticky.mp rfl
          rw [if_neg (by linarith)]
          rfl

theorem shiftRightOne (h : Describes em q) : Describes em.shiftRightOne (q / 2) := by
  obtain ⟨rest, ⟨hnonneg, hlt⟩, hsticky, hq⟩ := h
  obtain ⟨m, round, sticky⟩ := em
  have hhalf : ((m / 2 : ℕ) : ℚ) + (if m % 2 != 0 then 1 / 2 else 0) = m / 2 := by
    have hparts : (m : ℚ) = 2 * (m / 2 : ℕ) + (m % 2 : ℕ) := by
      exact_mod_cast (Nat.div_add_mod m 2).symm
    rcases Nat.mod_two_eq_zero_or_one m with hbit | hbit <;> rw [hbit] at hparts ⊢ <;>
      norm_num at hparts ⊢ <;> linarith
  -- A half that was passed is a quarter now, and something is left.
  refine ⟨(if round then 1 / 4 else 0) + rest / 2, ?_, ?_, ?_⟩
  · cases round <;> constructor <;> norm_num <;> linarith
  · simp only [ExtendedMantissa.shiftRightOne, Bool.or_eq_true]
    cases round with
    | false => simp [hsticky]
    | true =>
        simp only [true_or, if_true, true_iff]
        linarith
  · change q / 2 = ((m / 2 : ℕ) : ℚ) + (if m % 2 != 0 then 1 / 2 else 0) + _
    rw [hhalf, hq]
    cases round <;> norm_num <;> ring

theorem shiftRight (h : Describes em q) (k : ℕ) : Describes (em >>> k) (q / 2 ^ k) := by
  induction k with
  | zero =>
      rw [pow_zero, div_one]
      exact h
  | succ k ih =>
      have hnext := ih.shiftRightOne
      rwa [div_div, ← pow_succ] at hnext

theorem of_exact (m : ℕ) : Describes (.ofMantissaAndAccuracy m .exact) m :=
  ⟨0, by norm_num, by simp [ExtendedMantissa.ofMantissaAndAccuracy], by
    simp [ExtendedMantissa.ofMantissaAndAccuracy]⟩

theorem of_fraction (m : ℕ) {n : ℕ} (hn : 0 < n) :
    Describes (.ofMantissaAndAccuracy (m / n) (accuracyOfFraction (m % n) n)) (m / n) := by
  have hn' : (0 : ℚ) < n := by exact_mod_cast hn
  have hparts : (m : ℚ) / n = (m / n : ℕ) + ((m % n : ℕ) : ℚ) / n := by
    rw [div_eq_iff hn'.ne', add_mul, div_mul_cancel₀ _ hn'.ne']
    exact_mod_cast (Nat.div_add_mod' m n).symm
  have hlt : ((m % n : ℕ) : ℚ) / n < 1 := by
    rw [div_lt_one hn']
    exact_mod_cast Nat.mod_lt m hn
  rw [accuracyOfFraction]
  split
  · next hzero =>
    rw [hparts, hzero, Nat.cast_zero, zero_div, add_zero]
    exact of_exact _
  · next hnonzero =>
    have hpos : (0 : ℚ) < (m % n : ℕ) / n :=
      div_pos (by exact_mod_cast Nat.pos_of_ne_zero hnonzero) hn'
    rcases lt_trichotomy (2 * (m % n)) n with hless | hequal | hgreater
    · have hhalf : ((m % n : ℕ) : ℚ) / n < 1 / 2 := by
        rw [div_lt_div_iff₀ hn' (by norm_num), one_mul, mul_comm]
        exact_mod_cast hless
      rw [compare_lt_iff_lt.mpr hless]
      exact ⟨_, ⟨hpos.le, hhalf⟩, iff_of_true rfl hpos, by
        simp [ExtendedMantissa.ofMantissaAndAccuracy, hparts]⟩
    · have hhalf : ((m % n : ℕ) : ℚ) / n = 1 / 2 := by
        rw [div_eq_div_iff hn'.ne' (by norm_num), one_mul, mul_comm]
        exact_mod_cast hequal
      rw [compare_eq_iff_eq.mpr hequal]
      exact ⟨0, by norm_num, by simp [ExtendedMantissa.ofMantissaAndAccuracy], by
        simp [ExtendedMantissa.ofMantissaAndAccuracy, hparts, hhalf]⟩
    · have hhalf : 1 / 2 < ((m % n : ℕ) : ℚ) / n := by
        rw [div_lt_div_iff₀ (by norm_num) hn', one_mul, mul_comm]
        exact_mod_cast hgreater
      rw [compare_gt_iff_gt.mpr hgreater]
      refine ⟨(m % n : ℕ) / n - 1 / 2, ⟨by linarith, by linarith⟩,
        iff_of_true rfl (by linarith), ?_⟩
      simp only [ExtendedMantissa.ofMantissaAndAccuracy, hparts, if_true]
      ring

end Describes

/-! ## Rounded results -/

section Rounded

variable {m : ℕ} {e : ℤ} {a : Accuracy} {q : ℚ}

theorem mem_Ico_of_describes (h : Describes (.ofMantissaAndAccuracy m a) q) :
    q ∈ Set.Ico (m : ℚ) (m + 1) := by
  have hmantissa : (ExtendedMantissa.ofMantissaAndAccuracy m a).mantissa = m := by
    cases a with
    | exact => rfl
    | inexact order => cases order <;> rfl
  have hmem := h.mem_Ico
  rwa [hmantissa] at hmem

/-- The unit in the last place depends on the number alone. -/
theorem roundedExponent_eq (h : Describes (.ofMantissaAndAccuracy m a) q) (hq : 0 < q)
    (hle : e ≤ roundedExponent m e) : roundedExponent m e = unitExponent (q * 2 ^ e) := by
  obtain ⟨hlow, hhigh⟩ := mem_Ico_of_describes h
  have hpos : 0 < q * 2 ^ e := by positivity
  rw [roundedExponent] at *
  rw [unitExponent]
  rcases Nat.eq_zero_or_pos m with rfl | hm
  · -- Without a whole part the number lies below the least unit.
    rw [Nat.log2_zero] at *
    have hlt : q * 2 ^ e < (2 : ℕ) ^ e := by
      rw [Nat.cast_ofNat]
      exact mul_lt_of_lt_one_left (by positivity) (by simpa using hhigh)
    have hlog := (Int.lt_zpow_iff_log_lt (by decide) hpos).mp hlt
    omega
  · have hge : ((2 : ℕ) : ℚ) ^ ((m.log2 : ℤ) + e) ≤ q * 2 ^ e := by
      rw [Nat.cast_ofNat]
      exact (zpow_le_mul_zpow hm e).trans (by gcongr)
    have hlt : q * 2 ^ e < (2 : ℕ) ^ ((m.log2 : ℤ) + e + 1) := by
      calc q * 2 ^ e < (m + 1 : ℕ) * 2 ^ e := by
            gcongr
            exact_mod_cast hhigh
        _ ≤ (2 ^ (m.log2 + 1) : ℕ) * 2 ^ e := by
            gcongr
            exact Nat.lt_log2_self
        _ = (2 : ℕ) ^ ((m.log2 : ℤ) + e + 1) := by
            rw [add_right_comm, zpow_add₀ (by norm_num)]
            push_cast
            rfl
    have hlog := (Int.zpow_le_iff_le_log (by decide) hpos).mp hge
    have hlog' := (Int.lt_zpow_iff_log_lt (by decide) hpos).mp hlt
    omega

theorem roundedUnits_eq (h : Describes (.ofMantissaAndAccuracy m a) q)
    (hle : e ≤ roundedExponent m e) :
    roundedUnits m e a = nearestWhole (q * 2 ^ e / 2 ^ roundedExponent m e) := by
  have hshift : (shiftToTargetExponent .binary64 m e a).1 =
      ExtendedMantissa.ofMantissaAndAccuracy m a >>> (roundedExponent m e - e).toNat := by
    rw [shiftToTargetExponent, targetExponent_eq]
    rfl
  have hunits : q / 2 ^ (roundedExponent m e - e).toNat =
      q * 2 ^ e / 2 ^ roundedExponent m e := by
    have hsplit : roundedExponent m e = ((roundedExponent m e - e).toNat : ℤ) + e := by omega
    conv_rhs => rw [hsplit, zpow_add₀ (by norm_num), zpow_natCast]
    rw [mul_div_mul_right _ _ (by positivity)]
  rw [roundedUnits, hshift, (h.shiftRight _).roundedMantissa_eq, hunits]

/-- What is computed with an accuracy stands for the rounded number. -/
theorem standsFor_rounded (h : Describes (.ofMantissaAndAccuracy m a) q) (hq : 0 < q)
    (hle : e ≤ roundedExponent m e) :
    StandsFor ⟨Float.Model.pack (roundWithAccuracy .binary64 .positive m e a)⟩
      (rounded (q * 2 ^ e)) := by
  have hpack := standsFor_pack a hle
  rwa [roundedUnits_eq h hle, roundedExponent_eq h hq hle, ← rounded] at hpack

end Rounded

section Operations

variable {x y : Float}

theorem standsFor_mul (hx : x.isFinite = true) (hy : y.isFinite = true) (hxpos : 0 < value x)
    (hypos : 0 < value y) : StandsFor (x * y) (rounded (value x * value y)) := by
  obtain ⟨m, e, hm, hxu, hxcanonical, hxvalue⟩ := unpack_of_value_pos hx hxpos
  obtain ⟨n, f, hn, hyu, hycanonical, hyvalue⟩ := unpack_of_value_pos hy hypos
  have hproduct : value x * value y = (m * n : ℕ) * 2 ^ (e + f) := by
    rw [hxvalue, hyvalue, zpow_add₀ (by norm_num)]
    push_cast
    ring
  have hle : e + f ≤ roundedExponent (m * n) (e + f) := by
    rw [roundedExponent]
    by_cases hfull : 2 ^ 52 ≤ m * n
    · have hlog : 52 ≤ (m * n).log2 := (Nat.le_log2 (Nat.mul_pos hm hn).ne').mpr hfull
      omega
    · -- Both exponents are the least one, which is far below that of a double.
      have hxleast := hxcanonical.full_or_least.resolve_left fun h =>
        hfull (h.trans (Nat.le_mul_of_pos_right m hn))
      have hyleast := hycanonical.full_or_least.resolve_left fun h =>
        hfull (h.trans (Nat.le_mul_of_pos_left n hm))
      omega
  rw [mul_eq, hxu, hyu, hproduct]
  exact standsFor_rounded (.of_exact (m * n)) (by positivity) hle

theorem standsFor_div (hx : x.isFinite = true) (hy : y.isFinite = true) (hxpos : 0 < value x)
    (hypos : 0 < value y) : StandsFor (x / y) (rounded (value x / value y)) := by
  obtain ⟨m, e, hm, hxu, -, hxvalue⟩ := unpack_of_value_pos hx hxpos
  obtain ⟨n, f, hn, hyu, -, hyvalue⟩ := unpack_of_value_pos hy hypos
  have hn' : (0 : ℚ) < n := by exact_mod_cast hn
  rw [div_eq, hxu, hyu, UnpackedFloat.div, divCore_eq, hxvalue, hyvalue, div_eq_mul_zpow m hn]
  exact standsFor_rounded (.of_fraction _ hn) (by positivity) (quotientExponent_le hm hn e f)

/-- Dividing by a double from one on does not lead out of the doubles. -/
theorem isFinite_div_of_one_le (hx : x.isFinite = true) (hy : y.isFinite = true)
    (hxpos : 0 < value x) (hone : 1 ≤ value y) :
    (x / y).isFinite = true ∧ value (x / y) = rounded (value x / value y) := by
  refine (standsFor_div hx hy hxpos (zero_lt_one.trans_le hone)).isFinite ?_
  calc rounded (value x / value y) ≤ rounded (value x) :=
        rounded_mono (div_le_self hxpos.le hone)
    _ = value x := rounded_value hx hxpos.le
    _ < 2 ^ 1024 := value_lt hx

theorem unpack_of_value_eq_zero (hx : x.isFinite = true) (hzero : value x = 0) :
    ∃ s, x.toModel.unpack = .zero s := by
  rcases unpack_cases hx with hu | ⟨s, m, e, hm, hu, -, -⟩
  · exact hu
  have hne : (m : ℚ) * 2 ^ e ≠ 0 := by positivity
  rw [value, hu] at hzero
  cases s with
  | positive => exact absurd hzero hne
  | negative => exact absurd (neg_eq_zero.mp hzero) hne

/-- Whatever a double from zero on stands for, its product with a double from one on is
rounded once more. -/
theorem StandsFor.mul {v : ℚ} (h : StandsFor x v) (hv : 0 ≤ v) (hy : y.isFinite = true)
    (hone : 1 ≤ value y) : StandsFor (x * y) (rounded (v * value y)) := by
  have hypos : 0 < value y := zero_lt_one.trans_le hone
  rcases h with ⟨hx, rfl⟩ | ⟨hlarge, rfl⟩
  · rcases hv.eq_or_lt with hzero | hpos
    · obtain ⟨s, hxu⟩ := unpack_of_value_eq_zero hx hzero.symm
      obtain ⟨n, f, hn, hyu, -, -⟩ := unpack_of_value_pos hy hypos
      have hunpack : (x * y).toModel.unpack = .zero (s * .positive) := by
        rw [mul_eq, hxu, hyu]
        exact unpack_pack_zero _
      left
      rw [isFinite_of_unpack_zero hunpack, ← hzero, zero_mul, rounded_of_nonpos le_rfl, value,
        hunpack]
      exact ⟨rfl, rfl⟩
    · exact standsFor_mul hx hy hpos hypos
  · obtain ⟨n, f, hn, hyu, -, -⟩ := unpack_of_value_pos hy hypos
    refine .inr ⟨?_, mul_eq_infinity (by rw [hyu, unpack_infinity]; rfl)⟩
    rw [← rounded_two_pow]
    exact rounded_mono (hlarge.trans (le_mul_of_one_le_right hv hone))

/-- Products of numbers from one on are rounded, also where they pass all doubles. -/
theorem StandsFor.mul_of_one_le {v w : ℚ} (hx : StandsFor x v) (hy : StandsFor y w) (hv : 1 ≤ v)
    (hw : 1 ≤ w) : StandsFor (x * y) (rounded (v * w)) := by
  rcases hy with ⟨hyfinite, rfl⟩ | ⟨hylarge, rfl⟩
  · exact hx.mul (zero_le_one.trans hv) hyfinite hw
  refine .inr ⟨?_, mul_eq_infinity ?_⟩
  · rw [← rounded_two_pow]
    exact rounded_mono (hylarge.trans (le_mul_of_one_le_left (by positivity) hv))
  · rcases hx with ⟨hxfinite, rfl⟩ | ⟨-, rfl⟩
    · obtain ⟨m, e, hm, hxu, -⟩ := unpack_of_value_pos hxfinite (zero_lt_one.trans_le hv)
      rw [hxu, unpack_infinity]
      rfl
    · rw [unpack_infinity]
      rfl

/-- Such products grow by at most the relative error. -/
theorem exists_standsFor_mul {v w : ℚ} (hx : StandsFor x v) (hy : StandsFor y w) (hv : 1 ≤ v)
    (hw : 1 ≤ w) : ∃ z, StandsFor (x * y) z ∧ 1 ≤ z ∧ z ≤ v * w * growth := by
  have hone : 1 ≤ v * w := one_le_mul_of_one_le_of_one_le hv hw
  exact ⟨_, hx.mul_of_one_le hy hv hw, one_le_rounded hone, rounded_le_mul_growth hone⟩

/-- Dividing a positive double by what stands for a number from one on stays finite. -/
theorem StandsFor.isFinite_div {w : ℚ} (hy : StandsFor y w) (hw : 1 ≤ w) (hx : x.isFinite = true)
    (hxpos : 0 < value x) : (x / y).isFinite = true := by
  rcases hy with ⟨hyfinite, rfl⟩ | ⟨-, rfl⟩
  · exact (isFinite_div_of_one_le hx hyfinite hxpos hw).1
  · obtain ⟨m, e, hm, hxu, -⟩ := unpack_of_value_pos hx hxpos
    have hzero : UnpackedFloat.div .binary64 (.finite .positive m e hm) (.infinity .positive) =
        .zero .positive := rfl
    rw [div_eq x, hxu, unpack_infinity, hzero]
    rfl

end Operations

end Dashboard.Double
