import Dashboard.Proofs.Double.Whole
import Dashboard.Proofs.Graph.Visibility

/-! # Heights of bars

A value is drawn as a share of the dots, cut to whole dots, kept below the top and raised to
one dot. Every step keeps the order of values, exactly computed or rounded: all that matters
about rounding is that it keeps order and leaves one and whatever is rounded as it is. -/

namespace Dashboard.Graph

/-! ## Rounded shares -/

/-- Rounding that keeps order, what is rounded already, and one. -/
structure IsRounding (round : ℚ → ℚ) : Prop where
  mono : Monotone round
  round_round : ∀ q, round (round q) = round q
  one : round 1 = 1

theorem isRounding_id : IsRounding id :=
  ⟨monotone_id, fun _ => rfl, rfl⟩

theorem isRounding_rounded : IsRounding Double.rounded :=
  ⟨Double.rounded_mono, Double.rounded_rounded, by simpa using Double.rounded_two_pow 0⟩

section Rounded

variable (round : ℚ → ℚ) (dotRows : ℕ)

/-- A share of the dots, rounded after each operation. -/
def scaledShare (share : ℚ) : ℚ :=
  round (round share * round dotRows)

/-- Dots of a share: whole ones, not more than there are, and at least one. -/
def shareHeight (share : ℚ) : ℕ :=
  max 1 (if round dotRows ≤ scaledShare round dotRows share then dotRows
    else ⌊scaledShare round dotRows share⌋₊)

variable {round dotRows} (h : IsRounding round) (hrows : 0 < dotRows)

include h hrows

theorem one_le_round : 1 ≤ round dotRows := by
  rw [← h.one]
  exact h.mono (by exact_mod_cast hrows)

theorem scaledShare_mono : Monotone (scaledShare round dotRows) := by
  intro p q hle
  have hpos : 0 ≤ round dotRows := zero_le_one.trans (one_le_round h hrows)
  exact h.mono (mul_le_mul_of_nonneg_right (h.mono hle) hpos)

theorem round_le_scaledShare {share : ℚ} (hshare : 1 ≤ share) :
    round dotRows ≤ scaledShare round dotRows share := by
  have hpos : 0 ≤ round dotRows := zero_le_one.trans (one_le_round h hrows)
  have hround : 1 ≤ round share := h.one.symm.trans_le (h.mono hshare)
  calc round dotRows = round (round dotRows) := (h.round_round _).symm
    _ ≤ scaledShare round dotRows share := h.mono (le_mul_of_one_le_left hpos hround)

omit hrows in
/-- A share below the top has fewer whole dots than there are. -/
theorem floor_scaledShare_le {share : ℚ}
    (hbelow : ¬ round dotRows ≤ scaledShare round dotRows share) :
    ⌊scaledShare round dotRows share⌋₊ ≤ dotRows := by
  have hlt : scaledShare round dotRows share < dotRows := by
    by_contra hge
    apply hbelow
    calc round dotRows ≤ round (scaledShare round dotRows share) := h.mono (not_lt.mp hge)
      _ = scaledShare round dotRows share := h.round_round _
  exact Nat.floor_le_of_le hlt.le

theorem shareHeight_le (share : ℚ) : shareHeight round dotRows share ≤ dotRows := by
  rw [shareHeight]
  split
  · exact max_le hrows le_rfl
  · next hbelow => exact max_le hrows (floor_scaledShare_le h hbelow)

theorem shareHeight_eq {share : ℚ} (hshare : 1 ≤ share) :
    shareHeight round dotRows share = dotRows := by
  rw [shareHeight, if_pos (round_le_scaledShare h hrows hshare), max_eq_right hrows]

theorem shareHeight_mono : Monotone (shareHeight round dotRows) := by
  intro p q hle
  have hscaled := scaledShare_mono h hrows hle
  by_cases hq : round dotRows ≤ scaledShare round dotRows q
  · calc shareHeight round dotRows p ≤ dotRows := shareHeight_le h hrows p
      _ = shareHeight round dotRows q := by
        rw [shareHeight, if_pos hq, max_eq_right hrows]
  · have hp : ¬ round dotRows ≤ scaledShare round dotRows p := fun hp => hq (hp.trans hscaled)
    rw [shareHeight, shareHeight, if_neg hp, if_neg hq]
    exact max_le_max_left 1 (Nat.floor_mono hscaled)

end Rounded

/-! ## Laws of heights -/

section Laws

variable {α : Type} [Scalar α]

/-- What a ceiling has to be. -/
def IsPositive (x : α) : Prop :=
  Scalar.isFinite x = true ∧ Scalar.lt (Scalar.ofNat 0) x = true

variable (α) in
/-- What heights are, and that they follow the order of values and ceilings. -/
structure HeightLaws (dotRows : ℕ) : Prop where
  eq_zero_iff : ∀ v c : α, dotHeight v c dotRows = 0 ↔
    Scalar.isFinite v = false ∨ Scalar.le v (Scalar.ofNat 0) = true ∨
      Scalar.le c (Scalar.ofNat 0) = true
  mem_Icc : ∀ v c : α, dotHeight v c dotRows ≠ 0 → dotHeight v c dotRows ∈ Set.Icc 1 dotRows
  mono : ∀ v w c : α, IsPositive c → Scalar.isFinite v = true → Scalar.isFinite w = true →
    Scalar.le v w = true → dotHeight v c dotRows ≤ dotHeight w c dotRows
  eq_dotRows : ∀ v c : α, IsPositive c → Scalar.isFinite v = true → Scalar.le c v = true →
    dotHeight v c dotRows = dotRows
  anti : ∀ v c d : α, IsPositive c → IsPositive d → Scalar.le c d = true →
    dotHeight v d dotRows ≤ dotHeight v c dotRows

/-- A value as a number of dots, before it is cut. -/
def scaledValue (value ceiling : α) (dotRows : ℕ) : α :=
  Scalar.mul (Scalar.div value ceiling) (Scalar.ofNat dotRows)

/-- Scalars that stand for exact values and scale them with rounding. -/
structure Computes (value : α → ℚ) (round : ℚ → ℚ) (dotRows : ℕ) : Prop where
  isFinite_zero : Scalar.isFinite (Scalar.ofNat 0 : α) = true
  value_zero : value (Scalar.ofNat 0) = 0
  le_iff : ∀ x y : α, Scalar.isFinite x = true → Scalar.isFinite y = true →
    (Scalar.le x y = true ↔ value x ≤ value y)
  lt_iff : ∀ x y : α, Scalar.isFinite x = true → Scalar.isFinite y = true →
    (Scalar.lt x y = true ↔ value x < value y)
  whole_le : ∀ x : α, Scalar.le (Scalar.ofNat dotRows) x = false → Scalar.whole x ≤ dotRows
  le_scaledValue_iff : ∀ v c : α, Scalar.isFinite v = true → Scalar.isFinite c = true →
    0 < value v → 0 < value c →
      (Scalar.le (Scalar.ofNat dotRows) (scaledValue v c dotRows) = true ↔
        round dotRows ≤ scaledShare round dotRows (value v / value c))
  whole_scaledValue : ∀ v c : α, Scalar.isFinite v = true → Scalar.isFinite c = true →
    0 < value v → 0 < value c →
      scaledShare round dotRows (value v / value c) < round dotRows →
        Scalar.whole (scaledValue v c dotRows) =
          ⌊scaledShare round dotRows (value v / value c)⌋₊

namespace Computes

variable {value : α → ℚ} {round : ℚ → ℚ} {dotRows : ℕ} (hc : Computes value round dotRows)

include hc

theorem value_pos {x : α} (h : IsPositive x) : 0 < value x := by
  have hlt := (hc.lt_iff _ _ hc.isFinite_zero h.1).mp h.2
  rwa [hc.value_zero] at hlt

theorem dotHeight_eq_zero {v : α} (hv : Scalar.isFinite v = true) (hle : value v ≤ 0) (c : α) :
    dotHeight v c dotRows = 0 := by
  refine (dotHeight_eq_zero_iff v c dotRows).mpr (.inr (.inl ?_))
  rwa [hc.le_iff _ _ hv hc.isFinite_zero, hc.value_zero]

theorem le_zero_eq_false {x : α} (hx : Scalar.isFinite x = true) (hpos : 0 < value x) :
    Scalar.le x (Scalar.ofNat 0) = false := by
  rw [Bool.eq_false_iff, ne_eq, hc.le_iff _ _ hx hc.isFinite_zero, hc.value_zero]
  exact hpos.not_ge

theorem dotHeight_le (hrows : 0 < dotRows) (v c : α) : dotHeight v c dotRows ≤ dotRows := by
  rw [dotHeight]
  split
  · exact Nat.zero_le _
  · refine max_le hrows ?_
    split
    · exact le_rfl
    · next h => exact hc.whole_le _ (Bool.eq_false_iff.mpr h)

theorem dotHeight_eq {v c : α} (hv : Scalar.isFinite v = true) (hcfinite : Scalar.isFinite c = true)
    (hvpos : 0 < value v) (hcpos : 0 < value c) :
    dotHeight v c dotRows = shareHeight round dotRows (value v / value c) := by
  have htop := hc.le_scaledValue_iff v c hv hcfinite hvpos hcpos
  rw [dotHeight, hv, hc.le_zero_eq_false hv hvpos, hc.le_zero_eq_false hcfinite hcpos, shareHeight]
  change max 1 (if Scalar.le (Scalar.ofNat dotRows) (scaledValue v c dotRows) = true then dotRows
    else Scalar.whole (scaledValue v c dotRows)) = _
  by_cases hfull : round dotRows ≤ scaledShare round dotRows (value v / value c)
  · rw [if_pos hfull, if_pos (htop.mpr hfull)]
  · rw [if_neg hfull, if_neg (fun h => hfull (htop.mp h)),
      hc.whole_scaledValue v c hv hcfinite hvpos hcpos (not_le.mp hfull)]

theorem heightLaws (hround : IsRounding round) (hrows : 0 < dotRows) : HeightLaws α dotRows where
  eq_zero_iff v c := dotHeight_eq_zero_iff v c dotRows
  mem_Icc v c h := ⟨Nat.one_le_iff_ne_zero.mpr h, hc.dotHeight_le hrows v c⟩
  mono v w c hpos hv hw hle := by
    have hcpos := hc.value_pos hpos
    have hvalue := (hc.le_iff v w hv hw).mp hle
    rcases le_or_gt (value v) 0 with hnone | hvpos
    · rw [hc.dotHeight_eq_zero hv hnone]
      exact Nat.zero_le _
    · rw [hc.dotHeight_eq hv hpos.1 hvpos hcpos,
        hc.dotHeight_eq hw hpos.1 (hvpos.trans_le hvalue) hcpos]
      exact shareHeight_mono hround hrows (by gcongr)
  eq_dotRows v c hpos hv hle := by
    have hcpos := hc.value_pos hpos
    have hvalue := (hc.le_iff c v hpos.1 hv).mp hle
    rw [hc.dotHeight_eq hv hpos.1 (hcpos.trans_le hvalue) hcpos]
    exact shareHeight_eq hround hrows ((one_le_div hcpos).mpr hvalue)
  anti v c d hcpositive hdpositive hle := by
    have hcpos := hc.value_pos hcpositive
    have hdpos := hc.value_pos hdpositive
    have hvalue := (hc.le_iff c d hcpositive.1 hdpositive.1).mp hle
    by_cases hv : Scalar.isFinite v = true
    · rcases le_or_gt (value v) 0 with hnone | hvpos
      · rw [hc.dotHeight_eq_zero hv hnone]
        exact Nat.zero_le _
      · rw [hc.dotHeight_eq hv hdpositive.1 hvpos hdpos,
          hc.dotHeight_eq hv hcpositive.1 hvpos hcpos]
        exact shareHeight_mono hround hrows (by gcongr)
    · rw [(dotHeight_eq_zero_iff v d dotRows).mpr (.inl (by simpa using hv))]
      exact Nat.zero_le _

end Computes

end Laws

/-! ## Exact and rounded arithmetic -/

theorem computes_rat (dotRows : ℕ) : Computes (α := ℚ) id id dotRows where
  isFinite_zero := rfl
  value_zero := rfl
  le_iff x y _ _ := by simp [Scalar.le]
  lt_iff x y _ _ := by simp [Scalar.lt]
  whole_le x h := by
    have hlt : x < dotRows := by simpa [Scalar.le, Scalar.ofNat] using h
    exact Nat.floor_le_of_le hlt.le
  le_scaledValue_iff v c _ _ _ _ := decide_eq_true_iff
  whole_scaledValue v c _ _ _ _ _ := rfl

section Doubles

variable {dotRows : ℕ}

theorem standsFor_scaledValue {v c : Float} (hv : v.isFinite = true)
    (hc : c.isFinite = true) (hvpos : 0 < Double.value v) (hcpos : 0 < Double.value c)
    (hrows : 0 < dotRows) (hword : dotRows < UInt64.size) :
    Double.StandsFor (scaledValue v c dotRows)
      (scaledShare Double.rounded dotRows (Double.value v / Double.value c)) := by
  obtain ⟨hfinite, hvalue⟩ := Double.isFinite_ofNat hword
  have hone : 1 ≤ Double.value (Float.ofNat dotRows) :=
    (Double.one_le_rounded_natCast hrows).trans_eq hvalue.symm
  have hscaled := (Double.standsFor_div hv hc hvpos hcpos).mul (Double.rounded_nonneg _)
    hfinite hone
  rwa [hvalue] at hscaled

theorem computes_float (hrows : 0 < dotRows) (hword : dotRows < UInt64.size) :
    Computes Double.value Double.rounded dotRows where
  isFinite_zero := rfl
  value_zero := rfl
  le_iff x y hx hy := decide_eq_true_iff.trans (Double.le_iff_value_le hx hy)
  lt_iff x y hx hy := decide_eq_true_iff.trans (Double.lt_iff_value_lt hx hy)
  whole_le x h := Double.toNat_toUInt64_le hword (of_decide_eq_false h)
  le_scaledValue_iff v c hv hc hvpos hcpos := by
    obtain ⟨hfinite, hvalue⟩ := Double.isFinite_ofNat hword
    have hscaled := standsFor_scaledValue hv hc hvpos hcpos hrows hword
    rw [← hvalue]
    exact decide_eq_true_iff.trans (hscaled.le_iff hfinite)
  whole_scaledValue v c hv hc hvpos hcpos hlt := by
    have hbound := hlt.trans_le (Double.rounded_le_size hword)
    obtain ⟨hfinite, hvalue⟩ :=
      (standsFor_scaledValue hv hc hvpos hcpos hrows hword).isFinite
        (hbound.trans Double.size_lt)
    rw [← hvalue] at hbound ⊢
    refine Double.toNat_toUInt64 hfinite ?_ hbound
    rw [hvalue]
    exact Double.rounded_nonneg _

end Doubles

/-! ## Heights in a graph -/

/-- The ceiling of a graph is finite. -/
theorem isFinite_resolveCeiling (samples : List Float) (requested : Float) :
    (resolveCeiling samples requested).isFinite = true := by
  rw [resolveCeiling]
  split
  · next h => exact (Bool.and_eq_true_iff.mp h).1
  · dsimp only
    split
    · next hpos =>
      have hnum : (-1.0 / 0.0 : Float).isNaN = false := by decide
      rcases Series.largest_eq_or_mem hnum (samples.filter Float.isFinite) with hnone | hmem
      · rw [hnone] at hpos
        exact absurd hpos (by decide)
      · exact (List.mem_filter.mp hmem).2
    · rfl

theorem isPositive_ceiling {series : List Float} {width rows : ℕ} {requested : Float}
    {bars : Bars} (hdraw : Bars.draw? series width rows requested = some bars) :
    IsPositive bars.ceiling := by
  obtain rfl := eq_of_draw? hdraw
  exact ⟨isFinite_resolveCeiling _ _, decide_eq_true (resolveCeiling_pos _ _)⟩

theorem litDots_barColumn_le {series : List Float} {width rows : ℕ} {requested v w : Float}
    {bars : Bars} {i j : ℕ} (hdraw : Bars.draw? series width rows requested = some bars)
    (hlaws : HeightLaws Float (rows * dotsPerCell))
    (hi : (Bars.samples series width)[i]? = some v)
    (hj : (Bars.samples series width)[j]? = some w) (hv : v.isFinite = true)
    (hw : w.isFinite = true) (hle : v ≤ w) :
    litDots bars.grid (barColumn series width i) ≤
      litDots bars.grid (barColumn series width j) := by
  rw [litDots_barColumn hdraw hi, litDots_barColumn hdraw hj]
  exact min_le_min_right _ <|
    hlaws.mono v w bars.ceiling (isPositive_ceiling hdraw) hv hw (decide_eq_true hle)

/-- Heights are none for what is not finite and positive, and between one dot and all of them
otherwise. They grow with the value, reach the top with the ceiling, and shrink as the ceiling
grows; so they do in exact arithmetic, and for doubles and numbers of dots that are words. In
one graph no larger sample is drawn shorter. -/
theorem heightLaws_of_pos {dotRows : ℕ} (hrows : 0 < dotRows) :
    HeightLaws ℚ dotRows ∧ (dotRows < UInt64.size → HeightLaws Float dotRows) ∧
      ∀ (series : List Float) (width rows : ℕ) (requested : Float) (bars : Bars),
        rows * dotsPerCell = dotRows → dotRows < UInt64.size →
          Bars.draw? series width rows requested = some bars →
            ∀ (i j : ℕ) (v w : Float), (Bars.samples series width)[i]? = some v →
              (Bars.samples series width)[j]? = some w → v.isFinite = true →
                w.isFinite = true → v ≤ w →
                  litDots bars.grid (barColumn series width i) ≤
                    litDots bars.grid (barColumn series width j) := by
  have hfloat : dotRows < UInt64.size → HeightLaws Float dotRows := fun hword =>
    (computes_float hrows hword).heightLaws isRounding_rounded hrows
  refine ⟨(computes_rat dotRows).heightLaws isRounding_id hrows, hfloat, ?_⟩
  rintro series width rows requested bars rfl hword hdraw i j v w hi hj hv hw hle
  exact litDots_barColumn_le hdraw (hfloat hword) hi hj hv hw hle

/-- Two rows of characters: a value over the ceiling fills them, and of three drawn samples no
smaller one stands higher. -/
theorem heightLaws_two_rows :
    0 < 2 * dotsPerCell ∧ dotHeight (250 : ℚ) 100 (2 * dotsPerCell) = 2 * dotsPerCell ∧
      dotHeight (250.0 : Float) 100.0 (2 * dotsPerCell) = 2 * dotsPerCell ∧
      ∃ bars, Bars.draw? [30.0, 100.0, 50.0] 3 2 0.0 = some bars ∧
        litDots bars.grid 2 ≤ litDots bars.grid 4 ∧ litDots bars.grid 4 ≤ litDots bars.grid 3 := by
  have hrows : 0 < 2 * dotsPerCell := by decide
  have hword : 2 * dotsPerCell < UInt64.size := by decide
  obtain ⟨hrat, hfloat, hgraph⟩ := heightLaws_of_pos hrows
  obtain ⟨bars, hdraw, -⟩ := draw?_eq (List.cons_ne_nil _ _ : [30.0, 100.0, 50.0] ≠ [])
    (by decide : 0 < 3) (by decide : 0 < 2) 0.0
  have hsamples : Bars.samples [30.0, 100.0, 50.0] 3 = [30.0, 100.0, 50.0] := by
    decide +kernel
  have hbars := hgraph _ 3 2 0.0 bars rfl hword hdraw
  rw [hsamples] at hbars
  refine ⟨hrows, ?_, ?_, bars, hdraw, ?_, ?_⟩
  · exact hrat.eq_dotRows 250 100 ⟨rfl, by decide +kernel⟩ rfl (by decide +kernel)
  · exact (hfloat hword).eq_dotRows 250.0 100.0 ⟨rfl, by decide +kernel⟩ rfl (by decide +kernel)
  · exact hbars 0 2 30.0 50.0 rfl rfl rfl rfl (by decide +kernel)
  · exact hbars 2 1 50.0 100.0 rfl rfl rfl rfl (by decide +kernel)

end Dashboard.Graph
