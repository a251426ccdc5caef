import Dashboard.Proofs.Graph.DotMatrix
import Dashboard.Proofs.Series.Buckets

/-! # Visible samples

A bar stands for one sample, or for all samples of a bucket. It shows the largest of them,
and infinity is not drawn: a finite positive sample is visible exactly if no infinity lies
in its bucket. -/

namespace Dashboard.Graph

open Series (Holds IsPeak bucketRange fractionalEdge slice)

/-! ## The samples of a bar -/

/-- Index range of the samples a bar stands for. -/
def shownRange (series : List Float) (width bar : ℕ) : ℕ × ℕ :=
  if series.length ≤ 2 * width then (bar, bar + 1)
  else bucketRange (fractionalEdge series.length (2 * width)) series.length (2 * width) bar

/-- Samples a bar stands for. -/
def shownSamples (series : List Float) (width bar : ℕ) : List Float :=
  slice series (shownRange series width bar)

section Shown

variable {series : List Float} {width : ℕ}

theorem holds_shownRange_of_le (h : series.length ≤ 2 * width) {bar index : ℕ} :
    Holds (shownRange series width bar) index ↔ index = bar := by
  rw [shownRange, if_pos h, Holds]
  omega

theorem shownRange_of_lt (h : 2 * width < series.length) (bar : ℕ) :
    shownRange series width bar =
      bucketRange (fractionalEdge series.length (2 * width)) series.length (2 * width) bar := by
  rw [shownRange, if_neg (by omega)]

/-- Every sample has a bar. -/
theorem exists_bar (hwidth : 0 < width) {index : ℕ} (hindex : index < series.length) :
    ∃ bar < min series.length (2 * width), Holds (shownRange series width bar) index := by
  by_cases h : series.length ≤ 2 * width
  · exact ⟨index, by omega, (holds_shownRange_of_le h).mpr rfl⟩
  · have htarget : 0 < 2 * width := by omega
    obtain ⟨bar, hbar, hholds⟩ :=
      Series.exists_holds (Series.fractionalEdge_zero series.length (2 * width)) htarget hindex
    exact ⟨bar, by omega, by rwa [shownRange_of_lt (by omega)]⟩

/-- A bar shows the largest of its samples, unless its only sample is NaN. -/
theorem isPeak_samples {bar index : ℕ} {value shown : Float}
    (hholds : Holds (shownRange series width bar) index) (hindex : series[index]? = some value)
    (hvalue : value.isNaN = false) (hshown : (Bars.samples series width)[bar]? = some shown) :
    IsPeak (shownSamples series width bar) shown := by
  by_cases h : series.length ≤ 2 * width
  · obtain rfl := (holds_shownRange_of_le h).mp hholds
    rw [samples_of_le h, hindex, Option.some.injEq] at hshown
    subst hshown
    refine ⟨hvalue, ?_, .inl (Series.mem_slice_iff.mpr ⟨index, hholds, hindex⟩)⟩
    intro other hother _
    obtain ⟨place, hplace, hget⟩ := Series.mem_slice_iff.mp hother
    obtain rfl := (holds_shownRange_of_le h).mp hplace
    obtain rfl : value = other := Option.some.inj (hindex.symm.trans hget)
    exact Double.le_self hvalue
  · rw [Bars.samples, Series.fitToWidth_of_lt (by omega)] at hshown
    rw [shownSamples, shownRange_of_lt (by omega)]
    exact Series.isPeak_of_getElem? hshown

end Shown

/-! ## Heights -/

/-- Nothing but the three guards leaves a bar without a dot. -/
theorem dotHeight_eq_zero_iff {α : Type} [Scalar α] (value ceiling : α) (dotRows : ℕ) :
    dotHeight value ceiling dotRows = 0 ↔
      Scalar.isFinite value = false ∨ Scalar.le value (Scalar.ofNat 0) = true ∨
        Scalar.le ceiling (Scalar.ofNat 0) = true := by
  rw [dotHeight]
  split
  · next h => simpa [or_assoc] using h
  · next h =>
    -- A height that rounds down to zero is raised to one.
    refine iff_of_false (by dsimp only; omega) ?_
    simpa [or_assoc] using h

/-- Whatever is finite and positive is drawn, however small. -/
theorem dotHeight_pos_iff (value ceiling : Float) (dotRows : ℕ) :
    0 < dotHeight value ceiling dotRows ↔
      value.isFinite = true ∧ ¬ value ≤ 0.0 ∧ ¬ ceiling ≤ 0.0 := by
  have hguard : dotHeight value ceiling dotRows = 0 ↔
      value.isFinite = false ∨ decide (value ≤ 0.0) = true ∨ decide (ceiling ≤ 0.0) = true :=
    dotHeight_eq_zero_iff value ceiling dotRows
  rw [Nat.pos_iff_ne_zero, ne_eq, hguard]
  simp

/-- The ceiling of a graph is positive. -/
theorem resolveCeiling_pos (samples : List Float) (requested : Float) :
    0.0 < resolveCeiling samples requested := by
  rw [resolveCeiling]
  split
  · next h => exact of_decide_eq_true (Bool.and_eq_true_iff.mp h).2
  · dsimp only
    split
    · next h => exact h
    · decide

/-- Next to a positive value, the largest one is finite unless it is infinity. -/
theorem isFinite_peak_iff {values : List Float} {peak value : Float} (h : IsPeak values peak)
    (hmem : value ∈ values) (hvalue : 0.0 < value) :
    peak.isFinite = true ↔ 1.0 / 0.0 ∉ values := by
  have hnum : value.isNaN = false := Double.isNaN_right_of_lt hvalue
  constructor
  · intro hfinite hinfinity
    obtain rfl : peak = 1.0 / 0.0 :=
      Double.eq_infinity_of_le (h.le_peak _ hinfinity rfl)
    exact absurd hfinite (by decide)
  · intro hinfinity
    have hpeak : 0.0 < peak :=
      calc
        0.0 < value := hvalue
        _ ≤ peak := h.le_peak value hmem hnum
    apply Double.isFinite_of_lt hpeak
    rintro rfl
    exact hinfinity (h.mem hmem hnum)

/-! ## Visible bars -/

/-- Column of dots of a bar. -/
def barColumn (series : List Float) (width bar : ℕ) : ℕ :=
  2 * (width - (min series.length (2 * width) + 1) / 2) + bar

section Visible

variable {series : List Float} {width rows : ℕ} {requested : Float}

theorem eq_of_draw? {bars : Bars} (h : Bars.draw? series width rows requested = some bars) :
    let samples := Bars.samples series width
    let ceiling := resolveCeiling samples requested
    bars = ⟨Bars.gridOfHeights (Bars.heights series width rows ceiling).toArray width rows,
      ceiling, samples.getLast?.getD 0.0⟩ := by
  rw [Bars.draw?] at h
  split at h
  · simp at h
  · exact (Option.some.inj h).symm

/-- The lit dots of a bar are those of the value it shows. -/
theorem litDots_barColumn {bars : Bars} {bar : ℕ} {shown : Float}
    (hdraw : Bars.draw? series width rows requested = some bars)
    (hshown : (Bars.samples series width)[bar]? = some shown) :
    litDots bars.grid (barColumn series width bar) =
      min (dotHeight shown bars.ceiling (rows * dotsPerCell)) (dotsPerCell * rows) := by
  obtain rfl := eq_of_draw? hdraw
  have hlength := length_heights series width rows
    (resolveCeiling (Bars.samples series width) requested)
  have hcolumn : barColumn series width bar =
      2 * unused (Bars.heights series width rows
        (resolveCeiling (Bars.samples series width) requested)) width + bar := by
    rw [barColumn, unused, hlength]
  rw [hcolumn]
  apply litDots_gridOfHeights
  · simp [Bars.heights, hshown]
  · omega

/-- A bar has a lit dot if it shows a positive finite value. -/
theorem litDots_barColumn_pos_iff {bars : Bars} {bar : ℕ} {shown : Float} (hrows : 0 < rows)
    (hdraw : Bars.draw? series width rows requested = some bars)
    (hshown : (Bars.samples series width)[bar]? = some shown) :
    0 < litDots bars.grid (barColumn series width bar) ↔
      shown.isFinite = true ∧ ¬ shown ≤ 0.0 := by
  have hceiling : ¬ bars.ceiling ≤ 0.0 := by
    obtain rfl := eq_of_draw? hdraw
    exact Double.not_le_of_lt (resolveCeiling_pos _ _)
  have hdots : 0 < dotsPerCell * rows := Nat.mul_pos (by decide) hrows
  rw [litDots_barColumn hdraw hshown, Nat.lt_min, and_iff_left hdots, dotHeight_pos_iff,
    and_iff_left hceiling]

/-- Every finite positive sample has a bar. A bar that stands for it has a lit dot exactly if
no infinity is among the samples the bar stands for; in a series that fits, every such sample
is visible. -/
theorem litDots_pos_iff (hwidth : 0 < width) (hrows : 0 < rows) (requested : Float) {index : ℕ}
    {value : Float} (hindex : series[index]? = some value) (hfinite : value.isFinite = true)
    (hvalue : 0.0 < value) :
    ∃ bars, Bars.draw? series width rows requested = some bars ∧
      (∃ bar < min series.length (2 * width), Holds (shownRange series width bar) index) ∧
      (∀ bar < min series.length (2 * width), Holds (shownRange series width bar) index →
        (0 < litDots bars.grid (barColumn series width bar) ↔
          1.0 / 0.0 ∉ shownSamples series width bar)) ∧
      (series.length ≤ 2 * width → 0 < litDots bars.grid (barColumn series width index)) := by
  have hlt : index < series.length := (List.getElem?_eq_some_iff.mp hindex).1
  have hnum : value.isNaN = false := Double.isNaN_right_of_lt hvalue
  have hseries : series ≠ [] := List.ne_nil_of_length_pos (by omega)
  obtain ⟨bars, hdraw, -⟩ := draw?_eq hseries hwidth hrows requested
  have hvisible : ∀ bar < min series.length (2 * width),
      Holds (shownRange series width bar) index →
        (0 < litDots bars.grid (barColumn series width bar) ↔
          1.0 / 0.0 ∉ shownSamples series width bar) := by
    intro bar hbar hholds
    have hget : bar < (Bars.samples series width).length := by rwa [length_samples]
    have hshown := List.getElem?_eq_getElem hget
    have hpeak := isPeak_samples hholds hindex hnum hshown
    have hmem : value ∈ shownSamples series width bar :=
      Series.mem_slice_iff.mpr ⟨index, hholds, hindex⟩
    have hpositive := Double.not_le_of_lt
      (Double.lt_of_lt_of_le hvalue (hpeak.le_peak value hmem hnum))
    rw [litDots_barColumn_pos_iff hrows hdraw hshown, and_iff_left hpositive]
    exact isFinite_peak_iff hpeak hmem hvalue
  refine ⟨bars, hdraw, exists_bar hwidth hlt, hvisible, ?_⟩
  -- In a series that fits the sample is alone in its bar, and it is not infinity.
  intro hfits
  apply (hvisible index (by omega) ((holds_shownRange_of_le hfits).mpr rfl)).mpr
  intro hinfinity
  obtain ⟨other, hother, hget⟩ := Series.mem_slice_iff.mp hinfinity
  obtain rfl := (holds_shownRange_of_le hfits).mp hother
  obtain rfl : value = 1.0 / 0.0 := Option.some.inj (hindex.symm.trans hget)
  exact absurd hfinite (by decide)

/-- A spike between NaN and minus infinity, four samples on a width of one. -/
theorem litDots_pos_iff_oneSpike :
    0 < 1 ∧ 0 < 2 ∧ [0.0 / 0.0, 3.0, -1.0 / 0.0, 0.0][1]? = some (3.0 : Float) ∧
      (3.0 : Float).isFinite = true ∧ (0.0 : Float) < 3.0 ∧
      ∃ bars, Bars.draw? [0.0 / 0.0, 3.0, -1.0 / 0.0, 0.0] 1 2 0.0 = some bars ∧
        0 < litDots bars.grid 0 := by
  have hwidth : 0 < 1 := by decide
  have hrows : 0 < 2 := by decide
  have hindex : [0.0 / 0.0, 3.0, -1.0 / 0.0, 0.0][1]? = some (3.0 : Float) := rfl
  have hfinite : (3.0 : Float).isFinite = true := by decide
  have hvalue : (0.0 : Float) < 3.0 := by decide
  have hrange : shownRange [0.0 / 0.0, 3.0, -1.0 / 0.0, 0.0] 1 0 = (0, 2) := by decide +kernel
  have hsamples : shownSamples [0.0 / 0.0, 3.0, -1.0 / 0.0, 0.0] 1 0 = [0.0 / 0.0, 3.0] := by
    decide +kernel
  have hfree : 1.0 / 0.0 ∉ [0.0 / 0.0, (3.0 : Float)] := by
    rw [List.mem_cons, List.mem_singleton]
    decide +kernel
  obtain ⟨bars, hdraw, -, hvisible, -⟩ :=
    litDots_pos_iff hwidth hrows 0.0 hindex hfinite hvalue
  refine ⟨hwidth, hrows, hindex, hfinite, hvalue, bars, hdraw, ?_⟩
  apply (hvisible 0 (by decide) (by rw [hrange]; exact ⟨by decide, by decide⟩)).mpr
  rwa [hsamples]

/-- An infinite neighbour hides a sample. -/
theorem exists_litDots_eq_zero :
    ¬ ∀ (series : List Float) (width rows : ℕ) (requested : Float) (bars : Bars)
      (index : ℕ) (value : Float), Bars.draw? series width rows requested = some bars →
        series[index]? = some value → value.isFinite = true → 0.0 < value →
          ∀ bar < min series.length (2 * width), Holds (shownRange series width bar) index →
            0 < litDots bars.grid (barColumn series width bar) := by
  intro h
  let series : List Float := [1.0, 1.0 / 0.0, 0.0, 0.0]
  obtain ⟨bars, hdraw, -⟩ := draw?_eq (List.cons_ne_nil _ _ : series ≠ []) (by decide : 0 < 1)
    (by decide : 0 < 1) 4.0
  have hrange : shownRange series 1 0 = (0, 2) := by decide +kernel
  have hshown : (Bars.samples series 1)[0]? = some (1.0 / 0.0) := by decide +kernel
  have hlit := h series 1 1 4.0 bars 0 1.0 hdraw rfl (by decide) (by decide) 0 (by decide)
    (by rw [hrange]; exact ⟨by decide, by decide⟩)
  rw [litDots_barColumn_pos_iff (by decide) hdraw hshown] at hlit
  exact absurd hlit.1 (by decide)

end Visible

end Dashboard.Graph
