import Dashboard.Graph.Sparkline
import Dashboard.Proofs.Graph.Visibility

/-! # The tier of a line

A sparkline has one tier, that of the value its last bar shows. The newest sample is one of
the samples of that bar, so the line has the tier of the newest sample as long as no other
sample of the bar takes its place. -/

namespace Dashboard

/-! ## Tiers of equal values -/

section Classify

variable (thresholds : Thresholds Float)

theorem classify_eq_of_unpack_zero {x y : Float} {s t : Float.Model.UnpackedFloat.Sign}
    (hx : x.toModel.unpack = .zero s) (hy : y.toModel.unpack = .zero t) :
    thresholds.classify x = thresholds.classify y := by
  have hfinite : (Scalar.isFinite x : Bool) = Scalar.isFinite y :=
    (Double.isFinite_of_unpack_zero hx).trans (Double.isFinite_of_unpack_zero hy).symm
  have hlt : ∀ bound : Float, Scalar.lt bound x = Scalar.lt bound y :=
    fun bound => decide_eq_decide.mpr (Double.lt_iff_lt_of_unpack_zero hx hy bound)
  rw [Thresholds.classify, Thresholds.classify, hfinite, hlt, hlt]

/-- The sign of zero makes no difference to a tier. -/
theorem classifyValue_eq_of_le_of_le {x y : Float} (hxy : x ≤ y) (hyx : y ≤ x)
    (ceiling : Float) :
    thresholds.classifyValue x ceiling = thresholds.classifyValue y ceiling := by
  rw [Thresholds.classifyValue, Thresholds.classifyValue]
  split
  · rcases Double.div_eq_or_zero hxy hyx ceiling with h | ⟨s, t, hx, hy⟩
    · exact congrArg thresholds.classify h
    · exact classify_eq_of_unpack_zero thresholds hx hy
  · rfl

end Classify

namespace Graph

open Series (Holds IsPeak)

/-! ## The last bar -/

/-- Samples of the last bar of a drawn series. -/
def lastSamples (series : List Float) (width : ℕ) : List Float :=
  shownSamples series width (min series.length (2 * width) - 1)

section LastBar

variable {series : List Float} {width rows : ℕ} {requested newest : Float} {bars : Bars}

theorem holds_lastBar (hwidth : 0 < width) (hseries : 0 < series.length) :
    Holds (shownRange series width (min series.length (2 * width) - 1)) (series.length - 1) := by
  by_cases h : series.length ≤ 2 * width
  · rw [holds_shownRange_of_le h]
    omega
  · have hlast : min series.length (2 * width) = 2 * width := by omega
    rw [hlast, shownRange_of_lt (by omega)]
    exact Series.holds_last _ (by omega) hseries

theorem mem_lastSamples (hwidth : 0 < width) (hnewest : series.getLast? = some newest) :
    newest ∈ lastSamples series width := by
  have hlength := List.length_pos_of_mem (List.mem_of_getLast? hnewest)
  have hholds := holds_lastBar hwidth hlength
  rw [List.getLast?_eq_getElem?] at hnewest
  exact Series.mem_slice_iff.mpr ⟨_, hholds, hnewest⟩

/-- The value a drawn series ends with is the one its last bar shows. -/
theorem getElem?_samples_last (hdraw : Bars.draw? series width rows requested = some bars) :
    (Bars.samples series width)[min series.length (2 * width) - 1]? = some bars.last := by
  obtain ⟨hwidth, hseries⟩ : 0 < width ∧ 0 < series.length := by
    by_contra hnone
    rw [Bars.draw?, if_pos] at hdraw
    · simp at hdraw
    · simp only [List.isEmpty_iff_length_eq_zero]
      omega
  have hlength := length_samples series width
  have hlast : bars.last = (Bars.samples series width).getLast?.getD 0.0 := by
    obtain rfl := eq_of_draw? hdraw
    rfl
  rw [← hlength, ← List.getLast?_eq_getElem?, hlast]
  cases hsamples : (Bars.samples series width).getLast? with
  | none =>
      rw [List.getLast?_eq_none_iff.mp hsamples, List.length_nil] at hlength
      omega
  | some last => rfl

theorem last_of_le (hdraw : Bars.draw? series width rows requested = some bars)
    (hnewest : series.getLast? = some newest) (h : series.length ≤ 2 * width) :
    bars.last = newest := by
  have hlast := getElem?_samples_last hdraw
  rw [samples_of_le h, Nat.min_eq_left h, ← List.getLast?_eq_getElem?, hnewest] at hlast
  exact (Option.some.inj hlast).symm

theorem isPeak_last_of_lt (hdraw : Bars.draw? series width rows requested = some bars)
    (h : 2 * width < series.length) : IsPeak (lastSamples series width) bars.last := by
  have hlast := getElem?_samples_last hdraw
  rw [Bars.samples, Series.fitToWidth_of_lt h] at hlast
  rw [lastSamples, shownSamples, shownRange_of_lt h]
  exact Series.isPeak_of_getElem? hlast

theorem isPeak_last (hdraw : Bars.draw? series width rows requested = some bars)
    (hwidth : 0 < width) (hnewest : series.getLast? = some newest)
    (hnum : newest.isNaN = false) : IsPeak (lastSamples series width) bars.last := by
  have hlength := List.length_pos_of_mem (List.mem_of_getLast? hnewest)
  have hholds := holds_lastBar hwidth hlength
  rw [List.getLast?_eq_getElem?] at hnewest
  exact isPeak_samples hholds hnewest hnum (getElem?_samples_last hdraw)

/-- The rightmost cell of a row belongs to the series. -/
theorem exists_data_cell (hdraw : Bars.draw? series width rows requested = some bars) {row : ℕ}
    (hrow : row < rows) :
    ∃ c, bars.grid.get? (width - 1) row = some ⟨c, .data .normal⟩ := by
  have hlast := (List.getElem?_eq_some_iff.mp (getElem?_samples_last hdraw)).1
  have hgrid := congrArg Bars.grid (eq_of_draw? hdraw)
  rw [length_samples] at hlast
  have hlength := length_heights series width rows
    (resolveCeiling (Bars.samples series width) requested)
  rw [hgrid, get?_gridOfHeights_of_le _ _ _ _ (by omega) hrow]
  · exact ⟨_, rfl⟩
  · rw [unused, hlength]
    omega

end LastBar

/-! ## Data cells -/

section Tiers

variable (grid : Grid) (tier : ℕ → Severity) {col row : ℕ}

theorem get?_withTiers (col row : ℕ) :
    (withTiers grid tier).get? col row = (grid.get? col row).map fun glyph =>
      if glyph.tone.isData then { glyph with tone := .data (tier row) } else glyph :=
  Grid.get?_mapCells _ _ _ _

/-- Data cells keep their character and take the tier of their row. -/
theorem get?_withTiers_eq_data_iff {c : Char} {own : Severity} :
    (withTiers grid tier).get? col row = some ⟨c, .data own⟩ ↔
      own = tier row ∧ ∃ drawn, grid.get? col row = some ⟨c, .data drawn⟩ := by
  rw [get?_withTiers, Option.map_eq_some_iff]
  constructor
  · rintro ⟨⟨d, tone⟩, hget, hchange⟩
    cases tone with
    | data drawn =>
        injection hchange with hchar htone
        subst hchar
        exact ⟨(Tone.data.inj htone).symm, drawn, hget⟩
    | grid | marker | label | blank => cases hchange
  · rintro ⟨rfl, drawn, hget⟩
    exact ⟨_, hget, rfl⟩

end Tiers

namespace Sparkline

variable {line : Sparkline} {bars : Bars}

theorem glyphs_eq (hdraw : Bars.draw? line.series line.width 1 line.ceiling = some bars) :
    line.glyphs = withTiers bars.grid fun _ =>
      line.style.thresholds.classifyValue bars.last bars.ceiling := by
  rw [glyphs, hdraw]

theorem tier_of_get?_glyphs
    (hdraw : Bars.draw? line.series line.width 1 line.ceiling = some bars) {col row : ℕ}
    {c : Char} {tier : Severity} (h : line.glyphs.get? col row = some ⟨c, .data tier⟩) :
    tier = line.style.thresholds.classifyValue bars.last bars.ceiling := by
  rw [glyphs_eq hdraw, get?_withTiers_eq_data_iff] at h
  exact h.1

/-- The rightmost cell belongs to the series. -/
theorem exists_data_glyph
    (hdraw : Bars.draw? line.series line.width 1 line.ceiling = some bars) :
    ∃ c, line.glyphs.get? (line.width - 1) 0 =
      some ⟨c, .data (line.style.thresholds.classifyValue bars.last bars.ceiling)⟩ := by
  obtain ⟨c, hcell⟩ := exists_data_cell hdraw (by decide : 0 < 1)
  rw [glyphs_eq hdraw]
  exact ⟨c, (get?_withTiers_eq_data_iff _ _).mpr ⟨rfl, _, hcell⟩⟩

/-- The data cells of a sparkline have the tier of the value its last bar shows, which is the
newest sample in a series that fits and otherwise the largest sample of the last bucket, to
which the newest one belongs. They have the tier of the newest sample exactly if those two
tiers agree, in particular if the newest sample is the largest of its bucket. -/
theorem tier_glyphs_iff {newest : Float} (hnewest : line.series.getLast? = some newest)
    (hwidth : 0 < line.width) :
    ∃ bars, Bars.draw? line.series line.width 1 line.ceiling = some bars ∧
      let tierOf := fun value => line.style.thresholds.classifyValue value bars.ceiling
      let bucket := lastSamples line.series line.width
      (∃ col row c, line.glyphs.get? col row = some ⟨c, .data (tierOf bars.last)⟩) ∧
      (∀ col row c tier, line.glyphs.get? col row = some ⟨c, .data tier⟩ →
        tier = tierOf bars.last) ∧
      ((∀ col row c tier, line.glyphs.get? col row = some ⟨c, .data tier⟩ →
        tier = tierOf newest) ↔ tierOf bars.last = tierOf newest) ∧
      (line.series.length ≤ 2 * line.width → bars.last = newest) ∧
      (2 * line.width < line.series.length → newest ∈ bucket ∧ IsPeak bucket bars.last) ∧
      (IsPeak bucket newest → tierOf bars.last = tierOf newest) := by
  have hseries : line.series ≠ [] := List.ne_nil_of_mem (List.mem_of_getLast? hnewest)
  obtain ⟨bars, hdraw, -⟩ := draw?_eq hseries hwidth (by decide : 0 < 1) line.ceiling
  obtain ⟨shape, hcell⟩ := exists_data_glyph hdraw
  refine ⟨bars, hdraw, ⟨_, _, _, hcell⟩, ?_, ?_, ?_, ?_, ?_⟩
  · intro col row c tier h
    exact tier_of_get?_glyphs hdraw h
  · constructor
    · intro h
      exact h _ _ _ _ hcell
    · intro h col row c tier hget
      exact (tier_of_get?_glyphs hdraw hget).trans h
  · exact last_of_le hdraw hnewest
  · intro hlong
    exact ⟨mem_lastSamples hwidth hnewest, isPeak_last_of_lt hdraw hlong⟩
  · -- Two largest samples may still differ in the sign of zero, which no tier depends on.
    intro hpeak
    have hlast := isPeak_last hdraw hwidth hnewest hpeak.isNaN_eq
    exact classifyValue_eq_of_le_of_le _ (hlast.le_of_isPeak hpeak) (hpeak.le_of_isPeak hlast) _

/-- Four samples on two bars. The newest one is low, its neighbour in the bucket high. -/
def fallingLine : Sparkline where
  series := [10.0, 10.0, 90.0, 10.0]
  width := 1
  ceiling := 100.0

/-- The falling line is drawn in the tier of its last bar, which is not that of its newest
sample. -/
theorem tier_glyphs_fallingLine :
    fallingLine.series.getLast? = some 10.0 ∧ 0 < fallingLine.width ∧
      ∃ bars, Bars.draw? fallingLine.series 1 1 100.0 = some bars ∧
        10.0 ∈ lastSamples fallingLine.series 1 ∧
        IsPeak (lastSamples fallingLine.series 1) bars.last ∧
        ∃ col row c, fallingLine.glyphs.get? col row = some ⟨c, .data
          (fallingLine.style.thresholds.classifyValue bars.last bars.ceiling)⟩ := by
  have hnewest : fallingLine.series.getLast? = some 10.0 := rfl
  have hwidth : 0 < fallingLine.width := by decide
  obtain ⟨bars, hdraw, hcell, -, -, -, hlong, -⟩ := tier_glyphs_iff hnewest hwidth
  obtain ⟨hmem, hpeak⟩ := hlong (by decide)
  exact ⟨hnewest, hwidth, bars, hdraw, hmem, hpeak, hcell⟩

/-- A line can have another tier than its newest sample. -/
theorem exists_tier_ne_newest :
    ¬ ∀ (line : Sparkline) (bars : Bars) (newest : Float) (col row : ℕ) (c : Char)
      (tier : Severity), Bars.draw? line.series line.width 1 line.ceiling = some bars →
        line.series.getLast? = some newest →
          line.glyphs.get? col row = some ⟨c, .data tier⟩ →
            tier = line.style.thresholds.classifyValue newest bars.ceiling := by
  intro h
  obtain ⟨bars, hdraw, -⟩ := draw?_eq (List.cons_ne_nil _ _ : fallingLine.series ≠ [])
    (by decide : 0 < fallingLine.width) (by decide : 0 < 1) fallingLine.ceiling
  have hcell : fallingLine.glyphs.get? 0 0 = some ⟨'⣰', .data .critical⟩ := by decide +kernel
  have hceiling : bars.ceiling = 100.0 := by
    rw [eq_of_draw? hdraw]
    decide +kernel
  have htier := h fallingLine bars 10.0 0 0 '⣰' .critical hdraw rfl hcell
  rw [hceiling] at htier
  exact absurd htier (by decide +kernel)

end Sparkline

end Graph

end Dashboard
