import Dashboard.Graph.Chart
import Dashboard.Proofs.Double.Whole
import Dashboard.Proofs.Graph.LineTier

/-! # Bands of rows

A chart gives the data cells of a row the tier of the middle of the row, and leaves the rest
of the grid as it was drawn. The middle of a higher row is no lower, however doubles round it,
and so neither is its tier, whatever the thresholds are. -/

namespace Dashboard

/-! ## Tiers -/

namespace Severity

theorem normal_le (tier : Severity) : normal ≤ tier :=
  Nat.zero_le tier.rank

theorem le_critical (tier : Severity) : tier ≤ critical := by
  cases tier <;> decide

theorem le_refl (tier : Severity) : tier ≤ tier :=
  Nat.le_refl tier.rank

end Severity

/-- Tiers follow fractions. A threshold that is NaN is never passed, and the order of the
thresholds does not matter. -/
theorem classify_mono (thresholds : Thresholds Float) {x y : Float} (hx : x.isFinite = true)
    (hy : y.isFinite = true) (hle : x ≤ y) : thresholds.classify x ≤ thresholds.classify y := by
  have hpass : ∀ bound : Float, Scalar.lt bound x = true → Scalar.lt bound y = true :=
    fun _ h => decide_eq_true (Double.lt_of_lt_of_le (of_decide_eq_true h) hle)
  have hxfinite : Scalar.isFinite x = true := hx
  have hyfinite : Scalar.isFinite y = true := hy
  rw [Thresholds.classify, Thresholds.classify, hxfinite, hyfinite]
  by_cases hcritical : Scalar.lt thresholds.critical y = true
  · simp only [Bool.not_true, Bool.false_eq_true, if_false, hcritical, if_true]
    exact Severity.le_critical _
  have hbelow : Scalar.lt thresholds.critical x = false :=
    Bool.eq_false_iff.mpr fun h => hcritical (hpass _ h)
  by_cases helevated : Scalar.lt thresholds.elevated x = true
  · simp [hcritical, hbelow, helevated, hpass _ helevated, Severity.le_refl]
  · simp [hbelow, helevated, Severity.normal_le]

namespace Graph

/-! ## Middles of rows -/

/-- The middle of a row as it is computed with doubles, each operation rounded. In a chart of
more rows than doubles count exactly it may lie below the lowest row. -/
def roundedMiddle (rows row : ℕ) : ℚ :=
  Double.roundedSigned (Double.roundedSigned
    (Double.roundedSigned (Double.rounded rows - Double.rounded row) - 1 / 2) /
      Double.rounded rows)

theorem roundedMiddle_anti (rows : ℕ) {upper lower : ℕ} (h : upper ≤ lower) :
    roundedMiddle rows lower ≤ roundedMiddle rows upper := by
  have hrow : Double.rounded upper ≤ Double.rounded lower :=
    Double.rounded_mono (by exact_mod_cast h)
  have hbelow : Double.roundedSigned (Double.rounded rows - Double.rounded lower) ≤
      Double.roundedSigned (Double.rounded rows - Double.rounded upper) :=
    Double.roundedSigned_mono (sub_le_sub_left hrow _)
  have hmiddle := Double.roundedSigned_mono (sub_le_sub_right hbelow (1 / 2))
  exact Double.roundedSigned_mono (div_le_div_of_nonneg_right hmiddle (Double.rounded_nonneg _))

section Middle

variable {rows : ℕ}

theorem isFinite_bandMiddle (hword : rows < UInt64.size) {row : ℕ} (hrow : row < rows) :
    (Chart.bandMiddle rows row).isFinite = true ∧
      Double.value (Chart.bandMiddle rows row) = roundedMiddle rows row := by
  obtain ⟨hrows, hrowsvalue⟩ := Double.isFinite_ofNat hword
  obtain ⟨hupper, huppervalue⟩ := Double.isFinite_ofNat (hrow.trans hword)
  obtain ⟨hhalf, hhalfvalue⟩ : (0.5 : Float).isFinite = true ∧ Double.value 0.5 = 1 / 2 := by
    decide +kernel
  have hle : Double.rounded row ≤ Double.rounded rows :=
    Double.rounded_mono (by exact_mod_cast hrow.le)
  -- The upper edge of the row, counted from below, then its middle, then the fraction.
  obtain ⟨hedge, hedgevalue⟩ := Double.isFinite_sub hrows hupper
    (hrowsvalue ▸ Double.rounded_nonneg _) (huppervalue ▸ Double.rounded_nonneg _)
  rw [hrowsvalue, huppervalue] at hedgevalue
  have hnonneg : 0 ≤ Double.value (Float.ofNat rows - Float.ofNat row) := by
    rw [hedgevalue, Double.roundedSigned_of_nonneg (sub_nonneg.mpr hle)]
    exact Double.rounded_nonneg _
  obtain ⟨hmiddle, hmiddlevalue⟩ := Double.isFinite_sub hedge hhalf hnonneg
    (hhalfvalue ▸ by norm_num)
  have hone := hrowsvalue.symm ▸ Double.one_le_rounded_natCast (by omega : 0 < rows)
  have hfraction := Double.isFinite_div hmiddle hrows hone
  rwa [hmiddlevalue, hedgevalue, hhalfvalue, hrowsvalue] at hfraction

/-- Higher rows have no lower middles. -/
theorem bandMiddle_anti (hword : rows < UInt64.size) {upper lower : ℕ} (hle : upper ≤ lower)
    (hlower : lower < rows) : Chart.bandMiddle rows lower ≤ Chart.bandMiddle rows upper := by
  obtain ⟨hfinite, hvalue⟩ := isFinite_bandMiddle hword hlower
  obtain ⟨hfinite', hvalue'⟩ := isFinite_bandMiddle hword (hle.trans_lt hlower)
  rw [Double.le_iff_value_le hfinite hfinite', hvalue, hvalue']
  exact roundedMiddle_anti rows hle

end Middle

/-! ## Cells of a chart -/

section Tiers

variable (grid : Grid) (tier : ℕ → Severity) {col row : ℕ}

theorem map_char_get?_withTiers (col row : ℕ) :
    ((withTiers grid tier).get? col row).map Glyph.char =
      (grid.get? col row).map Glyph.char := by
  rw [get?_withTiers, Option.map_map]
  congr 1
  funext glyph
  simp only [Function.comp_apply]
  split <;> rfl

/-- Cells that are not data cells are the drawn ones. -/
theorem get?_withTiers_of_not_isData {glyph : Glyph} (h : glyph.tone.isData = false) :
    (withTiers grid tier).get? col row = some glyph ↔ grid.get? col row = some glyph := by
  rw [get?_withTiers, Option.map_eq_some_iff]
  constructor
  · rintro ⟨own, hown, hchange⟩
    split at hchange
    · rw [← hchange] at h
      exact absurd h (by simp [Tone.isData])
    · rwa [← hchange]
  · intro hget
    exact ⟨glyph, hget, by rw [h, if_neg Bool.false_ne_true]⟩

end Tiers

namespace Chart

variable {chart : Chart}

/-- Tier of a row of a chart. -/
def rowTier (chart : Chart) (row : ℕ) : Severity :=
  chart.style.thresholds.classify (bandMiddle chart.rows row)

theorem rowTier_anti (hword : chart.rows < UInt64.size) {upper lower : ℕ} (hle : upper ≤ lower)
    (hlower : lower < chart.rows) : chart.rowTier lower ≤ chart.rowTier upper :=
  classify_mono _ (isFinite_bandMiddle hword hlower).1
    (isFinite_bandMiddle hword (hle.trans_lt hlower)).1 (bandMiddle_anti hword hle hlower)

theorem glyphs_eq {bars : Bars}
    (hdraw : Bars.draw? chart.series chart.width chart.rows chart.ceiling = some bars) :
    chart.glyphs = withTiers bars.grid chart.rowTier := by
  rw [glyphs, hdraw]
  rfl

/-- A chart is drawn as its bars are, character by character, and its cells without data are
those of the bars. The data cells of a row, of which there are some, have one tier, and a
higher row has no lower tier. -/
theorem rowTier_glyphs (hseries : chart.series ≠ []) (hwidth : 0 < chart.width)
    (hrows : 0 < chart.rows) (hword : chart.rows < UInt64.size) :
    ∃ bars, Bars.draw? chart.series chart.width chart.rows chart.ceiling = some bars ∧
      chart.glyphs.width = bars.grid.width ∧ chart.glyphs.rows = bars.grid.rows ∧
      (∀ col row, (chart.glyphs.get? col row).map Glyph.char =
        (bars.grid.get? col row).map Glyph.char) ∧
      (∀ col row glyph, glyph.tone.isData = false →
        (chart.glyphs.get? col row = some glyph ↔ bars.grid.get? col row = some glyph)) ∧
      (∀ col row c tier, chart.glyphs.get? col row = some ⟨c, .data tier⟩ ↔
        tier = chart.rowTier row ∧ ∃ drawn, bars.grid.get? col row = some ⟨c, .data drawn⟩) ∧
      (∀ row < chart.rows, ∃ col c,
        chart.glyphs.get? col row = some ⟨c, .data (chart.rowTier row)⟩) ∧
      ∀ upper lower, upper ≤ lower → lower < chart.rows →
        chart.rowTier lower ≤ chart.rowTier upper := by
  obtain ⟨bars, hdraw, -⟩ := draw?_eq hseries hwidth hrows chart.ceiling
  refine ⟨bars, hdraw, ?_⟩
  rw [glyphs_eq hdraw]
  refine ⟨rfl, rfl, ?_, ?_, ?_, ?_, ?_⟩
  · exact map_char_get?_withTiers _ _
  · intro col row glyph hdata
    exact get?_withTiers_of_not_isData _ _ hdata
  · intro col row c tier
    exact get?_withTiers_eq_data_iff _ _
  · intro row hrow
    obtain ⟨c, hcell⟩ := exists_data_cell hdraw hrow
    exact ⟨_, c, (get?_withTiers_eq_data_iff _ _).mpr ⟨rfl, _, hcell⟩⟩
  · intro upper lower hle hlower
    exact rowTier_anti hword hle hlower

/-- A chart of two rows whose elevated threshold lies above the critical one. -/
def crossedChart : Chart where
  series := [100.0, 40.0]
  width := 2
  rows := 2
  ceiling := 100.0
  style := { thresholds := ⟨0.8, 0.5⟩ }

/-- Crossed thresholds keep the tiers in order: the upper row is critical, the lower one is
normal, and the cell left of the bars stays empty. -/
theorem rowTier_glyphs_crossedChart :
    crossedChart.series ≠ [] ∧ 0 < crossedChart.width ∧ 0 < crossedChart.rows ∧
      crossedChart.rows < UInt64.size ∧
      crossedChart.rowTier 1 ≤ crossedChart.rowTier 0 ∧
      crossedChart.glyphs.get? 0 1 = some Glyph.blank ∧
      (∃ c, crossedChart.glyphs.get? 1 0 = some ⟨c, .data .critical⟩) ∧
      ∃ c, crossedChart.glyphs.get? 1 1 = some ⟨c, .data .normal⟩ := by
  have hseries : crossedChart.series ≠ [] := List.cons_ne_nil _ _
  have hwidth : 0 < crossedChart.width := by decide
  have hrows : 0 < crossedChart.rows := by decide
  have hword : crossedChart.rows < UInt64.size := by decide
  have htiers : crossedChart.rowTier 0 = .critical ∧ crossedChart.rowTier 1 = .normal := by
    decide +kernel
  obtain ⟨bars, hdraw, -, -, -, hempty, hdata, -, hanti⟩ :=
    rowTier_glyphs hseries hwidth hrows hword
  have hgrid : bars.grid.get? 0 1 = some Glyph.blank ∧
      (∃ c, bars.grid.get? 1 0 = some ⟨c, .data .normal⟩) ∧
      ∃ c, bars.grid.get? 1 1 = some ⟨c, .data .normal⟩ := by
    refine ⟨?_, exists_data_cell hdraw (by decide), exists_data_cell hdraw (by decide)⟩
    rw [eq_of_draw? hdraw]
    decide +kernel
  obtain ⟨hblank, ⟨c, hupper⟩, d, hlower⟩ := hgrid
  refine ⟨hseries, hwidth, hrows, hword, hanti 0 1 (by decide) (by decide), ?_, ?_, ?_⟩
  · exact (hempty 0 1 Glyph.blank rfl).mpr hblank
  · exact ⟨c, (hdata 1 0 c _).mpr ⟨htiers.1.symm, _, hupper⟩⟩
  · exact ⟨d, (hdata 1 1 d _).mpr ⟨htiers.2.symm, _, hlower⟩⟩

end Chart

end Graph

end Dashboard
