import Dashboard.Proofs.Graph.LineWidth
import Dashboard.Proofs.Graph.Visibility

/-! # Layers of an overlay

Gridlines are drawn one after the other over a chart, and markers over the gridlines. A pass
takes only cells that are still blank, so nothing is drawn over twice, and what a cell shows
is a rule about its row and its column. The order in which gridlines and markers are given,
and how often, has no part in it. -/

namespace Dashboard

namespace Graph

/-! ## Passes seen from one cell -/

section Passes

variable {α : Type}

theorem get?_foldl_mapCells (change : α → ℕ → ℕ → Glyph → Glyph) (passes : List α) (grid : Grid)
    (col row : ℕ) :
    (passes.foldl (fun grid pass => grid.mapCells (change pass)) grid).get? col row =
      (grid.get? col row).map fun glyph =>
        passes.foldl (fun glyph pass => change pass col row glyph) glyph := by
  induction passes generalizing grid with
  | nil => simp
  | cons pass passes ih =>
      rw [List.foldl_cons, ih, Grid.get?_mapCells, Option.map_map]
      rfl

/-- Of several passes that draw the same into a blank cell only the first one that reaches the
cell counts. -/
theorem foldl_draw_eq {draw : Glyph → Glyph}
    (hdraw : ∀ glyph, draw glyph = glyph ∨ (draw glyph).isBlank = false)
    (reaches : α → Prop) [DecidablePred reaches] (passes : List α) (glyph : Glyph) :
    passes.foldl
        (fun glyph pass => if reaches pass ∧ glyph.isBlank then draw glyph else glyph) glyph =
      if (∃ pass ∈ passes, reaches pass) ∧ glyph.isBlank then draw glyph else glyph := by
  induction passes generalizing glyph with
  | nil => simp
  | cons pass passes ih =>
      rw [List.foldl_cons]
      by_cases hreach : reaches pass ∧ glyph.isBlank
      · have hagain : (if (∃ other ∈ passes, reaches other) ∧ (draw glyph).isBlank
            then draw (draw glyph) else draw glyph) = draw glyph := by
          rcases hdraw glyph with hsame | hfull
          · rw [hsame, hsame, ite_self]
          · rw [if_neg (by simp [hfull])]
        rw [if_pos hreach, ih, hagain, if_pos ⟨⟨pass, List.mem_cons_self, hreach.1⟩, hreach.2⟩]
      · rw [if_neg hreach, ih]
        refine if_congr ?_ rfl rfl
        constructor
        · rintro ⟨⟨other, hmem, hother⟩, hblank⟩
          exact ⟨⟨other, List.mem_cons_of_mem _ hmem, hother⟩, hblank⟩
        · rintro ⟨⟨other, hmem, hother⟩, hblank⟩
          rcases List.mem_cons.mp hmem with rfl | hmem
          · exact absurd ⟨hother, hblank⟩ hreach
          · exact ⟨⟨other, hmem, hother⟩, hblank⟩

end Passes

/-- What a gridline puts into a blank cell of a column. -/
def lineGlyph (columns : List ℕ) (col : ℕ) (glyph : Glyph) : Glyph :=
  if col ∈ columns then ⟨crossChar, .grid⟩
  else if 2 ∣ col then ⟨lineChar, .grid⟩
  else glyph

theorem lineGlyph_eq_or_isBlank (columns : List ℕ) (col : ℕ) (glyph : Glyph) :
    lineGlyph columns col glyph = glyph ∨ (lineGlyph columns col glyph).isBlank = false := by
  unfold lineGlyph
  split
  · exact .inr rfl
  · split
    · exact .inr rfl
    · exact .inl rfl

theorem get?_foldl_drawGridline (columns lines : List ℕ) (grid : Grid) (col row : ℕ) :
    (lines.foldl (drawGridline columns) grid).get? col row =
      (grid.get? col row).map fun glyph =>
        if row ∈ lines ∧ glyph.isBlank then lineGlyph columns col glyph else glyph := by
  have hpass : drawGridline columns = fun grid line => grid.mapCells fun col row glyph =>
      if row = line ∧ glyph.isBlank then lineGlyph columns col glyph else glyph := by
    funext grid line
    simp only [drawGridline, lineGlyph, List.contains_iff_mem, Nat.dvd_iff_mod_eq_zero]
  rw [hpass, get?_foldl_mapCells]
  congr 1
  funext glyph
  rw [foldl_draw_eq (lineGlyph_eq_or_isBlank columns col)]
  simp

theorem get?_foldl_drawMarker (columns : List ℕ) (grid : Grid) (col row : ℕ) :
    (columns.foldl drawMarker grid).get? col row =
      (grid.get? col row).map fun glyph =>
        if (col ∈ columns ∧ 3 ∣ row) ∧ glyph.isBlank then ⟨tickChar, .marker⟩ else glyph := by
  have hpass : drawMarker = fun grid column => grid.mapCells fun col row glyph =>
      if (col = column ∧ 3 ∣ row) ∧ glyph.isBlank then ⟨tickChar, .marker⟩ else glyph := by
    funext grid column
    refine congrArg grid.mapCells ?_
    funext col row glyph
    exact if_congr (by simp only [tickDistance, Nat.dvd_iff_mod_eq_zero, and_assoc]) rfl rfl
  rw [hpass, get?_foldl_mapCells]
  congr 1
  funext glyph
  rw [foldl_draw_eq (fun _ => .inr rfl)]
  simp

/-! ## Where lines run -/

theorem isFinite_of_gridlineRow? {percent : Float} {rows row : ℕ}
    (h : gridlineRow? percent rows = some row) : percent.isFinite = true := by
  unfold gridlineRow? at h
  split at h
  · cases h
  · next hrow =>
    simp only [Bool.or_eq_true, not_or, Bool.not_eq_true', Bool.not_eq_false] at hrow
    exact hrow.1

theorem exists_gridlineRow? {percent : Float} {rows : ℕ} (hfinite : percent.isFinite = true)
    (hrows : 0 < rows) : ∃ row < rows, gridlineRow? percent rows = some row := by
  have hrow : ¬ (!percent.isFinite || decide (rows = 0)) = true := by
    simp [hfinite, Nat.pos_iff_ne_zero.mp hrows]
  refine ⟨_, ?_, by rw [gridlineRow?, if_neg hrow]⟩
  exact (Nat.sub_le _ _).trans_lt (Nat.sub_lt hrows Nat.one_pos)

theorem isFinite_of_column? {marker : Marker} {width column : ℕ}
    (h : marker.column? width = some column) : marker.position.isFinite = true := by
  unfold Marker.column? at h
  split at h
  · cases h
  · next hcolumn =>
    simp only [not_or, Bool.not_eq_true', Bool.not_eq_false] at hcolumn
    exact hcolumn.2

theorem exists_column? {marker : Marker} {width : ℕ}
    (hfinite : marker.position.isFinite = true) (hwidth : 0 < width) :
    ∃ column, marker.column? width = some column := by
  have hcolumn : ¬ (width = 0 ∨ (!marker.position.isFinite) = true) := by
    simp [hfinite, Nat.pos_iff_ne_zero.mp hwidth]
  exact ⟨_, by rw [Marker.column?, if_neg hcolumn]⟩

/-! ## Cells of a chart -/

theorem Chart.eq_blank_or_data {chart : Chart} {col row : ℕ} {glyph : Glyph}
    (h : chart.glyphs.get? col row = some glyph) :
    glyph = Glyph.blank ∨ ∃ c tier, glyph = ⟨c, .data tier⟩ := by
  unfold Chart.glyphs at h
  split at h
  · next bars hdraw =>
    obtain rfl := eq_of_draw? hdraw
    rw [withTiers, Grid.get?_mapCells, Option.map_eq_some_iff] at h
    obtain ⟨drawn, hdrawn, rfl⟩ := h
    rw [Bars.gridOfHeights, Grid.get?_tabulate] at hdrawn
    split at hdrawn
    · obtain rfl := Option.some.inj hdrawn
      split
      · exact .inl rfl
      · exact .inr ⟨_, _, rfl⟩
    · cases hdrawn
  · simp [Grid.none, Grid.get?, Grid.blank, Grid.tabulate] at h

theorem Chart.isBlank_eq_not_isLit {chart : Chart} {col row : ℕ} {glyph : Glyph}
    (h : chart.glyphs.get? col row = some glyph) : glyph.isBlank = !glyph.isLit := by
  rcases Chart.eq_blank_or_data h with rfl | ⟨c, tier, rfl⟩
  · rfl
  · simp [Glyph.isBlank, Glyph.isLit, Tone.isData, bne, beq_eq_decide]

namespace Overlay

variable (overlay : Overlay)

/-- Whether a gridline runs along a row. -/
def RuledAt (row : ℕ) : Prop :=
  ∃ percent ∈ overlay.gridlines,
    percent.isFinite = true ∧ gridlineRow? percent overlay.chart.rows = some row

/-- Whether a marker stands in a column. -/
def MarkedAt (col : ℕ) : Prop :=
  ∃ marker ∈ overlay.markers,
    marker.position.isFinite = true ∧ marker.column? overlay.chart.width = some col

instance (row : ℕ) : Decidable (overlay.RuledAt row) :=
  inferInstanceAs (Decidable (∃ _ ∈ _, _))

instance (col : ℕ) : Decidable (overlay.MarkedAt col) :=
  inferInstanceAs (Decidable (∃ _ ∈ _, _))

/-- What a cell shows in which the chart has a glyph, as long as no label is written over it. -/
def layered (col row : ℕ) (glyph : Glyph) : Glyph :=
  if glyph.isLit then glyph
  else if overlay.RuledAt row ∧ overlay.MarkedAt col then ⟨crossChar, .grid⟩
  else if overlay.RuledAt row ∧ 2 ∣ col then ⟨lineChar, .grid⟩
  else if overlay.MarkedAt col ∧ 3 ∣ row then ⟨tickChar, .marker⟩
  else glyph

theorem ruledAt_iff (row : ℕ) :
    overlay.RuledAt row ↔
      row ∈ overlay.gridlines.filterMap fun percent => gridlineRow? percent overlay.chart.rows := by
  rw [List.mem_filterMap]
  constructor
  · rintro ⟨percent, hmem, -, hrow⟩
    exact ⟨percent, hmem, hrow⟩
  · rintro ⟨percent, hmem, hrow⟩
    exact ⟨percent, hmem, isFinite_of_gridlineRow? hrow, hrow⟩

theorem markedAt_iff (col : ℕ) :
    overlay.MarkedAt col ↔
      col ∈ overlay.markers.filterMap fun marker => marker.column? overlay.chart.width := by
  rw [List.mem_filterMap]
  constructor
  · rintro ⟨marker, hmem, -, hcol⟩
    exact ⟨marker, hmem, hcol⟩
  · rintro ⟨marker, hmem, hcol⟩
    exact ⟨marker, hmem, isFinite_of_column? hcol, hcol⟩

theorem get?_unlabelled (hwidth : overlay.chart.glyphs.width = overlay.chart.width)
    (hrows : overlay.chart.glyphs.rows = overlay.chart.rows) (col row : ℕ) :
    overlay.unlabelled.get? col row =
      (overlay.chart.glyphs.get? col row).map (overlay.layered col row) := by
  simp only [unlabelled, hwidth, hrows]
  rw [get?_foldl_drawMarker, get?_foldl_drawGridline, Option.map_map]
  cases hcell : overlay.chart.glyphs.get? col row with
  | none => rfl
  | some glyph =>
      have hblank := Chart.isBlank_eq_not_isLit hcell
      have hcross : (⟨crossChar, .grid⟩ : Glyph).isBlank = false := rfl
      simp only [← ruledAt_iff, ← markedAt_iff, Option.map_some, Function.comp_apply, layered,
        lineGlyph, hblank]
      -- A row with a gridline keeps no blank cell in the column of a marker, so no tick.
      by_cases hlit : glyph.isLit
      · simp [hlit, hblank]
      · by_cases hruled : overlay.RuledAt row
        · by_cases hmarked : overlay.MarkedAt col
          · simp [hlit, hruled, hmarked, hcross]
          · simp [hlit, hruled, hmarked]
        · by_cases hmarked : overlay.MarkedAt col
          · simp [hlit, hblank, hruled, hmarked]
          · simp [hlit, hruled, hmarked]

theorem written_eq_nil (h : ∀ marker ∈ overlay.markers, marker.label = none) :
    overlay.written = [] := by
  have htexts : labelTexts overlay.markers overlay.chart.glyphs.width = [] := by
    dsimp only [labelTexts]
    rw [List.filterMap_eq_nil_iff.mpr, List.mergeSort_nil]
    intro marker hmem
    rw [h marker hmem]
    cases marker.column? overlay.chart.glyphs.width with
    | none => rfl
    | some column => rfl
  rw [written, labels, htexts]
  rfl

/-- Whether labels leave a row alone: it is not the row they are written on, or there are
none. -/
def LabelFree (row : ℕ) : Prop :=
  row ≠ overlay.writtenRow ∨ ∀ marker ∈ overlay.markers, marker.label = none

instance (row : ℕ) : Decidable (overlay.LabelFree row) :=
  inferInstanceAs (Decidable (_ ∨ _))

theorem get?_glyphs_of_labelFree (hfull : overlay.chart.glyphs.isEmpty = false) {row : ℕ}
    (hfree : overlay.LabelFree row) (col : ℕ) :
    overlay.glyphs.get? col row = overlay.unlabelled.get? col row := by
  rw [← Grid.getElem?_row, ← Grid.getElem?_row, row_glyphs hfull]
  rcases hfree with hother | hnone
  · rw [if_neg hother]
  · rw [written_eq_nil overlay hnone, List.foldl_nil, ite_self]

theorem layered_congr {other : Overlay} (hchart : other.chart = overlay.chart)
    (hgridlines : ∀ percent, percent ∈ other.gridlines ↔ percent ∈ overlay.gridlines)
    (hmarkers : ∀ marker, marker ∈ other.markers ↔ marker ∈ overlay.markers) :
    other.layered = overlay.layered := by
  funext col row glyph
  have hruled : other.RuledAt row ↔ overlay.RuledAt row := by
    simp only [RuledAt, hchart, hgridlines]
  have hmarked : other.MarkedAt col ↔ overlay.MarkedAt col := by
    simp only [MarkedAt, hchart, hmarkers]
  refine if_congr Iff.rfl rfl (if_congr ?_ rfl (if_congr ?_ rfl (if_congr ?_ rfl rfl)))
  · rw [hruled, hmarked]
  · rw [hruled]
  · rw [hmarked]

/-- Away from labels, a cell of an overlay over a chart is decided by the chart, by whether a
gridline runs along its row and by whether a marker stands in its column. In particular it
does not depend on the order of the gridlines and the markers, nor on repetitions. -/
theorem get?_glyphs_eq_layered (overlay : Overlay) (hseries : overlay.chart.series ≠ [])
    (hwidth : 0 < overlay.chart.width) (hrows : 0 < overlay.chart.rows) :
    (∀ col < overlay.chart.width, ∀ row < overlay.chart.rows, overlay.LabelFree row →
      ∃ glyph, overlay.chart.glyphs.get? col row = some glyph ∧
        overlay.glyphs.get? col row = some (overlay.layered col row glyph)) ∧
    (∀ percent ∈ overlay.gridlines, percent.isFinite = true →
      ∃ row < overlay.chart.rows, overlay.RuledAt row) ∧
    (∀ marker ∈ overlay.markers, marker.position.isFinite = true →
      ∃ col, overlay.MarkedAt col) ∧
    ∀ gridlines markers, (∀ percent, percent ∈ gridlines ↔ percent ∈ overlay.gridlines) →
      (∀ marker, marker ∈ markers ↔ marker ∈ overlay.markers) →
        ∀ col row, overlay.LabelFree row →
          { overlay with gridlines, markers }.glyphs.get? col row =
            overlay.glyphs.get? col row := by
  have hplot := isPlot_chart hseries hwidth hrows
  have hfull := isEmpty_eq_false hplot hwidth hrows
  refine ⟨?_, ?_, ?_, ?_⟩
  · intro col hcol row hrow hfree
    have hlt := (Grid.lt_length_row_iff overlay.chart.glyphs col row).mpr
      ⟨hplot.width_eq ▸ hcol, hplot.rows_eq ▸ hrow⟩
    have hcell := List.getElem?_eq_getElem hlt
    rw [Grid.getElem?_row] at hcell
    refine ⟨_, hcell, ?_⟩
    rw [get?_glyphs_of_labelFree overlay hfull hfree,
      get?_unlabelled overlay hplot.width_eq hplot.rows_eq, hcell, Option.map_some]
  · intro percent hmem hfinite
    obtain ⟨row, hrow, hline⟩ := exists_gridlineRow? hfinite hrows
    exact ⟨row, hrow, percent, hmem, hfinite, hline⟩
  · intro marker hmem hfinite
    obtain ⟨col, hcol⟩ := exists_column? hfinite hwidth
    exact ⟨col, marker, hmem, hfinite, hcol⟩
  · intro gridlines markers hgridlines hmarkers col row hfree
    let other : Overlay := { overlay with gridlines, markers }
    have hother : other.LabelFree row := by
      refine hfree.imp id fun hnone marker hmem => ?_
      exact hnone marker ((hmarkers marker).mp hmem)
    have hlayered : other.layered = overlay.layered :=
      layered_congr overlay rfl hgridlines hmarkers
    calc other.glyphs.get? col row = other.unlabelled.get? col row :=
          get?_glyphs_of_labelFree other hfull hother col
      _ = (overlay.chart.glyphs.get? col row).map (other.layered col row) :=
          get?_unlabelled other hplot.width_eq hplot.rows_eq col row
      _ = overlay.unlabelled.get? col row := by
          rw [hlayered, get?_unlabelled overlay hplot.width_eq hplot.rows_eq]
      _ = overlay.glyphs.get? col row :=
          (get?_glyphs_of_labelFree overlay hfull hfree col).symm

/-- One full bar at the right edge of four rows, with a gridline given twice and two markers in
one column. -/
def crossedLines : Overlay where
  chart := { series := [100.0], width := 3, rows := 4, ceiling := 100.0 }
  gridlines := [50.0, 50.0]
  markers := [⟨0.5, some "x"⟩, ⟨0.5, none⟩]

/-- The gridline crosses the markers once, however they are listed. -/
theorem get?_glyphs_crossedLines :
    crossedLines.chart.series ≠ [] ∧ 0 < crossedLines.chart.width ∧
      0 < crossedLines.chart.rows ∧ crossedLines.LabelFree 1 ∧
      crossedLines.glyphs.get? 1 1 = some ⟨'┼', .grid⟩ ∧
      { crossedLines with
        gridlines := [50.0]
        markers := [⟨0.5, none⟩, ⟨0.5, some "x"⟩] }.glyphs.get? 1 1 = some ⟨'┼', .grid⟩ := by
  have hseries : crossedLines.chart.series ≠ [] := List.cons_ne_nil _ _
  have hwidth : 0 < crossedLines.chart.width := by decide
  have hrows : 0 < crossedLines.chart.rows := by decide
  have hfree : crossedLines.LabelFree 1 := by decide +kernel
  obtain ⟨hcell, -, -, hlisted⟩ := get?_glyphs_eq_layered crossedLines hseries hwidth hrows
  obtain ⟨glyph, hchart, hshown⟩ := hcell 1 (by decide) 1 (by decide) hfree
  have hblank : crossedLines.chart.glyphs.get? 1 1 = some Glyph.blank := by decide +kernel
  have hcross : crossedLines.layered 1 1 Glyph.blank = ⟨'┼', .grid⟩ := by decide +kernel
  obtain rfl : Glyph.blank = glyph := Option.some.inj (hblank.symm.trans hchart)
  rw [hcross] at hshown
  refine ⟨hseries, hwidth, hrows, hfree, hshown, ?_⟩
  rw [hlisted [50.0] [⟨0.5, none⟩, ⟨0.5, some "x"⟩] ?_ ?_ 1 1 hfree, hshown]
  · intro percent
    simp [crossedLines]
  · intro marker
    simp [crossedLines, or_comm]

end Overlay

end Graph

end Dashboard
