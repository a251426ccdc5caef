import Dashboard.Graph.Overlay
import Mathlib.Algebra.GroupWithZero.Nat
import Mathlib.Data.List.Induction
import Mathlib.Data.Nat.Notation
import Mathlib.Tactic.ByContra

/-! # What overlays hide

Gridlines and markers respect the series: a cell with a lit dot keeps its glyph.
Labels do not look at what they are written over. So of the series exactly those
cells are hidden that a written label covers. -/

namespace Dashboard

/-- Whether a glyph shows a part of the series: a pattern with at least one dot. -/
def Glyph.isLit (glyph : Glyph) : Bool :=
  glyph.tone.isData && glyph.char != Glyph.blankChar

theorem Glyph.isBlank_of_isLit {glyph : Glyph} (h : glyph.isLit = true) :
    glyph.isBlank = false := by
  have hchar : glyph.char ≠ Glyph.blankChar := by
    simp only [isLit, Bool.and_eq_true, bne_iff_ne] at h
    exact h.2
  simp [isBlank, hchar]

namespace Graph

section Cell

variable {grid : Grid} {col row : ℕ} {glyph : Glyph}

/-! ## Gridlines and markers -/

theorem get?_drawGridline (h : grid.get? col row = some glyph) (hfull : glyph.isBlank = false)
    (columns : List ℕ) (line : ℕ) : (drawGridline columns grid line).get? col row = some glyph := by
  rw [drawGridline, Grid.get?_mapCells, h]
  simp [hfull]

theorem get?_drawMarker (h : grid.get? col row = some glyph) (hfull : glyph.isBlank = false)
    (column : ℕ) : (drawMarker grid column).get? col row = some glyph := by
  rw [drawMarker, Grid.get?_mapCells, h]
  simp [hfull]

theorem get?_marked (h : grid.get? col row = some glyph) (hfull : glyph.isBlank = false)
    (columns lines : List ℕ) :
    (columns.foldl drawMarker (lines.foldl (drawGridline columns) grid)).get? col row =
      some glyph := by
  have hruled : (lines.foldl (drawGridline columns) grid).get? col row = some glyph := by
    induction lines generalizing grid with
    | nil => exact h
    | cons line lines ih => exact ih (get?_drawGridline h hfull columns line)
  generalize lines.foldl (drawGridline columns) grid = ruled at hruled ⊢
  induction columns generalizing ruled with
  | nil => exact hruled
  | cons column columns ih => exact ih _ (get?_drawMarker hruled hfull column)

/-! ## Labels -/

/-- What a cell of a column shows after a label cell is written into its row. -/
def overwrite (col : ℕ) (shown : Glyph) (cell : ℕ × Glyph) : Glyph :=
  if cell.1 = col then cell.2 else shown

theorem get?_set_of_some (h : grid.get? col row = some glyph) (cell : ℕ × Glyph) (line : ℕ) :
    (grid.set cell.1 line cell.2).get? col row =
      some (if row = line then overwrite col glyph cell else glyph) := by
  have hin : col < grid.width ∧ row < grid.rows := by
    by_contra hout
    simp [Grid.get?, hout] at h
  rw [Grid.get?_set, h]
  by_cases hrow : row = line
  · subst hrow
    by_cases hcol : cell.1 = col
    · simp [overwrite, ← hcol, hcol ▸ hin.1, hin.2]
    · simp [overwrite, hcol, Ne.symm hcol]
  · simp [hrow]

/-- Seen from one cell, writing a row is overwriting that cell. -/
theorem get?_foldl_set (h : grid.get? col row = some glyph) (cells : List (ℕ × Glyph))
    (line : ℕ) :
    (cells.foldl (fun grid cell => grid.set cell.1 line cell.2) grid).get? col row =
      some (if row = line then cells.foldl (overwrite col) glyph else glyph) := by
  induction cells generalizing grid glyph with
  | nil => simp [h]
  | cons cell cells ih =>
      rw [List.foldl_cons, ih (get?_set_of_some h cell line)]
      split <;> rfl

end Cell

theorem foldl_overwrite_of_forall_ne {col : ℕ} {cells : List (ℕ × Glyph)}
    (h : ∀ cell ∈ cells, cell.1 ≠ col) (glyph : Glyph) :
    cells.foldl (overwrite col) glyph = glyph := by
  induction cells with
  | nil => rfl
  | cons cell cells ih =>
      simp only [List.mem_cons, forall_eq_or_imp] at h
      rw [List.foldl_cons, overwrite, if_neg h.1, ih h.2]

theorem mem_foldl_overwrite {col : ℕ} {cells : List (ℕ × Glyph)}
    (h : ∃ cell ∈ cells, cell.1 = col) (glyph : Glyph) :
    (col, cells.foldl (overwrite col) glyph) ∈ cells := by
  -- From the end: what is written last is what shows.
  induction cells using List.reverseRecOn with
  | nil => simp at h
  | append_singleton cells cell ih =>
      rw [List.foldl_append, List.foldl_cons, List.foldl_nil, overwrite]
      split
      · next hcol => simp [← hcol]
      · next hcol =>
        obtain ⟨own, hown, hcover⟩ := h
        rcases List.mem_append.mp hown with hmem | hmem
        · exact List.mem_append_left _ (ih ⟨own, hmem, hcover⟩)
        · rw [List.mem_singleton.mp hmem] at hcover
          exact absurd hcover hcol

namespace Label

/-- Columns that characters take one after the other. -/
def span (chars : List Char) : ℕ :=
  (chars.map fun c => (Text.charColumns? c).getD 0).sum

/-- Whether the characters of a label reach over a column. -/
def Covers (label : Label) (col : ℕ) : Prop :=
  label.start ≤ col ∧ col < label.start + span label.text.toList

instance (label : Label) (col : ℕ) : Decidable (label.Covers col) :=
  inferInstanceAs (Decidable (_ ∧ _))

theorem map_fst_cells (column : ℕ) (chars : List Char) :
    (cells column chars).map Prod.fst = List.range' column (span chars) := by
  induction chars generalizing column with
  | nil => rfl
  | cons c chars ih =>
      unfold cells
      split
      · next hnone => simp [ih, span, hnone]
      · next more hsome =>
        -- A wide character takes its own column and pads the ones behind it.
        have hspan : span (c :: chars) = more + span chars + 1 := by
          simp [span, hsome, Nat.add_right_comm]
        have hpad : ((List.range more).map fun i => (column + 1 + i, Glyph.continuation)).map
            Prod.fst = List.range' (column + 1) more := by
          rw [List.map_map, List.range'_eq_map_range]
          rfl
        rw [hspan, List.range'_succ, ← List.range'_append_1, List.cons_append, List.map_cons,
          List.map_append, hpad, ih]

theorem exists_mem_cells_iff (label : Label) (col : ℕ) :
    (∃ cell ∈ cells label.start label.text.toList, cell.1 = col) ↔ label.Covers col := by
  rw [← List.mem_map, map_fst_cells, List.mem_range'_1, Covers]

theorem tone_of_mem_cells {column : ℕ} {chars : List Char} {cell : ℕ × Glyph}
    (h : cell ∈ cells column chars) : cell.2.tone = .label := by
  induction chars generalizing column with
  | nil => simp [cells] at h
  | cons c chars ih =>
      unfold cells at h
      split at h
      · exact ih h
      · simp only [List.cons_append, List.mem_cons, List.mem_append, List.mem_map] at h
        rcases h with rfl | ⟨i, -, rfl⟩ | h
        · rfl
        · rfl
        · exact ih h

end Label

/-! ## Overlays -/

namespace Overlay

variable (overlay : Overlay)

/-- The labels that are written over the chart. -/
def written : List Label :=
  labels overlay.markers overlay.chart.glyphs.width

/-- The row they are written on. -/
def writtenRow : ℕ :=
  min (overlay.labelRow.getD (overlay.chart.glyphs.rows - 1)) (overlay.chart.glyphs.rows - 1)

/-- Whether a written label covers a cell. -/
def Covers (col row : ℕ) : Prop :=
  row = overlay.writtenRow ∧ ∃ label ∈ overlay.written, label.Covers col

instance (col row : ℕ) : Decidable (overlay.Covers col row) :=
  inferInstanceAs (Decidable (_ ∧ _))

/-- Cells of the written labels, in the order they are written. -/
def ink : List (ℕ × Glyph) :=
  overlay.written.flatMap fun label => Label.cells label.start label.text.toList

theorem foldl_write (grid : Grid) (row : ℕ) (labels : List Label) :
    labels.foldl (fun grid label => label.write grid row) grid =
      (labels.flatMap fun label => Label.cells label.start label.text.toList).foldl
        (fun grid cell => grid.set cell.1 row cell.2) grid := by
  rw [List.foldl_flatMap]
  rfl

theorem exists_mem_ink_iff (col : ℕ) :
    (∃ cell ∈ overlay.ink, cell.1 = col) ↔ ∃ label ∈ overlay.written, label.Covers col := by
  simp only [ink, List.mem_flatMap, ← Label.exists_mem_cells_iff]
  constructor
  · rintro ⟨cell, ⟨label, hlabel, hmem⟩, hcol⟩
    exact ⟨label, hlabel, cell, hmem, hcol⟩
  · rintro ⟨label, hlabel, cell, hmem, hcol⟩
    exact ⟨cell, ⟨label, hlabel, hmem⟩, hcol⟩

theorem get?_glyphs_eq {col row : ℕ} {glyph : Glyph}
    (hcell : overlay.chart.glyphs.get? col row = some glyph) (hlit : glyph.isLit = true) :
    overlay.glyphs.get? col row =
      some (if row = overlay.writtenRow then overlay.ink.foldl (overwrite col) glyph
        else glyph) := by
  have hfull : overlay.chart.glyphs.isEmpty = false := by
    by_contra hempty
    have hcells : overlay.chart.glyphs.cells = #[] := by
      simpa [Grid.isEmpty] using hempty
    simp [Grid.get?, hcells] at hcell
  -- Up to the labels the cell is as the chart drew it.
  have hmarked := get?_marked hcell (Glyph.isBlank_of_isLit hlit)
    (overlay.markers.filterMap fun marker => marker.column? overlay.chart.glyphs.width)
    (overlay.gridlines.filterMap fun percent =>
      gridlineRow? percent overlay.chart.glyphs.rows)
  simp only [glyphs, hfull, Bool.false_eq_true, if_false, foldl_write]
  exact get?_foldl_set hmarked _ _

/-- A lit cell of the chart is unchanged by gridlines, markers and labels exactly if
no label covers it; otherwise it shows a cell of a label. -/
theorem get?_glyphs_eq_iff_not_covers {col row : ℕ} {glyph : Glyph}
    (hcell : overlay.chart.glyphs.get? col row = some glyph) (hlit : glyph.isLit = true) :
    (overlay.glyphs.get? col row = some glyph ↔ ¬ overlay.Covers col row) ∧
      (overlay.Covers col row → ∃ label ∈ overlay.written, ∃ shown,
        (col, shown) ∈ Label.cells label.start label.text.toList ∧ shown.tone = .label ∧
          overlay.glyphs.get? col row = some shown) := by
  have hshown := overlay.get?_glyphs_eq hcell hlit
  have hcovered : overlay.Covers col row → ∃ label ∈ overlay.written, ∃ shown,
      (col, shown) ∈ Label.cells label.start label.text.toList ∧ shown.tone = .label ∧
        overlay.glyphs.get? col row = some shown := by
    rintro ⟨hrow, hcover⟩
    rw [if_pos hrow] at hshown
    have hmem := mem_foldl_overwrite ((overlay.exists_mem_ink_iff col).mpr hcover) glyph
    obtain ⟨label, hlabel, hmem⟩ := List.mem_flatMap.mp hmem
    exact ⟨label, hlabel, _, hmem, Label.tone_of_mem_cells hmem, hshown⟩
  refine ⟨⟨?_, ?_⟩, hcovered⟩
  · intro hsame hcovers
    obtain ⟨-, -, shown, -, htone, hover⟩ := hcovered hcovers
    obtain rfl : glyph = shown := Option.some.inj (hsame.symm.trans hover)
    simp [Glyph.isLit, htone, Tone.isData] at hlit
  · intro hfree
    rw [hshown]
    split
    · next hrow =>
      have hnone : ∀ cell ∈ overlay.ink, cell.1 ≠ col := by
        intro cell hmem hcol
        exact hfree ⟨hrow, (overlay.exists_mem_ink_iff col).mp ⟨cell, hmem, hcol⟩⟩
      rw [foldl_overwrite_of_forall_ne hnone]
    · rfl

/-- A full chart of one row with a gridline and a labelled marker in its middle. -/
def labelledPeak : Overlay where
  chart := { series := List.replicate 6 100.0, width := 3, rows := 1, ceiling := 100.0 }
  gridlines := [50.0]
  markers := [⟨0.5, some "x"⟩]

/-- The cell beside the label keeps its dots, the one below the label does not. -/
theorem get?_glyphs_labelledPeak :
    let full : Glyph := ⟨'⣿', .data .normal⟩
    labelledPeak.chart.glyphs.get? 0 0 = some full ∧
      labelledPeak.chart.glyphs.get? 1 0 = some full ∧ full.isLit = true ∧
      labelledPeak.glyphs.get? 0 0 = some full ∧ labelledPeak.glyphs.get? 1 0 ≠ some full := by
  intro full
  have hbeside : labelledPeak.chart.glyphs.get? 0 0 = some full := by decide +kernel
  have hbelow : labelledPeak.chart.glyphs.get? 1 0 = some full := by decide +kernel
  have hlit : full.isLit = true := by decide
  have hfree : ¬ labelledPeak.Covers 0 0 := by decide +kernel
  have hcovers : labelledPeak.Covers 1 0 := by decide +kernel
  refine ⟨hbeside, hbelow, hlit, ?_, ?_⟩
  · exact (get?_glyphs_eq_iff_not_covers labelledPeak hbeside hlit).1.mpr hfree
  · exact fun h => (get?_glyphs_eq_iff_not_covers labelledPeak hbelow hlit).1.mp h hcovers

/-- A label hides a part of the series. -/
theorem exists_get?_glyphs_ne :
    ¬ ∀ (overlay : Overlay) (col row : ℕ) (glyph : Glyph),
      overlay.chart.glyphs.get? col row = some glyph → glyph.isLit = true →
        overlay.glyphs.get? col row = some glyph := by
  intro h
  have hkept := h labelledPeak 1 0 ⟨'⣿', .data .normal⟩ (by decide +kernel) (by decide)
  have hshown : labelledPeak.glyphs.get? 1 0 = some ⟨'x', .label⟩ := by decide +kernel
  rw [hshown] at hkept
  exact absurd hkept (by decide)

end Overlay

end Graph

end Dashboard
