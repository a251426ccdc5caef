import Dashboard.Proofs.Graph.DotMatrix
import Dashboard.Proofs.Graph.Occlusion

/-! # Columns of printed lines

A chart with gridlines and markers has one column to a cell. A label brings wide
characters, each with continuations in the cells behind it. So a printed row keeps its
width as long as characters and continuations stay together. They are separated where a
label is drawn in more columns than are kept free for it, and so runs into the next label
or over the edge. -/

namespace Dashboard

namespace Glyph

/-- Columns a glyph takes in a printed row. -/
def columns (glyph : Glyph) : ℕ :=
  if glyph.isContinuation then 0 else (Text.charColumns? glyph.char).getD 0

/-- Whether a glyph takes the one column of its cell. -/
def IsNarrow (glyph : Glyph) : Prop :=
  Text.charColumns? glyph.char = some 1

/-- Whether a glyph takes a column if it is printed. -/
def TakesColumns (glyph : Glyph) : Prop :=
  glyph.isContinuation = false → 0 < glyph.columns

theorem isContinuation_eq_false {glyph : Glyph} {more : ℕ}
    (h : Text.charColumns? glyph.char = some more) : glyph.isContinuation = false := by
  rw [isContinuation, decide_eq_false_iff_not]
  rintro rfl
  exact absurd h (by decide +revert)

theorem columns_eq {glyph : Glyph} {more : ℕ}
    (h : Text.charColumns? glyph.char = some more) : glyph.columns = more := by
  simp [columns, isContinuation_eq_false h, h]

theorem takesColumns_of_isNarrow {glyph : Glyph} (h : glyph.IsNarrow) : glyph.TakesColumns := by
  intro _
  rw [columns_eq h]
  exact Nat.one_pos

theorem char_ne_newline {glyph : Glyph} (h : glyph.TakesColumns)
    (hprinted : glyph.isContinuation = false) : glyph.char ≠ '\n' := by
  intro hchar
  have hpos := h hprinted
  rw [columns, hprinted, hchar] at hpos
  exact absurd hpos (by decide)

@[simp] theorem columns_continuation : continuation.columns = 0 := rfl

end Glyph

namespace Graph

/-! ## Rows -/

/-- Columns of a printed row. -/
def rowColumns (row : List Glyph) : ℕ :=
  (row.map Glyph.columns).sum

@[simp] theorem rowColumns_nil : rowColumns [] = 0 := rfl

@[simp] theorem rowColumns_cons (glyph : Glyph) (row : List Glyph) :
    rowColumns (glyph :: row) = glyph.columns + rowColumns row := rfl

@[simp] theorem rowColumns_append (left right : List Glyph) :
    rowColumns (left ++ right) = rowColumns left + rowColumns right := by
  simp [rowColumns]

theorem span_printed (row : List Glyph) :
    Label.span ((Grid.printed row).map Glyph.char) = rowColumns row := by
  induction row with
  | nil => rfl
  | cons glyph row ih =>
      rw [rowColumns_cons, ← ih, Glyph.columns, Grid.printed, List.filter_cons]
      cases glyph.isContinuation with
      | true => simp [Grid.printed]
      | false => simp [Grid.printed, Label.span]

theorem rowColumns_of_isNarrow {row : List Glyph} (h : ∀ glyph ∈ row, glyph.IsNarrow) :
    rowColumns row = row.length := by
  induction row with
  | nil => rfl
  | cons glyph row ih =>
      simp only [List.mem_cons, forall_eq_or_imp] at h
      rw [rowColumns_cons, Glyph.columns_eq h.1, ih h.2, List.length_cons, Nat.add_comm]

/-- Columns that the shown wide characters of a row lack, where `due` continuations are
still missing from the character before. -/
def lacking (due : ℕ) : List Glyph → ℕ
  | [] => due
  | glyph :: row =>
    if glyph.isContinuation then lacking (due - 1) row
    else due + lacking (glyph.columns - 1) row

/-- Continuations of a row that no longer stand behind their character. -/
def stray (due : ℕ) : List Glyph → ℕ
  | [] => 0
  | glyph :: row =>
    if glyph.isContinuation then (if due = 0 then 1 else 0) + stray (due - 1) row
    else stray (glyph.columns - 1) row

/-- A row is printed wider by what its characters lack, and narrower by its stray
continuations. -/
theorem rowColumns_add_stray {row : List Glyph}
    (h : ∀ glyph ∈ row, glyph.TakesColumns) (due : ℕ) :
    due + rowColumns row + stray due row = row.length + lacking due row := by
  induction row generalizing due with
  | nil => simp [stray, lacking]
  | cons glyph row ih =>
      simp only [List.mem_cons, forall_eq_or_imp] at h
      rw [rowColumns_cons, List.length_cons, stray, lacking]
      -- A continuation pays a column that is due; a character leaves what is due unpaid.
      cases hcontinuation : glyph.isContinuation with
      | true =>
          have hcolumns : glyph.columns = 0 := by simp [Glyph.columns, hcontinuation]
          have hrest := ih h.2 (due - 1)
          simp only [if_true]
          split <;> omega
      | false =>
          have hcolumns := h.1 hcontinuation
          have hrest := ih h.2 (glyph.columns - 1)
          simp only [Bool.false_eq_true, if_false]
          omega

/-! ## Labels on a row -/

namespace Label

/-- The column after the drawn characters of a label. -/
def reach (label : Label) : ℕ :=
  label.start + span label.text.toList

/-- A row with a label written into it. -/
def inscribe (label : Label) (row : List Glyph) : List Glyph :=
  (cells label.start label.text.toList).foldl (fun row cell => row.set cell.1 cell.2) row

theorem row_foldl_set (grid : Grid) (cells : List (ℕ × Glyph)) (row line : ℕ) :
    (cells.foldl (fun grid cell => grid.set cell.1 line cell.2) grid).row row =
      if row = line then cells.foldl (fun row cell => row.set cell.1 cell.2) (grid.row row)
      else grid.row row := by
  induction cells generalizing grid with
  | nil => simp
  | cons cell cells ih =>
      rw [List.foldl_cons, ih, Grid.row_set]
      split <;> rfl

theorem row_write (grid : Grid) (row line : ℕ) (label : Label) :
    (label.write grid line).row row =
      if row = line then label.inscribe (grid.row row) else grid.row row :=
  row_foldl_set grid _ row line

theorem foldl_set_eq {column : ℕ} {cells : List (ℕ × Glyph)} {row : List Glyph}
    (hcells : cells.map Prod.fst = List.range' column cells.length)
    (hfit : column + cells.length ≤ row.length) :
    cells.foldl (fun row cell => row.set cell.1 cell.2) row =
      row.take column ++ cells.map Prod.snd ++ row.drop (column + cells.length) := by
  induction cells generalizing column row with
  | nil => simp
  | cons cell cells ih =>
      rw [List.map_cons, List.length_cons, List.range'_succ] at hcells
      obtain ⟨hcolumn, hcells⟩ := List.cons.inj hcells
      rw [List.length_cons] at hfit
      have hlt : column < row.length := by omega
      have hrest : column + 1 + cells.length ≤ (row.set column cell.2).length := by
        rw [List.length_set]
        omega
      have htake : (row.set column cell.2).take (column + 1) = row.take column ++ [cell.2] := by
        rw [List.take_add_one, List.take_set_of_le (Nat.le_refl column),
          List.getElem?_set_self hlt, Option.toList_some]
      have hdrop : (row.set column cell.2).drop (column + 1 + cells.length) =
          row.drop (column + (cells.length + 1)) := by
        rw [List.drop_set_of_lt (by omega), Nat.add_right_comm, Nat.add_assoc]
      rw [List.foldl_cons, hcolumn, ih hcells hrest, htake, hdrop]
      simp

theorem length_cells (column : ℕ) (chars : List Char) :
    (cells column chars).length = span chars := by
  simpa using congrArg List.length (map_fst_cells column chars)

/-- A label takes exactly the part of the row that its characters reach over. -/
theorem inscribe_eq {label : Label} {row : List Glyph} (h : label.reach ≤ row.length) :
    label.inscribe row =
      row.take label.start ++ (cells label.start label.text.toList).map Prod.snd ++
        row.drop label.reach := by
  have hcells := map_fst_cells label.start label.text.toList
  rw [reach, ← length_cells label.start] at h
  rw [← length_cells label.start] at hcells
  rw [reach, ← length_cells label.start]
  exact foldl_set_eq hcells h

theorem charColumns?_of_getD {c : Char} {more : ℕ}
    (h : (Text.charColumns? c).getD 0 = more + 1) : Text.charColumns? c = some (more + 1) := by
  cases hcolumns : Text.charColumns? c with
  | none => simp [hcolumns] at h
  | some columns =>
      rw [hcolumns, Option.getD_some] at h
      rw [h]

theorem rowColumns_cells (column : ℕ) (chars : List Char) :
    rowColumns ((cells column chars).map Prod.snd) = span chars := by
  induction chars generalizing column with
  | nil => rfl
  | cons c chars ih =>
      unfold cells
      split
      · next hnone => simp [ih, span, hnone]
      · next more hsome =>
        have hspan : span (c :: chars) = more + 1 + span chars := by simp [span, hsome]
        have hcolumns : (⟨c, .label⟩ : Glyph).columns = more + 1 :=
          Glyph.columns_eq (charColumns?_of_getD hsome)
        have hpad : rowColumns (((List.range more).map fun i =>
            (column + 1 + i, Glyph.continuation)).map Prod.snd) = 0 := by
          simp [rowColumns, Function.comp_def, List.map_const']
        rw [List.cons_append, List.map_cons, List.map_append, rowColumns_cons,
          rowColumns_append, hcolumns, hpad, ih, hspan]
        omega

theorem takesColumns_of_mem_cells {column : ℕ} {chars : List Char} {cell : ℕ × Glyph}
    (h : cell ∈ cells column chars) : cell.2.TakesColumns := by
  induction chars generalizing column with
  | nil => simp [cells] at h
  | cons c chars ih =>
      unfold cells at h
      split at h
      · exact ih h
      · next more hsome =>
        simp only [List.cons_append, List.mem_cons, List.mem_append, List.mem_map] at h
        rcases h with rfl | ⟨i, -, rfl⟩ | h
        · intro _
          rw [Glyph.columns_eq (charColumns?_of_getD hsome)]
          exact Nat.succ_pos more
        · intro hprinted
          simp [Glyph.isContinuation] at hprinted
        · exact ih h

theorem length_inscribe (label : Label) (row : List Glyph) :
    (label.inscribe row).length = row.length := by
  unfold inscribe
  induction cells label.start label.text.toList generalizing row with
  | nil => rfl
  | cons cell cells ih => rw [List.foldl_cons, ih, List.length_set]

theorem mem_inscribe {label : Label} {row : List Glyph} {glyph : Glyph}
    (h : glyph ∈ label.inscribe row) :
    glyph ∈ row ∨ ∃ cell ∈ cells label.start label.text.toList, cell.2 = glyph := by
  unfold inscribe at h
  generalize cells label.start label.text.toList = inked at h ⊢
  induction inked generalizing row with
  | nil => exact .inl h
  | cons cell inked ih =>
      rcases ih h with hmem | ⟨own, hown, hglyph⟩
      · rcases List.mem_or_eq_of_mem_set hmem with hmem | rfl
        · exact .inl hmem
        · exact .inr ⟨cell, List.mem_cons_self, rfl⟩
      · exact .inr ⟨own, List.mem_cons_of_mem _ hown, hglyph⟩

end Label

/-- Columns stay as many as cells while labels are written one behind the other: in front
stands what is already written over, behind it what the chart and its lines have drawn. -/
theorem rowColumns_foldl_inscribe {labels : List Label} {front back : List Glyph}
    (hfront : rowColumns front = front.length) (hback : ∀ glyph ∈ back, glyph.IsNarrow)
    (hstart : ∀ label ∈ labels, front.length ≤ label.start)
    (hreach : ∀ label ∈ labels, label.reach ≤ (front ++ back).length)
    (hapart : labels.Pairwise fun left right => left.reach ≤ right.start) :
    rowColumns (labels.foldl (fun row label => label.inscribe row) (front ++ back)) =
      (front ++ back).length := by
  induction labels generalizing front back with
  | nil =>
      rw [List.foldl_nil, rowColumns_append, hfront, rowColumns_of_isNarrow hback,
        List.length_append]
  | cons label labels ih =>
      simp only [List.mem_cons, forall_eq_or_imp] at hstart hreach
      obtain ⟨hbehind, hapart⟩ := List.pairwise_cons.mp hapart
      -- With the label written, the part up to its end stands in front of the next ones.
      let inked := (Label.cells label.start label.text.toList).map Prod.snd
      let gap := label.start - front.length
      let done := front ++ back.take gap ++ inked
      let rest := back.drop (label.reach - front.length)
      have hspan : label.reach = label.start + Label.span label.text.toList := rfl
      have hwritten : label.inscribe (front ++ back) = done ++ rest := by
        rw [Label.inscribe_eq hreach.1, List.take_append, List.drop_append,
          List.take_of_length_le hstart.1, List.drop_eq_nil_of_le (by omega), List.nil_append]
      have hlength : (done ++ rest).length = (front ++ back).length := by
        rw [← hwritten, Label.length_inscribe]
      have hinked : inked.length = Label.span label.text.toList := by
        rw [List.length_map, Label.length_cells]
      have hgap : (back.take gap).length = gap := by
        have hfit := hreach.1
        rw [List.length_append] at hfit
        exact List.length_take_of_le (by omega)
      have hdone : done.length = label.reach := by
        simp only [done, List.length_append, hgap, hinked]
        omega
      have hcolumns : rowColumns done = done.length := by
        have hdrawn : ∀ glyph ∈ back.take gap, glyph.IsNarrow :=
          fun glyph hmem => hback glyph (List.mem_of_mem_take hmem)
        simp only [done, rowColumns_append, List.length_append, hfront,
          rowColumns_of_isNarrow hdrawn, hinked]
        rw [Label.rowColumns_cells]
      rw [List.foldl_cons, hwritten, ← hlength]
      refine ih hcolumns ?_ ?_ ?_ hapart
      · exact fun glyph hmem => hback glyph (List.mem_of_mem_drop hmem)
      · exact fun next hmem => hdone ▸ hbehind next hmem
      · exact fun next hmem => hlength ▸ hreach.2 next hmem

/-! ## Charts -/

/-- A grid of a size whose cells take one column each. -/
structure IsPlot (grid : Grid) (width rows : ℕ) : Prop where
  width_eq : grid.width = width
  rows_eq : grid.rows = rows
  isNarrow : ∀ col row glyph, grid.get? col row = some glyph → glyph.IsNarrow

theorem IsPlot.mapCells {grid : Grid} {width rows : ℕ} (h : IsPlot grid width rows)
    {change : ℕ → ℕ → Glyph → Glyph}
    (hchange : ∀ col row glyph, glyph.IsNarrow → (change col row glyph).IsNarrow) :
    IsPlot (grid.mapCells change) width rows where
  width_eq := h.width_eq
  rows_eq := h.rows_eq
  isNarrow := by
    intro col row glyph hcell
    rw [Grid.get?_mapCells, Option.map_eq_some_iff] at hcell
    obtain ⟨own, hown, rfl⟩ := hcell
    exact hchange col row own (h.isNarrow col row own hown)

theorem inRanges_eq_false {ranges : List (ℕ × ℕ)} (low high : ℕ) {c : Char}
    (hranges : ∀ range ∈ ranges, range.2 < low ∨ high < range.1) (hlow : low ≤ c.toNat)
    (hhigh : c.toNat ≤ high) : Text.inRanges ranges c = false := by
  simp only [Text.inRanges, List.any_eq_false, Bool.and_eq_true, decide_eq_true_eq, not_and]
  intro range hmem hfirst hlast
  rcases hranges range hmem with h | h
  · omega
  · omega

/-- Characters of a block take one column if no range of the tables meets it. -/
theorem charColumns?_eq_one {c : Char} (low high : ℕ) (hblock : 0x17D8 < low)
    (hzero : ∀ range ∈ Text.zeroColumnRanges, range.2 < low ∨ high < range.1)
    (hwide : ∀ range ∈ Text.wideRanges, range.2 < low ∨ high < range.1)
    (hlow : low ≤ c.toNat) (hhigh : c.toNat ≤ high) : Text.charColumns? c = some 1 := by
  have hnarrow := inRanges_eq_false low high hwide hlow hhigh
  have hfull := inRanges_eq_false low high hzero hlow hhigh
  simp only [Text.charColumns?, hfull, hnarrow, Bool.false_eq_true, if_false]
  rw [if_neg (by omega), if_neg (by omega), if_neg (by omega), if_neg (by omega)]

theorem charColumns?_braille {bits : ℕ} (h : bits < 2 ^ 8) :
    Text.charColumns? (braille bits) = some 1 := by
  have hblank : Glyph.blankChar.toNat = 0x2800 := rfl
  have hcode : (braille bits).toNat = 0x2800 + bits := by rw [toNat_braille h, hblank]
  exact charColumns?_eq_one 0x2800 0x28FF (by omega) (by decide +kernel) (by decide +kernel)
    (by omega) (by omega)

/-- Line segments stand in one block of characters. -/
theorem charColumns?_segment {c : Char} (hlow : 0x2500 ≤ c.toNat) (hhigh : c.toNat ≤ 0x257F) :
    Text.charColumns? c = some 1 :=
  charColumns?_eq_one 0x2500 0x257F (by omega) (by decide +kernel) (by decide +kernel) hlow hhigh

theorem isPlot_gridOfHeights (heights : Array ℕ) (width rows : ℕ) :
    IsPlot (Bars.gridOfHeights heights width rows) width rows where
  width_eq := rfl
  rows_eq := rfl
  isNarrow := by
    intro col row glyph hcell
    rw [Bars.gridOfHeights, Grid.get?_tabulate] at hcell
    split at hcell
    · obtain rfl := Option.some.inj hcell
      split
      · have hblank : Text.charColumns? (braille 0) = some 1 := charColumns?_braille (by decide)
        exact hblank
      · exact charColumns?_braille (bits_lt _ _ _)
    · cases hcell

theorem isPlot_chart {chart : Chart} (hseries : chart.series ≠ []) (hwidth : 0 < chart.width)
    (hrows : 0 < chart.rows) : IsPlot chart.glyphs chart.width chart.rows := by
  obtain ⟨bars, hdraw, hgrid⟩ := draw?_eq hseries hwidth hrows chart.ceiling
  rw [Chart.glyphs, hdraw]
  refine IsPlot.mapCells ?_ ?_
  · rw [hgrid]
    exact isPlot_gridOfHeights _ _ _
  · intro _ row glyph hnarrow
    split
    · exact hnarrow
    · exact hnarrow

theorem IsPlot.drawGridline {grid : Grid} {width rows : ℕ} (h : IsPlot grid width rows)
    (columns : List ℕ) (line : ℕ) : IsPlot (drawGridline columns grid line) width rows := by
  refine h.mapCells ?_
  intro col row glyph hnarrow
  split
  · split
    · exact charColumns?_segment (by decide) (by decide)
    · split
      · exact charColumns?_segment (by decide) (by decide)
      · exact hnarrow
  · exact hnarrow

theorem IsPlot.drawMarker {grid : Grid} {width rows : ℕ} (h : IsPlot grid width rows)
    (column : ℕ) : IsPlot (drawMarker grid column) width rows := by
  refine h.mapCells ?_
  intro col row glyph hnarrow
  split
  · exact charColumns?_segment (by decide) (by decide)
  · exact hnarrow

namespace Overlay

variable (overlay : Overlay)

/-- The chart with its gridlines and markers, before labels are written. -/
def unlabelled : Grid :=
  let columns := overlay.markers.filterMap fun marker =>
    marker.column? overlay.chart.glyphs.width
  let lines := overlay.gridlines.filterMap fun percent =>
    gridlineRow? percent overlay.chart.glyphs.rows
  columns.foldl drawMarker (lines.foldl (drawGridline columns) overlay.chart.glyphs)

theorem glyphs_eq (hfull : overlay.chart.glyphs.isEmpty = false) :
    overlay.glyphs = overlay.written.foldl
      (fun grid label => label.write grid overlay.writtenRow) overlay.unlabelled := by
  simp only [glyphs, hfull, Bool.false_eq_true, if_false]
  rfl

variable {overlay}

theorem isPlot_unlabelled {width rows : ℕ} (h : IsPlot overlay.chart.glyphs width rows) :
    IsPlot overlay.unlabelled width rows := by
  refine List.foldlRecOn (motive := fun grid => IsPlot grid width rows) _ _ ?_ ?_
  · refine List.foldlRecOn (motive := fun grid => IsPlot grid width rows) _ _ h ?_
    exact fun grid hplot line _ => hplot.drawGridline _ line
  · exact fun grid hplot column _ => hplot.drawMarker column

theorem isEmpty_eq_false {grid : Grid} {width rows : ℕ} (h : IsPlot grid width rows)
    (hwidth : 0 < width) (hrows : 0 < rows) : grid.isEmpty = false := by
  have hsize : 0 < grid.cells.size := by
    rw [grid.size_eq, h.width_eq, h.rows_eq]
    exact Nat.mul_pos hwidth hrows
  rw [Grid.isEmpty, Array.isEmpty_eq_false_iff]
  exact Array.size_pos_iff.mp hsize

theorem rows_set (grid : Grid) (col row : ℕ) (glyph : Glyph) :
    (grid.set col row glyph).rows = grid.rows := by
  unfold Grid.set
  split <;> rfl

theorem rows_write (grid : Grid) (row : ℕ) (label : Label) :
    (label.write grid row).rows = grid.rows := by
  unfold Label.write
  refine List.foldlRecOn (motive := fun written : Grid => written.rows = grid.rows) _ _ rfl ?_
  exact fun written hrows cell _ => (rows_set written cell.1 row cell.2).trans hrows

theorem rows_glyphs (hfull : overlay.chart.glyphs.isEmpty = false) :
    overlay.glyphs.rows = overlay.unlabelled.rows := by
  rw [glyphs_eq overlay hfull]
  refine List.foldlRecOn
    (motive := fun grid : Grid => grid.rows = overlay.unlabelled.rows) _ _ rfl ?_
  exact fun grid hrows label _ => (rows_write grid _ label).trans hrows

theorem row_foldl_write (labels : List Label) (grid : Grid) (row line : ℕ) :
    (labels.foldl (fun grid label => label.write grid line) grid).row row =
      if row = line then labels.foldl (fun row label => label.inscribe row) (grid.row row)
      else grid.row row := by
  induction labels generalizing grid with
  | nil => simp
  | cons label labels ih =>
      rw [List.foldl_cons, ih, Label.row_write]
      split <;> rfl

variable {width rows : ℕ}

theorem row_glyphs (hfull : overlay.chart.glyphs.isEmpty = false) (row : ℕ) :
    overlay.glyphs.row row =
      if row = overlay.writtenRow then
        overlay.written.foldl (fun row label => label.inscribe row) (overlay.unlabelled.row row)
      else overlay.unlabelled.row row := by
  rw [glyphs_eq overlay hfull, row_foldl_write]

end Overlay

theorem IsPlot.isNarrow_of_mem_row {grid : Grid} {width rows row : ℕ}
    (h : IsPlot grid width rows) {glyph : Glyph} (hmem : glyph ∈ grid.row row) :
    glyph.IsNarrow := by
  obtain ⟨col, hcell⟩ := List.mem_iff_getElem?.mp hmem
  rw [Grid.getElem?_row] at hcell
  exact h.isNarrow col row glyph hcell

namespace Overlay

theorem mem_foldl_inscribe {labels : List Label} {row : List Glyph}
    (hrow : ∀ glyph ∈ row, glyph.TakesColumns) :
    ∀ glyph ∈ labels.foldl (fun row label => label.inscribe row) row, glyph.TakesColumns := by
  refine List.foldlRecOn
    (motive := fun row : List Glyph => ∀ glyph ∈ row, glyph.TakesColumns) _ _ hrow ?_
  intro row hrow label _ glyph hmem
  rcases Label.mem_inscribe hmem with hmem | ⟨cell, hcell, rfl⟩
  · exact hrow glyph hmem
  · exact Label.takesColumns_of_mem_cells hcell

end Overlay

/-- The lines of a plain text are the printed rows. -/
theorem splitOn_plainText {grid : Grid} (hrows : 0 < grid.rows)
    (h : ∀ row, ∀ glyph ∈ grid.row row, glyph.TakesColumns) :
    grid.plainText.toList.splitOn '\n' =
      grid.rowList.map fun row => (Grid.printed row).map Glyph.char := by
  have hlines : ∀ line ∈ grid.rowList.map fun row => (Grid.printed row).map Glyph.char,
      '\n' ∉ line := by
    intro line hline hmem
    obtain ⟨row, hrow, rfl⟩ := List.mem_map.mp hline
    obtain ⟨r, -, rfl⟩ := List.mem_map.mp hrow
    obtain ⟨glyph, hglyph, hchar⟩ := List.mem_map.mp hmem
    obtain ⟨hglyph, hprinted⟩ := List.mem_filter.mp hglyph
    exact Glyph.char_ne_newline (h r glyph hglyph) (by simpa using hprinted) hchar
  have hne : (grid.rowList.map fun row => (Grid.printed row).map Glyph.char) ≠ [] := by
    simpa [Grid.rowList] using Nat.pos_iff_ne_zero.mp hrows
  rw [Grid.plainText, String.toList_intercalate, List.map_map]
  simp only [Function.comp_def, String.toList_ofList]
  exact List.splitOn_intercalate '\n' hlines hne

namespace Label

theorem mem_of_mem_spaced {free : ℕ} {labels : List Label} {label : Label}
    (h : label ∈ spaced free labels) : label ∈ labels ∧ free ≤ label.start := by
  induction labels generalizing free with
  | nil => simp [spaced] at h
  | cons first labels ih =>
      unfold spaced at h
      split at h
      · exact ⟨List.mem_cons_of_mem _ (ih h).1, (ih h).2⟩
      · next hfree =>
        rcases List.mem_cons.mp h with rfl | h
        · exact ⟨List.mem_cons_self, by omega⟩
        · have hlater := (ih h).2
          have hstop : first.start ≤ first.stop := Nat.le_add_right _ _
          exact ⟨List.mem_cons_of_mem _ (ih h).1, by omega⟩

theorem pairwise_spaced (free : ℕ) (labels : List Label) :
    (spaced free labels).Pairwise fun left right => left.stop < right.start := by
  induction labels generalizing free with
  | nil => exact .nil
  | cons first labels ih =>
      unfold spaced
      split
      · exact ih free
      · exact .cons (fun label hmem => (mem_of_mem_spaced hmem).2) (ih _)

theorem stop_le_of_centred? {width column : ℕ} {text : String} {label : Label}
    (h : centred? width column text = some label) : label.stop ≤ width := by
  unfold centred? at h
  dsimp only at h
  split at h
  · cases h
  · next hfit =>
    obtain rfl := Option.some.inj h
    simp only [stop, columns]
    omega

end Label

namespace Overlay

variable (overlay : Overlay)

/-- Whether the characters of every written label stay within the chart and in front of
the next label. -/
def Clear : Prop :=
  (∀ label ∈ overlay.written, label.reach ≤ overlay.chart.glyphs.width) ∧
    overlay.written.Pairwise fun left right => left.reach ≤ right.start

/-- Labels are clear if their characters take no more columns than are kept free. -/
theorem clear_of_reach_le_stop (h : ∀ label ∈ overlay.written, label.reach ≤ label.stop) :
    overlay.Clear := by
  constructor
  · intro label hmem
    obtain ⟨⟨column, text⟩, -, hcentred⟩ :=
      List.mem_filterMap.mp (Label.mem_of_mem_spaced hmem).1
    exact (h label hmem).trans (Label.stop_le_of_centred? hcentred)
  · refine List.Pairwise.imp_of_mem ?_ (Label.pairwise_spaced 0 _)
    intro left right hleft _ hstop
    exact (h left hleft).trans hstop.le

example : labelledPeak.Clear := labelledPeak.clear_of_reach_le_stop (by decide +kernel)

variable {overlay} {width rows row : ℕ}

theorem length_row_glyphs (hplot : IsPlot overlay.chart.glyphs width rows)
    (hfull : overlay.chart.glyphs.isEmpty = false) (hrow : row < rows) :
    (overlay.glyphs.row row).length = width := by
  have hmarked := isPlot_unlabelled hplot
  have hlength : (overlay.unlabelled.row row).length = width := by
    rw [Grid.length_row _ (hmarked.rows_eq.symm ▸ hrow), hmarked.width_eq]
  rw [row_glyphs hfull]
  split
  · refine List.foldlRecOn (motive := fun row : List Glyph => row.length = width) _ _ hlength ?_
    exact fun row hlength label _ => (Label.length_inscribe label row).trans hlength
  · exact hlength

theorem takesColumns_of_mem_row (hplot : IsPlot overlay.chart.glyphs width rows)
    (hfull : overlay.chart.glyphs.isEmpty = false) (row : ℕ) :
    ∀ glyph ∈ overlay.glyphs.row row, glyph.TakesColumns := by
  have hunlabelled : ∀ glyph ∈ overlay.unlabelled.row row, glyph.TakesColumns := fun glyph hmem =>
    Glyph.takesColumns_of_isNarrow ((isPlot_unlabelled hplot).isNarrow_of_mem_row hmem)
  rw [row_glyphs hfull]
  split
  · exact mem_foldl_inscribe hunlabelled
  · exact hunlabelled

theorem rowColumns_row_of_ne (hplot : IsPlot overlay.chart.glyphs width rows)
    (hfull : overlay.chart.glyphs.isEmpty = false) (hrow : row < rows)
    (hother : row ≠ overlay.writtenRow) : rowColumns (overlay.glyphs.row row) = width := by
  rw [← length_row_glyphs hplot hfull hrow, row_glyphs hfull, if_neg hother]
  exact rowColumns_of_isNarrow fun glyph hmem =>
    (isPlot_unlabelled hplot).isNarrow_of_mem_row hmem

theorem rowColumns_row_of_clear (hplot : IsPlot overlay.chart.glyphs width rows)
    (hfull : overlay.chart.glyphs.isEmpty = false) (hrow : row < rows) (hclear : overlay.Clear) :
    rowColumns (overlay.glyphs.row row) = width := by
  by_cases hwritten : row = overlay.writtenRow
  · have hmarked := isPlot_unlabelled hplot
    have hlength : (overlay.unlabelled.row row).length = width := by
      rw [Grid.length_row _ (hmarked.rows_eq.symm ▸ hrow), hmarked.width_eq]
    have hreach : ∀ label ∈ overlay.written,
        label.reach ≤ ([] ++ overlay.unlabelled.row row).length := by
      intro label hmem
      rw [List.nil_append, hlength, ← hplot.width_eq]
      exact hclear.1 label hmem
    have hcolumns := rowColumns_foldl_inscribe rowColumns_nil
      (fun glyph hmem => hmarked.isNarrow_of_mem_row hmem) (fun _ _ => Nat.zero_le _)
      hreach hclear.2
    rw [List.nil_append, hlength] at hcolumns
    rw [row_glyphs hfull, if_pos hwritten, hcolumns]
  · exact rowColumns_row_of_ne hplot hfull hrow hwritten

/-- An overlay over a chart is printed in a line for each row. Every line but that of
the labels takes exactly the columns of the chart. The line of the labels takes as many
more as its wide characters lack, and as many fewer as it has stray continuations: so
exactly the columns of the chart as long as the labels are clear. -/
theorem span_lines (overlay : Overlay) (hseries : overlay.chart.series ≠ [])
    (hwidth : 0 < overlay.chart.width) (hrows : 0 < overlay.chart.rows) :
    let lines := overlay.glyphs.plainText.toList.splitOn '\n'
    lines.length = overlay.chart.rows ∧
      ∀ row line, lines[row]? = some line →
        (row ≠ overlay.writtenRow → Label.span line = overlay.chart.width) ∧
        Label.span line + stray 0 (overlay.glyphs.row row) =
          overlay.chart.width + lacking 0 (overlay.glyphs.row row) ∧
        (overlay.Clear → Label.span line = overlay.chart.width) := by
  have hplot := isPlot_chart hseries hwidth hrows
  have hfull := isEmpty_eq_false hplot hwidth hrows
  have htakes := takesColumns_of_mem_row hplot hfull
  have hheight : overlay.glyphs.rows = overlay.chart.rows :=
    (rows_glyphs hfull).trans (isPlot_unlabelled hplot).rows_eq
  intro lines
  have hlines : lines =
      overlay.glyphs.rowList.map fun row => (Grid.printed row).map Glyph.char :=
    splitOn_plainText (hheight ▸ hrows) htakes
  refine ⟨by simp [hlines, Grid.rowList, hheight], ?_⟩
  intro row line hline
  obtain ⟨hrow, rfl⟩ : row < overlay.chart.rows ∧
      (Grid.printed (overlay.glyphs.row row)).map Glyph.char = line := by
    simp only [hlines, Grid.rowList, hheight, List.getElem?_eq_some_iff] at hline
    simpa using hline
  have hbalance := rowColumns_add_stray (htakes row) 0
  rw [length_row_glyphs hplot hfull hrow, Nat.zero_add] at hbalance
  rw [span_printed]
  exact ⟨rowColumns_row_of_ne hplot hfull hrow, hbalance,
    rowColumns_row_of_clear hplot hfull hrow⟩

/-- A label of three columns as a text, for two of its emoji are joined into one. Drawn
one by one they run over the edge. -/
def cutEmoji : Overlay where
  chart := { series := [0.0], width := 3, rows := 1 }
  markers := [⟨0.0, some "👨\u200D👩x"⟩]

/-- The second emoji lacks a column, so the line takes one more than the chart. -/
theorem span_lines_cutEmoji :
    cutEmoji.chart.series ≠ [] ∧ 0 < cutEmoji.chart.width ∧ 0 < cutEmoji.chart.rows ∧
      ∃ line, (cutEmoji.glyphs.plainText.toList.splitOn '\n')[0]? = some line ∧
        Label.span line = 4 ∧ lacking 0 (cutEmoji.glyphs.row 0) = 1 ∧ ¬ cutEmoji.Clear := by
  have hseries : cutEmoji.chart.series ≠ [] := List.cons_ne_nil _ _
  have hwidth : 0 < cutEmoji.chart.width := by decide
  have hrows : 0 < cutEmoji.chart.rows := by decide
  obtain ⟨hlength, hlines⟩ := span_lines cutEmoji hseries hwidth hrows
  have hlt : 0 < (cutEmoji.glyphs.plainText.toList.splitOn '\n').length := hlength ▸ hrows
  have hline := List.getElem?_eq_getElem hlt
  obtain ⟨-, hbalance, hclear⟩ := hlines 0 _ hline
  have hstray : stray 0 (cutEmoji.glyphs.row 0) = 0 := by decide +kernel
  have hlacking : lacking 0 (cutEmoji.glyphs.row 0) = 1 := by decide +kernel
  rw [hstray, hlacking] at hbalance
  refine ⟨hseries, hwidth, hrows, _, hline, hbalance, hlacking, fun h => ?_⟩
  exact absurd ((hclear h).symm.trans hbalance) (by decide)

/-- A printed line can take more columns than the chart. -/
theorem exists_span_line_ne :
    ¬ ∀ overlay : Overlay, overlay.chart.series ≠ [] → 0 < overlay.chart.width →
      0 < overlay.chart.rows → ∀ line ∈ overlay.glyphs.plainText.toList.splitOn '\n',
        Label.span line = overlay.chart.width := by
  intro h
  have htext : cutEmoji.glyphs.plainText.toList = ['👨', '👩'] := by decide +kernel
  have hsplit : ['👨', '👩'].splitOn '\n' = [['👨', '👩']] := by decide
  have hspan := h cutEmoji (List.cons_ne_nil _ _) (by decide) (by decide) ['👨', '👩']
    (by rw [htext, hsplit]; exact List.mem_singleton.mpr rfl)
  exact absurd hspan (by decide +kernel)

end Overlay

end Graph

end Dashboard
