import Dashboard.Graph.Chart
import Dashboard.Graph.Timeline
import Dashboard.Text.Columns

/-! # Overlays

Gridlines, time markers and labels over a chart. Gridlines and markers only
take cells that the series left blank. Labels stand on one row, centred on
their markers; from left to right, a label is left out if it would come too
close to the one before. -/

namespace Dashboard.Graph

/-- Segment of a gridline. -/
def lineChar : Char := '─'

/-- Segment of a marker. -/
def tickChar : Char := '│'

/-- Segment of a gridline where it meets a marker. -/
def crossChar : Char := '┼'

/-- A chart with gridlines and markers. -/
structure Overlay where
  chart : Chart
  /-- Heights of the gridlines in percent of the ceiling. -/
  gridlines : List Float := []
  markers : List Marker := []
  /-- Row of the labels; the last one if there is no such row. -/
  labelRow : Option Nat := none

/-- Row of a gridline, unless its height is no number. -/
def gridlineRow? (percent : Float) (rows : Nat) : Option Nat :=
  if !percent.isFinite || rows = 0 then none
  else
    let dotRows := rows * dotsPerCell
    let dot := roundHalfUp (clamp 0.0 100.0 percent / 100.0 * Float.ofNat dotRows)
    some (rows - 1 - min dot (dotRows - 1) / dotsPerCell)

/-- Draw a gridline: crosses at the columns of markers, dashes elsewhere. -/
def drawGridline (columns : List Nat) (grid : Grid) (line : Nat) : Grid :=
  grid.mapCells fun col row glyph =>
    if row = line ∧ glyph.isBlank then
      if columns.contains col then ⟨crossChar, .grid⟩
      else if col % 2 = 0 then ⟨lineChar, .grid⟩
      else glyph
    else glyph

/-- Rows between two ticks of a marker. -/
def tickDistance : Nat := 3

/-- Draw a marker. -/
def drawMarker (grid : Grid) (column : Nat) : Grid :=
  grid.mapCells fun col row glyph =>
    if col = column ∧ row % tickDistance = 0 ∧ glyph.isBlank then ⟨tickChar, .marker⟩ else glyph

/-- A label on its row. -/
structure Label where
  /-- First column. -/
  start : Nat
  text : String

namespace Label

/-- Columns a label takes. -/
def columns (label : Label) : Nat :=
  Text.textColumns label.text

/-- The column after a label. -/
def stop (label : Label) : Nat :=
  label.start + label.columns

/-- The label of a marker at a column, moved to fit into a width; none if it is
too wide, or takes no column. -/
def centred? (width column : Nat) (text : String) : Option Label :=
  let columns := Text.textColumns text
  if columns = 0 ∨ width < columns then none
  else some ⟨min (column - columns / 2) (width - columns), text⟩

/-- Choose labels from left to right, each at least a column behind the end of
the one before. -/
def spaced (free : Nat) : List Label → List Label
  | [] => []
  | label :: rest =>
    if label.start < free then spaced free rest else label :: spaced (label.stop + 1) rest

/-- Cells of a label text from a column on: characters without a width of their
own are left out, and wide ones cover the cells that follow. -/
def cells (column : Nat) : List Char → List (Nat × Glyph)
  | [] => []
  | c :: rest =>
    match (Text.charColumns? c).getD 0 with
    | 0 => cells column rest
    | more + 1 =>
      (column, ⟨c, .label⟩) ::
        (List.range more).map (fun i => (column + 1 + i, Glyph.continuation)) ++
        cells (column + 1 + more) rest

/-- Write a label over a row. -/
def write (grid : Grid) (row : Nat) (label : Label) : Grid :=
  (cells label.start label.text.toList).foldl
    (fun grid cell => grid.set cell.1 row cell.2) grid

end Label

namespace Overlay

/-- Columns and texts of the labels, from left to right; labels of one column
keep the order of their markers. -/
def labelTexts (markers : List Marker) (width : Nat) : List (Nat × String) :=
  let labels := markers.filterMap fun marker =>
    match marker.column? width, marker.label with
    | some column, some text => if text.isEmpty then none else some (column, text)
    | _, _ => none
  labels.mergeSort fun a b => decide (a.1 ≤ b.1)

/-- The labels that are written. -/
def labels (markers : List Marker) (width : Nat) : List Label :=
  Label.spaced 0
    ((labelTexts markers width).filterMap fun (column, text) => Label.centred? width column text)

/-- Glyphs of the chart and what lies over it; none if there is nothing to
draw. -/
def glyphs (overlay : Overlay) : Grid :=
  let grid := overlay.chart.glyphs
  if grid.isEmpty then grid
  else
    let columns := overlay.markers.filterMap fun marker => marker.column? grid.width
    let lines := overlay.gridlines.filterMap fun percent => gridlineRow? percent grid.rows
    let ruled := lines.foldl (drawGridline columns) grid
    let marked := columns.foldl drawMarker ruled
    let last := grid.rows - 1
    let row := min (overlay.labelRow.getD last) last
    (labels overlay.markers grid.width).foldl (fun grid label => label.write grid row) marked

/-- Text of an overlay. -/
def text (overlay : Overlay) : String :=
  overlay.chart.style.theme.paint overlay.glyphs overlay.chart.style.pinned

end Overlay

end Dashboard.Graph
