import Dashboard.Graph.Dots
import Dashboard.Grid

/-! # Bars

A series drawn as bars of dots, two samples to a character. The newest samples
stand at the right edge; cells that are left over on the left stay empty. -/

namespace Dashboard.Graph

/-- A drawn series. -/
structure Bars where
  grid : Grid
  /-- Value at the top of the grid. -/
  ceiling : Float
  /-- Newest sample drawn. -/
  last : Float

namespace Bars

/-- Bits of the character with two bars of given heights, where the lowest
`below` dots of the bars lie in characters further down. -/
def bits (left right below : Nat) : Nat :=
  columnBits leftDots (left - below) ||| columnBits rightDots (right - below)

/-- The grid of bars with these heights. -/
def gridOfHeights (heights : Array Nat) (width rows : Nat) : Grid :=
  let unused := width - (heights.size + 1) / 2
  Grid.tabulate width rows fun col row =>
    if col < unused then Glyph.blank
    else
      let sample := 2 * (col - unused)
      let below := (rows - 1 - row) * dotsPerCell
      let left := heights[sample]?.getD 0
      let right := heights[sample + 1]?.getD 0
      ⟨braille (bits left right below), .data .normal⟩

/-- Samples that are drawn at a width. -/
def samples (series : List Float) (width : Nat) : List Float :=
  Series.fitToWidth series (2 * width)

/-- Heights of the bars of a series. -/
def heights (series : List Float) (width rows : Nat) (ceiling : Float) : List Nat :=
  (samples series width).map fun value => dotHeight value ceiling (rows * dotsPerCell)

/-- Draw a series; nothing for an empty series or an empty area. -/
def draw? (series : List Float) (width rows : Nat) (requested : Float) : Option Bars :=
  if width = 0 ∨ rows = 0 ∨ series.isEmpty then none
  else
    let samples := samples series width
    let ceiling := resolveCeiling samples requested
    some {
      grid := gridOfHeights (heights series width rows ceiling).toArray width rows
      ceiling
      last := samples.getLast?.getD 0.0 }

end Bars

/-- Give every glyph of the series in a cell the tier of its row. -/
def withTiers (grid : Grid) (tier : Nat → Severity) : Grid :=
  grid.mapCells fun _ row glyph =>
    if glyph.tone.isData then { glyph with tone := .data (tier row) } else glyph

end Dashboard.Graph
