import Dashboard.Graph.Sparkline

/-! # Charts

Several rows of bars, coloured row by row: what lies higher is more severe. -/

namespace Dashboard.Graph

/-- An area of bars. Without a positive ceiling the largest sample is the
ceiling. -/
structure Chart where
  series : List Float
  width : Nat
  rows : Nat
  ceiling : Float := 0.0
  style : Style := {}

namespace Chart

/-- Height of the middle of a row as a fraction of `rows` rows, counted from
the top. -/
def bandMiddle (rows row : Nat) : Float :=
  (Float.ofNat rows - Float.ofNat row - 0.5) / Float.ofNat rows

/-- Glyphs of a chart; none if there is nothing to draw. -/
def glyphs (chart : Chart) : Grid :=
  match Bars.draw? chart.series chart.width chart.rows chart.ceiling with
  | some bars =>
    withTiers bars.grid fun row => chart.style.thresholds.classify (bandMiddle chart.rows row)
  | none => Grid.none

/-- Text of a chart. -/
def text (chart : Chart) : String :=
  chart.style.theme.paint chart.glyphs chart.style.pinned

end Chart

end Dashboard.Graph
