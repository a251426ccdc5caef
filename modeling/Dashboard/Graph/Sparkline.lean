import Dashboard.Graph.Bars
import Dashboard.Theme

/-! # Sparklines

One row of bars in the colour of the newest sample. -/

namespace Dashboard.Graph

/-- How a graph is coloured. -/
structure Style where
  thresholds : Thresholds Float := default
  theme : Theme := default
  /-- Colour of the whole series in place of the tiers' colours. -/
  pinned : Option Rgb := none

/-- A row of bars. Without a positive ceiling the largest sample is the
ceiling. -/
structure Sparkline where
  series : List Float
  width : Nat
  ceiling : Float := 0.0
  style : Style := {}

namespace Sparkline

/-- Glyphs of a sparkline; none if there is nothing to draw. -/
def glyphs (sparkline : Sparkline) : Grid :=
  match Bars.draw? sparkline.series sparkline.width 1 sparkline.ceiling with
  | some bars =>
    withTiers bars.grid fun _ =>
      sparkline.style.thresholds.classifyValue bars.last bars.ceiling
  | none => Grid.none

/-- Text of a sparkline. -/
def text (sparkline : Sparkline) : String :=
  sparkline.style.theme.paint sparkline.glyphs sparkline.style.pinned

end Sparkline

end Dashboard.Graph
