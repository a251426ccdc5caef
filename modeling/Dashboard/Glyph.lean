import Dashboard.Severity

/-! # Glyphs

Graphs are drawn as characters with a meaning. What colour a meaning has is
decided later. -/

namespace Dashboard

/-- What a character is part of. -/
inductive Tone where
  /-- The plotted series. -/
  | data (tier : Severity)
  /-- A horizontal gridline. -/
  | grid
  /-- A vertical time marker. -/
  | marker
  /-- The label of a marker. -/
  | label
  /-- Nothing. -/
  | blank
deriving DecidableEq

/-- Whether a tone belongs to the plotted series. -/
def Tone.isData : Tone → Bool
  | data _ => true
  | _ => false

/-- One terminal cell. -/
structure Glyph where
  char : Char
  tone : Tone
deriving DecidableEq

namespace Glyph

/-- The braille pattern without dots. -/
def blankChar : Char := '\u2800'

/-- An empty cell. -/
def blank : Glyph := ⟨blankChar, .blank⟩

/-- What follows in the cells that a wide label character covers beyond its
first one. It is never printed. -/
def continuation : Glyph := ⟨'\x00', .label⟩

/-- Whether a cell shows nothing: a pattern without dots that is no part of an
overlay. -/
def isBlank (glyph : Glyph) : Bool :=
  glyph.char = blankChar && (glyph.tone = .blank || glyph.tone.isData)

/-- Whether a cell only continues the one to its left. -/
def isContinuation (glyph : Glyph) : Bool :=
  glyph = continuation

end Glyph

end Dashboard
