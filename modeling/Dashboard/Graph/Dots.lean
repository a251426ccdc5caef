import Dashboard.Glyph
import Dashboard.Scalar
import Dashboard.Series

/-! # Braille dots

A braille character has two columns of four dots, each dot a bit above the
pattern without dots. Heights are counted in dots from the bottom. -/

namespace Dashboard.Graph

/-- Dots in a column of a character. -/
def dotsPerCell : Nat := 4

/-- Bits of the left column, lowest dot first. -/
def leftDots : List Nat := [0x40, 0x04, 0x02, 0x01]

/-- Bits of the right column, lowest dot first. -/
def rightDots : List Nat := [0x80, 0x20, 0x10, 0x08]

/-- Bits that light the lowest `height` dots of a column. -/
def columnBits (dots : List Nat) (height : Nat) : Nat :=
  (dots.take height).foldl (· ||| ·) 0

/-- The braille character with these bits. -/
def braille (bits : Nat) : Char :=
  Char.ofNat (Glyph.blankChar.toNat + bits)

/-- Whether a character is a braille pattern. -/
def isBraille (c : Char) : Bool :=
  '\u2800' ≤ c && c ≤ '\u28FF'

/-- Lit dots for a value among `dotRows`. Positive values light at least one;
values that are not positive and finite light none. -/
def dotHeight {α : Type} [Scalar α] (value ceiling : α) (dotRows : Nat) : Nat :=
  if !Scalar.isFinite value || Scalar.le value (Scalar.ofNat 0) ||
      Scalar.le ceiling (Scalar.ofNat 0) then 0
  else
    let scaled := Scalar.mul (Scalar.div value ceiling) (Scalar.ofNat dotRows)
    max 1 (if Scalar.le (Scalar.ofNat dotRows) scaled then dotRows else Scalar.whole scaled)

/-- The value at the top of a graph: the requested one if it is positive and
finite, otherwise the largest finite sample, or one if that is not positive. -/
def resolveCeiling (samples : List Float) (requested : Float) : Float :=
  if requested.isFinite && 0.0 < requested then requested
  else
    let max := Series.largest (-1.0 / 0.0) (samples.filter Float.isFinite)
    if 0.0 < max then max else 1.0

end Dashboard.Graph
