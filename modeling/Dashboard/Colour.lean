import Dashboard.Text.Blank
import Dashboard.Text.Quoted
import Dashboard.Text.Search

/-! # Colours

Colours are given in 24 bits and shown in what the terminal is capable of:
exactly, by the nearest entry of a palette, or not at all. -/

namespace Dashboard

/-- A colour by its channels. -/
structure Rgb where
  red : UInt8
  green : UInt8
  blue : UInt8
deriving DecidableEq

/-- Why a text spells no colour. -/
inductive HexFault where
  | notSixDigits
  | notADigit
deriving DecidableEq

/-- Text of a fault. -/
def HexFault.message : HexFault → String
  | notSixDigits => "expected 6 hex digits"
  | notADigit => "not a hex digit"

/-- A text that spells no colour, and why. -/
structure HexError where
  input : String
  fault : HexFault
deriving DecidableEq

/-- Text of an error. -/
def HexError.message (error : HexError) : String :=
  "invalid hex colour " ++ Text.quoted error.input ++ ": " ++ error.fault.message

namespace Rgb

/-- Value of a hexadecimal digit in either case. -/
def hexDigit? (c : Char) : Option Nat :=
  if c.isDigit then some (c.toNat - '0'.toNat)
  else if 'a' ≤ c ∧ c ≤ 'f' then some (c.toNat - 'a'.toNat + 10)
  else if 'A' ≤ c ∧ c ≤ 'F' then some (c.toNat - 'A'.toNat + 10)
  else none

/-- Value of a channel: two digits, or one after a plus sign. -/
def channel? (first second : Char) : Option UInt8 := do
  let high ← if first = '+' then some 0 else hexDigit? first
  return UInt8.ofNat (16 * high + (← hexDigit? second))

/-- The colour a text spells: three channels, after any number of hash signs,
with white space around. -/
def ofHex (text : String) : Except HexError Rgb :=
  match (Text.trim text.toList).dropWhile (· = '#') with
  | [a, b, c, d, e, f] =>
    if [a, b, c, d, e, f].all fun c => c.toNat < 0x80 then
      match channel? a b, channel? c d, channel? e f with
      | some red, some green, some blue => pure ⟨red, green, blue⟩
      | _, _, _ => throw ⟨text, .notADigit⟩
    else throw ⟨text, .notSixDigits⟩
  | _ => throw ⟨text, .notSixDigits⟩

/-- Two hexadecimal digits of a channel. -/
def channelText (channel : UInt8) : List Char :=
  let digits := Nat.toDigits 16 channel.toNat
  List.replicate (2 - digits.length) '0' ++ digits

/-- Text of a colour: a hash sign and six digits. -/
def text (colour : Rgb) : String :=
  String.ofList ('#' :: channelText colour.red ++ channelText colour.green ++
    channelText colour.blue)

end Rgb

/-- The sixteen colours every colour terminal has, in palette order. -/
inductive AnsiColour where
  | black
  | darkRed
  | darkGreen
  | darkYellow
  | darkBlue
  | darkMagenta
  | darkCyan
  | grey
  | darkGrey
  | red
  | green
  | yellow
  | blue
  | magenta
  | cyan
  | white
deriving DecidableEq

namespace AnsiColour

/-- Number in the palette. -/
def index : AnsiColour → Nat
  | black => 0
  | darkRed => 1
  | darkGreen => 2
  | darkYellow => 3
  | darkBlue => 4
  | darkMagenta => 5
  | darkCyan => 6
  | grey => 7
  | darkGrey => 8
  | red => 9
  | green => 10
  | yellow => 11
  | blue => 12
  | magenta => 13
  | cyan => 14
  | white => 15

/-- Whether each of the channels is lit, dark and bright variant. -/
def ofChannels (red green blue bright : Bool) : AnsiColour :=
  match red, green, blue, bright with
  | false, false, false, false => .black
  | false, false, false, true => .darkGrey
  | true, false, false, false => .darkRed
  | true, false, false, true => .red
  | false, true, false, false => .darkGreen
  | false, true, false, true => .green
  | true, true, false, false => .darkYellow
  | true, true, false, true => .yellow
  | false, false, true, false => .darkBlue
  | false, false, true, true => .blue
  | true, false, true, false => .darkMagenta
  | true, false, true, true => .magenta
  | false, true, true, false => .darkCyan
  | false, true, true, true => .cyan
  | true, true, true, false => .grey
  | true, true, true, true => .white

end AnsiColour

/-- A colour as a terminal is told. -/
inductive TerminalColour where
  | exact (colour : Rgb)
  /-- Entry of the 256-colour palette. -/
  | indexed (entry : Nat)
  | ansi (colour : AnsiColour)
deriving DecidableEq

/-- Parameters of the escape sequence that sets the foreground. -/
def TerminalColour.parameters : TerminalColour → String
  | exact colour => s!"38;2;{colour.red.toNat};{colour.green.toNat};{colour.blue.toNat}"
  | indexed entry => s!"38;5;{entry}"
  | ansi colour => s!"38;5;{colour.index}"

/-- Colours a terminal is capable of. -/
inductive ColourMode where
  /-- 24 bits. -/
  | trueColour
  /-- The 256-colour palette. -/
  | palette256
  /-- The sixteen basic colours. -/
  | palette16
  /-- No colour. -/
  | mono
deriving DecidableEq

namespace ColourMode

/-- The mode that two environment settings announce. -/
def detect (colourTerminal terminal : Option String) : ColourMode :=
  if colourTerminal = some "truecolor" ∨ colourTerminal = some "24bit" then trueColour
  else
    match terminal with
    | some name =>
      if Text.occursIn "256color".toList name.toList then palette256
      else if name = "dumb" then mono
      else palette16
    | none => mono

/-- Entry of the 256-colour palette for a colour. Greys use the grey ramp, all
others the 6 × 6 × 6 cube. -/
def paletteEntry (colour : Rgb) : Nat :=
  if colour.red = colour.green ∧ colour.green = colour.blue then
    let level := colour.red.toNat
    if level ≤ 7 then 16
    else if 249 ≤ level then 231
    else 232 + min ((level - 8) / 10) 23
  else
    let step (channel : UInt8) : Nat := channel.toNat * 5 / 255
    16 + 36 * step colour.red + 6 * step colour.green + step colour.blue

/-- The basic colour for a colour. Channels above half the strongest one give
the hue, and the luminance gives the intensity. -/
def basicColour (colour : Rgb) : AnsiColour :=
  let red := colour.red.toNat
  let green := colour.green.toNat
  let blue := colour.blue.toNat
  let half := max red (max green blue) / 2
  let luminance := (299 * red + 587 * green + 114 * blue) / 1000
  AnsiColour.ofChannels (half < red) (half < green) (half < blue) (127 < luminance)

/-- How a colour is shown; not at all without colours. -/
def show? (mode : ColourMode) (colour : Rgb) : Option TerminalColour :=
  match mode with
  | trueColour => some (.exact colour)
  | palette256 => some (.indexed (paletteEntry colour))
  | palette16 => some (.ansi (basicColour colour))
  | mono => none

end ColourMode

end Dashboard
