import Dashboard.Colour
import Dashboard.Grid

/-! # Themes

A theme gives every tone a colour, and paints a grid with escape sequences.
Neighbours of one colour share a sequence. -/

namespace Dashboard

/-- A colour of a theme that can be replaced. -/
inductive ThemeSlot where
  | tier (tier : Severity)
  | grid
  | marker
  | label
deriving DecidableEq

/-- Why there is no such theme. -/
inductive ThemeError where
  | badHex (error : HexError)
  /-- No theme has the name. -/
  | unknown (name : String)
deriving DecidableEq

/-- Text of an error. -/
def ThemeError.message : ThemeError → String
  | badHex error => error.message
  | unknown name => "unknown theme: " ++ name

/-- Colours of the tones, and how the terminal shows them. -/
structure Theme where
  name : String
  normal : Rgb
  elevated : Rgb
  critical : Rgb
  grid : Rgb
  marker : Rgb
  label : Rgb
  mode : ColourMode := .trueColour
deriving DecidableEq

namespace Theme

/-- Dark blues. -/
def tokyoNight : Theme where
  name := "tokyo_night"
  normal := ⟨0x9e, 0xce, 0x6a⟩
  elevated := ⟨0xe0, 0xaf, 0x68⟩
  critical := ⟨0xf7, 0x76, 0x8e⟩
  grid := ⟨0x41, 0x48, 0x68⟩
  marker := ⟨0x56, 0x5f, 0x89⟩
  label := ⟨0xc0, 0xca, 0xf5⟩

/-- Dark purples. -/
def dracula : Theme where
  name := "dracula"
  normal := ⟨0x50, 0xfa, 0x7b⟩
  elevated := ⟨0xf1, 0xfa, 0x8c⟩
  critical := ⟨0xff, 0x55, 0x55⟩
  grid := ⟨0x44, 0x47, 0x5a⟩
  marker := ⟨0x62, 0x72, 0xa4⟩
  label := ⟨0xf8, 0xf8, 0xf2⟩

/-- Cool blues. -/
def nord : Theme where
  name := "nord"
  normal := ⟨0xa3, 0xbe, 0x8c⟩
  elevated := ⟨0xeb, 0xcb, 0x8b⟩
  critical := ⟨0xbf, 0x61, 0x6a⟩
  grid := ⟨0x3b, 0x42, 0x52⟩
  marker := ⟨0x4c, 0x56, 0x6a⟩
  label := ⟨0xec, 0xef, 0xf4⟩

/-- Warm colours. -/
def monokai : Theme where
  name := "monokai"
  normal := ⟨0xa6, 0xe2, 0x2e⟩
  elevated := ⟨0xe6, 0xdb, 0x74⟩
  critical := ⟨0xf9, 0x26, 0x72⟩
  grid := ⟨0x49, 0x48, 0x3e⟩
  marker := ⟨0x75, 0x71, 0x5e⟩
  label := ⟨0xf8, 0xf8, 0xf2⟩

/-- Every theme there is, the default first. -/
def all : List Theme :=
  [tokyoNight, dracula, nord, monokai]

instance : Inhabited Theme := ⟨tokyoNight⟩

/-- The theme of a name. -/
def ofName (name : String) : Except ThemeError Theme :=
  match all.find? fun theme => theme.name == name with
  | some theme => pure theme
  | none => throw (.unknown name)

/-- Replace one colour. -/
def withColour (theme : Theme) (slot : ThemeSlot) (colour : Rgb) : Theme :=
  match slot with
  | .tier .normal => { theme with normal := colour }
  | .tier .elevated => { theme with elevated := colour }
  | .tier .critical => { theme with critical := colour }
  | .grid => { theme with grid := colour }
  | .marker => { theme with marker := colour }
  | .label => { theme with label := colour }

/-- Replace one colour by the one a text spells. -/
def withHex (theme : Theme) (slot : ThemeSlot) (text : String) : Except ThemeError Theme :=
  match Rgb.ofHex text with
  | .ok colour => pure (theme.withColour slot colour)
  | .error error => throw (.badHex error)

/-- Show colours in another mode. -/
def withMode (theme : Theme) (mode : ColourMode) : Theme :=
  { theme with mode }

/-- Colour of a tier. -/
def tierColour (theme : Theme) : Severity → Rgb
  | .normal => theme.normal
  | .elevated => theme.elevated
  | .critical => theme.critical

/-- Colour of a tone, with `pinned` in place of all tiers. Blank cells have
none. -/
def toneColour? (theme : Theme) (tone : Tone) (pinned : Option Rgb) : Option Rgb :=
  match tone with
  | .data tier => some (pinned.getD (theme.tierColour tier))
  | .grid => some theme.grid
  | .marker => some theme.marker
  | .label => some theme.label
  | .blank => none

/-- Characters with their colours, joined where neighbours agree in colour. -/
def runs : List (Option Rgb × Char) → List (Option Rgb × List Char)
  | [] => []
  | (colour, c) :: rest =>
    match runs rest with
    | (next, text) :: more =>
      if colour = next then (colour, c :: text) :: more else (colour, [c]) :: (next, text) :: more
    | [] => [(colour, [c])]

/-- A run between the sequence that sets its colour and the one that resets it;
a run without a colour on its own. -/
def paintRun (theme : Theme) : Option Rgb × List Char → List Char
  | (colour, text) =>
    match colour.bind theme.mode.show? with
    | some shown => '\x1b' :: '[' :: shown.parameters.toList ++ 'm' :: text ++ "\x1b[39m".toList
    | none => text

/-- Printed glyphs of a row in colour. -/
def paintRow (theme : Theme) (pinned : Option Rgb) (row : List Glyph) : List Char :=
  (runs ((Grid.printed row).map fun glyph =>
    (theme.toneColour? glyph.tone pinned, glyph.char))).flatMap theme.paintRun

/-- The grid in colour, a line for each row. -/
def paint (theme : Theme) (grid : Grid) (pinned : Option Rgb) : String :=
  String.intercalate "\n" (grid.rowList.map fun row => String.ofList (theme.paintRow pinned row))

end Theme

end Dashboard
