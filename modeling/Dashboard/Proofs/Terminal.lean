import Dashboard.Colour
import Mathlib.Data.Nat.Notation

/-! # Terminals

A terminal reads a text character by character and keeps the foreground colour that the
last escape sequence selected. It understands what coloured text is made of: sequences
with a colour's parameters, and the one that resets the colour. -/

namespace Dashboard

/-- How far a terminal has read. -/
inductive Terminal.Mode where
  | text
  | escape
  /-- Within a sequence, with its parameters so far. -/
  | sequence (parameters : List Char)
deriving DecidableEq

/-- A terminal and the foreground colour it draws in; its own one if none is selected. -/
structure Terminal where
  mode : Terminal.Mode
  colour : Option TerminalColour
deriving DecidableEq

namespace Terminal

/-- A terminal that has read nothing yet. -/
def fresh : Terminal := ⟨.text, none⟩

/-- What happens on a terminal, and the colour in force then. -/
inductive Event where
  | cell (c : Char) (colour : Option TerminalColour)
  | lineEnd (colour : Option TerminalColour)
  /-- A sequence selects a colour. -/
  | select (colour : Option TerminalColour)
deriving DecidableEq

/-- The basic colours in palette order. -/
def basicColours : List AnsiColour :=
  [.black, .darkRed, .darkGreen, .darkYellow, .darkBlue, .darkMagenta, .darkCyan, .grey,
    .darkGrey, .red, .green, .yellow, .blue, .magenta, .cyan, .white]

/-- An entry of the palette; the basic colours are its first ones. -/
def paletteColour (entry : ℕ) : TerminalColour :=
  match basicColours[entry]? with
  | some colour => .ansi colour
  | none => .indexed entry

/-- The foreground colour after a sequence with these parameters. -/
def selected (colour : Option TerminalColour) (parameters : List Char) : Option TerminalColour :=
  match (parameters.splitOn ';').map fun digits => Nat.ofDigitChars 10 digits 0 with
  | [39] => none
  | [38, 2, red, green, blue] =>
    some (.exact ⟨UInt8.ofNat red, UInt8.ofNat green, UInt8.ofNat blue⟩)
  | [38, 5, entry] => some (paletteColour entry)
  | _ => colour

/-- Read one character. -/
def step (terminal : Terminal) (c : Char) : Terminal × List Event :=
  match terminal.mode with
  | .text =>
    if c = '\x1b' then ({ terminal with mode := .escape }, [])
    else if c = '\n' then (terminal, [.lineEnd terminal.colour])
    else (terminal, [.cell c terminal.colour])
  | .escape => ({ terminal with mode := if c = '[' then .sequence [] else .text }, [])
  | .sequence parameters =>
    if c = 'm' then
      (⟨.text, selected terminal.colour parameters⟩,
        [.select (selected terminal.colour parameters)])
    else ({ terminal with mode := .sequence (parameters ++ [c]) }, [])

/-- Read a text. -/
def read (terminal : Terminal) : List Char → Terminal × List Event
  | [] => (terminal, [])
  | c :: text =>
    let (next, events) := terminal.step c
    let (last, more) := next.read text
    (last, events ++ more)

/-- Whether a character is shown as it is. -/
def IsPlain (c : Char) : Prop :=
  c ≠ '\x1b' ∧ c ≠ '\n'

theorem read_append (terminal : Terminal) (front back : List Char) :
    terminal.read (front ++ back) =
      (((terminal.read front).1.read back).1,
        (terminal.read front).2 ++ ((terminal.read front).1.read back).2) := by
  induction front generalizing terminal with
  | nil => rfl
  | cons c front ih => simp [read, ih]

theorem read_of_isPlain {text : List Char} (h : ∀ c ∈ text, IsPlain c)
    (colour : Option TerminalColour) :
    (⟨.text, colour⟩ : Terminal).read text =
      (⟨.text, colour⟩, text.map fun c => .cell c colour) := by
  induction text with
  | nil => rfl
  | cons c text ih =>
      obtain ⟨hescape, hline⟩ := h c (by simp)
      simp [read, step, hescape, hline, ih fun c hc => h c (by simp [hc])]

theorem read_parameters {parameters : List Char} (h : 'm' ∉ parameters)
    (front : List Char) (colour : Option TerminalColour) :
    (⟨.sequence front, colour⟩ : Terminal).read (parameters ++ ['m']) =
      (⟨.text, selected colour (front ++ parameters)⟩,
        [.select (selected colour (front ++ parameters))]) := by
  induction parameters generalizing front with
  | nil => simp [read, step]
  | cons c parameters ih =>
      simp only [List.mem_cons, not_or] at h
      simp [read, step, Ne.symm h.1, ih h.2]

/-- A sequence is read as a whole. -/
theorem read_sequence {parameters : List Char} (h : 'm' ∉ parameters)
    (colour : Option TerminalColour) :
    (⟨.text, colour⟩ : Terminal).read ('\x1b' :: '[' :: parameters ++ ['m']) =
      (⟨.text, selected colour parameters⟩, [.select (selected colour parameters)]) := by
  simp [read, step, read_parameters h]

/-! ## Colours in sequences -/

/-- Numbers of a parameter text. -/
def numerals (numbers : List ℕ) : List Char :=
  [';'].intercalate (numbers.map (Nat.toDigits 10))

theorem map_splitOn_numerals {numbers : List ℕ} (h : numbers ≠ []) :
    ((numerals numbers).splitOn ';').map (fun digits => Nat.ofDigitChars 10 digits 0) =
      numbers := by
  have hdigits : ∀ digits ∈ numbers.map (Nat.toDigits 10), ';' ∉ digits := by
    intro digits hmem hsep
    obtain ⟨number, -, rfl⟩ := List.mem_map.mp hmem
    exact absurd (Nat.isDigit_of_mem_toDigits (by decide) (by decide) hsep) (by decide)
  rw [numerals, List.splitOn_intercalate ';' hdigits (by simpa using h), List.map_map]
  simp [Function.comp_def]

theorem not_mem_numerals {c : Char} (hdigit : c.isDigit = false) (hsep : c ≠ ';')
    (numbers : List ℕ) : c ∉ numerals numbers := by
  have hdigits : ∀ number, c ∉ Nat.toDigits 10 number := by
    intro number hmem
    exact absurd (Nat.isDigit_of_mem_toDigits (by decide) (by decide) hmem) (by simp [hdigit])
  unfold numerals
  induction numbers with
  | nil => simp
  | cons number numbers ih =>
      cases numbers with
      | nil => simpa using hdigits number
      | cons next numbers =>
          rw [List.map_cons, List.map_cons, List.intercalate_cons_cons]
          simp only [List.mem_append, List.mem_singleton, not_or]
          exact ⟨⟨hdigits number, hsep⟩, ih⟩

theorem toList_parameters (colour : TerminalColour) :
    colour.parameters.toList =
      match colour with
      | .exact rgb => numerals [38, 2, rgb.red.toNat, rgb.green.toNat, rgb.blue.toNat]
      | .indexed entry => numerals [38, 5, entry]
      | .ansi basic => numerals [38, 5, basic.index] := by
  cases colour with
  | exact rgb =>
      simp [TerminalColour.parameters, numerals]
      rfl
  | indexed entry =>
      simp [TerminalColour.parameters, numerals]
      rfl
  | ansi basic =>
      simp [TerminalColour.parameters, numerals]
      rfl

theorem not_mem_parameters (colour : TerminalColour) : 'm' ∉ colour.parameters.toList := by
  rw [toList_parameters]
  cases colour with
  | exact rgb => exact not_mem_numerals (by decide) (by decide) _
  | indexed entry => exact not_mem_numerals (by decide) (by decide) _
  | ansi basic => exact not_mem_numerals (by decide) (by decide) _

theorem paletteColour_index (basic : AnsiColour) : paletteColour basic.index = .ansi basic := by
  cases basic <;> rfl

theorem paletteColour_of_le {entry : ℕ} (h : 16 ≤ entry) :
    paletteColour entry = .indexed entry := by
  have hnone : basicColours[entry]? = none := List.getElem?_eq_none h
  rw [paletteColour, hnone]

theorem le_paletteEntry (rgb : Rgb) : 16 ≤ ColourMode.paletteEntry rgb := by
  unfold ColourMode.paletteEntry
  dsimp only
  split
  · split
    · exact Nat.le_refl 16
    · split <;> omega
  · omega

/-- The sequence of a shown colour selects it, whatever was selected before. -/
theorem selected_parameters {mode : ColourMode} {rgb : Rgb} {shown : TerminalColour}
    (h : mode.show? rgb = some shown) (colour : Option TerminalColour) :
    selected colour shown.parameters.toList = some shown := by
  rw [selected, toList_parameters]
  cases mode with
  | trueColour =>
      obtain rfl : TerminalColour.exact rgb = shown := Option.some.inj h
      rw [map_splitOn_numerals (by simp)]
      simp
  | palette256 =>
      obtain rfl : TerminalColour.indexed (ColourMode.paletteEntry rgb) = shown :=
        Option.some.inj h
      rw [map_splitOn_numerals (by simp)]
      simp only [paletteColour_of_le (le_paletteEntry rgb)]
  | palette16 =>
      obtain rfl : TerminalColour.ansi (ColourMode.basicColour rgb) = shown := Option.some.inj h
      rw [map_splitOn_numerals (by simp)]
      simp only [paletteColour_index]
  | mono => cases h

theorem selected_reset (colour : Option TerminalColour) :
    selected colour (numerals [39]) = none := by
  rw [selected, map_splitOn_numerals (by simp)]
  rfl

/-- A text between a sequence and the reset is shown in the colour of the sequence. -/
theorem read_framed {text parameters : List Char} {colour : TerminalColour}
    (htext : ∀ c ∈ text, IsPlain c) (hend : 'm' ∉ parameters)
    (hcolour : selected none parameters = some colour) :
    fresh.read ('\x1b' :: '[' :: parameters ++ 'm' :: text ++ "\x1b[39m".toList) =
      (fresh, .select (some colour) :: text.map (Event.cell · (some colour)) ++
        [.select none]) := by
  have hset : fresh.read ('\x1b' :: '[' :: parameters ++ ['m']) =
      (⟨.text, some colour⟩, [.select (some colour)]) := by
    rw [fresh, read_sequence hend, hcolour]
  have hreset : (⟨.text, some colour⟩ : Terminal).read "\x1b[39m".toList =
      (fresh, [.select none]) := by
    have hparameters : 'm' ∉ numerals [39] := not_mem_numerals (by decide) (by decide) [39]
    rw [show "\x1b[39m".toList = '\x1b' :: '[' :: numerals [39] ++ ['m'] by decide,
      read_sequence hparameters, selected_reset, fresh]
  have hsplit : '\x1b' :: '[' :: parameters ++ 'm' :: text =
      ('\x1b' :: '[' :: parameters ++ ['m']) ++ text := by simp
  rw [hsplit, read_append, read_append, hset]
  simp only [read_of_isPlain htext, hreset]
  simp

theorem read_flatMap {α : Type} {parts : List α} {text : α → List Char}
    {events : α → List Event} (h : ∀ part ∈ parts, fresh.read (text part) = (fresh, events part)) :
    fresh.read (parts.flatMap text) = (fresh, parts.flatMap events) := by
  induction parts with
  | nil => rfl
  | cons part parts ih =>
      simp only [List.mem_cons, forall_eq_or_imp] at h
      rw [List.flatMap_cons, read_append, h.1, ih h.2, List.flatMap_cons]

theorem read_intercalate {α : Type} {lines : List α} {text : α → List Char}
    {events : α → List Event} (h : ∀ line ∈ lines, fresh.read (text line) = (fresh, events line)) :
    fresh.read (['\n'].intercalate (lines.map text)) =
      (fresh, [Event.lineEnd none].intercalate (lines.map events)) := by
  induction lines with
  | nil => rfl
  | cons line lines ih =>
      simp only [List.mem_cons, forall_eq_or_imp] at h
      cases lines with
      | nil => simpa using h.1
      | cons next lines =>
          have hend : fresh.read ['\n'] = (fresh, [.lineEnd none]) := rfl
          rw [List.map_cons, List.map_cons, List.intercalate_cons_cons, read_append, read_append,
            h.1, hend, ← List.map_cons, ih h.2]
          simp [List.intercalate_cons_cons]

/-! ## Events without sequences -/

namespace Event

/-- Whether a character is shown, and no sequence read. -/
def isShown : Event → Bool
  | .cell _ _ => true
  | .lineEnd _ => true
  | .select _ => false

/-- The character that is shown. -/
def char? : Event → Option Char
  | .cell c _ => some c
  | .lineEnd _ => some '\n'
  | .select _ => none

end Event

end Terminal

end Dashboard
