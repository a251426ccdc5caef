/-! # Reading position

The text still to be read and where it starts: line, column and index count
characters. -/

namespace Dashboard.Yaml

/-- Whether a character ends a line. -/
def isBreak (c : Char) : Bool :=
  c = '\n' || c = '\r' || c = '\u0085' || c = '\u2028' || c = '\u2029'

/-- Whether a character is a space or a tab. -/
def isBlank (c : Char) : Bool :=
  c = ' ' || c = '\t'

/-- Whether a character may stand in a document. -/
def isAllowed (c : Char) : Bool :=
  let code := c.toNat
  code = 0x09 || code = 0x0A || code = 0x0D || (0x20 ≤ code && code ≤ 0x7E) || code = 0x85 ||
    (0xA0 ≤ code && code ≤ 0xFFFD) || 0x10000 ≤ code

/-- Whether a character may stand in an anchor or a directive name. -/
def isWord (c : Char) : Bool :=
  c.isAlphanum || c = '_' || c = '-'

/-- Whether a list starts with a blank, a line break or nothing. -/
def startsBlank : List Char → Bool
  | [] => true
  | c :: _ => isBlank c || isBreak c

/-- Whether a list starts with a line break or nothing. -/
def startsBreak : List Char → Bool
  | [] => true
  | c :: _ => isBreak c

/-- Characters that never start a plain scalar. -/
def indicators : List Char :=
  [',', '[', ']', '\x7b', '\x7d', '#', '&', '*', '!', '|', '>', '\'', '"', '%', '@', '\x60']

/-- A position in a text. -/
structure Cursor where
  rest : List Char
  line : Nat
  column : Nat
  index : Nat

namespace Cursor

/-- The start of a text. -/
def start (text : List Char) : Cursor := ⟨text, 0, 0, 0⟩

/-- The next character. -/
def head? (cursor : Cursor) : Option Char :=
  cursor.rest.head?

/-- Whether the next character is this one. -/
def startsWith (cursor : Cursor) (c : Char) : Bool :=
  cursor.head? == some c

/-- Whether a line break comes next. -/
def atBreak (cursor : Cursor) : Bool :=
  cursor.head?.any isBreak

/-- Whether a blank comes next. -/
def atBlank (cursor : Cursor) : Bool :=
  cursor.head?.any isBlank

/-- Past `count` characters of one line. -/
def skip (cursor : Cursor) (count : Nat) : Cursor :=
  { rest := cursor.rest.drop count
    line := cursor.line
    column := cursor.column + count
    index := cursor.index + count }

/-- Past the characters of this line that satisfy a condition. -/
def skipWhile (cursor : Cursor) (p : Char → Bool) : Cursor :=
  cursor.skip (cursor.rest.takeWhile p).length

/-- Past a line break. A carriage return and a line feed are one. -/
def skipBreak (cursor : Cursor) : Cursor :=
  match cursor.rest with
  | '\r' :: '\n' :: rest => ⟨rest, cursor.line + 1, 0, cursor.index + 2⟩
  | _ :: rest => ⟨rest, cursor.line + 1, 0, cursor.index + 1⟩
  | [] => cursor

/-- The line break that comes next as text: line and paragraph separators stand
for themselves, every other break for a line feed. -/
def breakText (cursor : Cursor) : List Char :=
  match cursor.head? with
  | some c => if isBreak c then [if c = '\u2028' ∨ c = '\u2029' then c else '\n'] else []
  | none => []

/-- Whether a line that starts here opens or closes a document. -/
def atDocumentIndicator (cursor : Cursor) : Bool :=
  cursor.column == 0 &&
    match cursor.rest with
    | '-' :: '-' :: '-' :: rest => startsBlank rest
    | '.' :: '.' :: '.' :: rest => startsBlank rest
    | _ => false

end Cursor

end Dashboard.Yaml
