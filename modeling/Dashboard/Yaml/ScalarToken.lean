import Dashboard.Json
import Dashboard.Yaml.Cursor

/-! # Reading scalars

The five ways to write a scalar. Lines of plain and quoted scalars are folded:
a single line break between them counts as a space, further ones as
themselves. Every reader returns the text of the scalar in reverse. -/

namespace Dashboard.Yaml

/-- Blanks and line breaks between two runs of a scalar. -/
structure Gap where
  /-- Blanks before any line break, last first. -/
  blanks : List Char
  /-- Text of the first line break. -/
  firstBreak : List Char
  /-- Texts of further line breaks, last first. -/
  furtherBreaks : List Char
  /-- Whether a line ended in the gap. -/
  isLineEnd : Bool

namespace Gap

/-- Nothing between two runs. -/
def none : Gap := ⟨[], [], [], false⟩

/-- What a gap stands for, in reverse. -/
def folded (gap : Gap) : List Char :=
  if gap.isLineEnd then
    if gap.firstBreak = ['\n'] then
      if gap.furtherBreaks.isEmpty then [' '] else gap.furtherBreaks
    else gap.furtherBreaks ++ gap.firstBreak
  else gap.blanks

/-- Read on over blanks and line breaks. After a line break, a tab left of
`indent` is an error. -/
def read? (indent : Nat) : Nat → Gap → Cursor → Option (Gap × Cursor)
  | 0, _, _ => Option.none
  | fuel + 1, gap, cursor =>
    match cursor.head? with
    | some c =>
      if isBlank c then
        if gap.isLineEnd then
          if c = '\t' ∧ cursor.column < indent then Option.none
          else read? indent fuel gap (cursor.skip 1)
        else read? indent fuel { gap with blanks := c :: gap.blanks } (cursor.skip 1)
      else if isBreak c then
        let gap :=
          if gap.isLineEnd then { gap with furtherBreaks := cursor.breakText ++ gap.furtherBreaks }
          else { gap with blanks := [], firstBreak := cursor.breakText, isLineEnd := true }
        read? indent fuel gap cursor.skipBreak
      else some (gap, cursor)
    | Option.none => some (gap, cursor)

end Gap

/-- Value of a run of hexadecimal digits of fixed length. -/
def hexRun? (count : Nat) (text : List Char) : Option Nat :=
  if text.length < count then none
  else (text.take count).foldlM (fun value c => (Json.hexValue? c).map (16 * value + ·)) 0

/-- Character a one-letter escape stands for. -/
def escapeChar? : Char → Option Char
  | '0' => some '\x00'
  | 'a' => some '\x07'
  | 'b' => some '\x08'
  | 't' => some '\t'
  | '\t' => some '\t'
  | 'n' => some '\n'
  | 'v' => some '\x0b'
  | 'f' => some '\x0c'
  | 'r' => some '\r'
  | 'e' => some '\x1b'
  | ' ' => some ' '
  | '"' => some '"'
  | '/' => some '/'
  | '\\' => some '\\'
  | 'N' => some '\u0085'
  | '_' => some '\u00a0'
  | 'L' => some '\u2028'
  | 'P' => some '\u2029'
  | _ => none

/-- Digits of the code in an escape with a code. -/
def escapeDigits? : Char → Option Nat
  | 'x' => some 2
  | 'u' => some 4
  | 'U' => some 8
  | _ => none

/-- The character of an escape after its backslash, and how long the escape is
there. -/
def readEscape? (text : List Char) : Option (Char × Nat) :=
  match text with
  | [] => none
  | c :: rest =>
    match escapeChar? c with
    | some escaped => some (escaped, 1)
    | none => do
      let count ← escapeDigits? c
      let code ← hexRun? count rest
      if code < 0xD800 ∨ (0xDFFF < code ∧ code ≤ 0x10FFFF) then some (Char.ofNat code, count + 1)
      else none

/-- Read a quoted scalar up to the next blank, line break or closing quote. The
third value says whether an escaped line break ended the run. -/
def readQuotedRun? (single : Bool) : Nat → List Char → Cursor → Option (List Char × Cursor × Bool)
  | 0, _, _ => none
  | fuel + 1, text, cursor =>
    if startsBlank cursor.rest then some (text, cursor, false)
    else
      match single, cursor.rest with
      | true, '\'' :: '\'' :: _ => readQuotedRun? single fuel ('\'' :: text) (cursor.skip 2)
      | true, '\'' :: _ => some (text, cursor, false)
      | false, '"' :: _ => some (text, cursor, false)
      | false, '\\' :: rest =>
        if rest.head?.any isBreak then some (text, (cursor.skip 1).skipBreak, true)
        else do
          let (c, length) ← readEscape? rest
          readQuotedRun? single fuel (c :: text) (cursor.skip (length + 1))
      | _, c :: _ => readQuotedRun? single fuel (c :: text) (cursor.skip 1)
      | _, [] => none

/-- Read a quoted scalar after its opening quote, past the closing one. -/
def readQuoted? (single : Bool) : Nat → List Char → Cursor → Option (List Char × Cursor)
  | 0, _, _ => none
  | fuel + 1, text, cursor =>
    if cursor.atDocumentIndicator ∨ cursor.rest.isEmpty then none
    else do
      let (text, cursor, isLineEnd) ← readQuotedRun? single (cursor.rest.length + 1) text cursor
      if cursor.startsWith (if single then '\'' else '"') then some (text, cursor.skip 1)
      else
        let (gap, cursor) ← Gap.read? 0 (cursor.rest.length + 1) ⟨[], [], [], isLineEnd⟩ cursor
        readQuoted? single fuel (gap.folded ++ text) cursor

/-- Whether a plain scalar ends before these characters. -/
def endsPlain (inFlow : Bool) : List Char → Bool
  | [] => true
  | c :: rest =>
    isBlank c || isBreak c || (c = ':' && startsBlank rest) ||
      (inFlow && (c = ',' || c = '[' || c = ']' || c = '\x7b' || c = '\x7d'))

/-- Whether a colon that touches a flow indicator comes next. -/
def isMisplacedColon : List Char → Bool
  | ':' :: c :: _ => c = ',' || c = '?' || c = '[' || c = ']' || c = '\x7b' || c = '\x7d'
  | _ => false

/-- Read a plain scalar up to a character that ends it. In flow collections a
colon that touches an indicator is an error. -/
def readPlainRun? (inFlow : Bool) : Nat → List Char → Cursor → Option (List Char × Cursor)
  | 0, _, _ => none
  | fuel + 1, text, cursor =>
    match cursor.rest with
    | [] => some (text, cursor)
    | c :: _ =>
      if inFlow && isMisplacedColon cursor.rest then none
      else if endsPlain inFlow cursor.rest then some (text, cursor)
      else readPlainRun? inFlow fuel (c :: text) (cursor.skip 1)

/-- Read a plain scalar. In block context its lines are indented by `indent` at
least. The third value says whether a line ended after it. -/
def readPlain? (inFlow : Bool) (indent : Nat) :
    Nat → List Char → Gap → Cursor → Option (List Char × Cursor × Bool)
  | 0, _, _, _ => none
  | fuel + 1, text, gap, cursor =>
    if cursor.atDocumentIndicator || cursor.startsWith '#' then some (text, cursor, gap.isLineEnd)
    else do
      let (run, next) ← readPlainRun? inFlow (cursor.rest.length + 1) [] cursor
      let text := if run.isEmpty then text else run ++ gap.folded ++ text
      let gap := if run.isEmpty then gap else Gap.none
      if next.atBlank || next.atBreak then
        let (gap, next) ← Gap.read? indent (next.rest.length + 1) gap next
        if !inFlow && next.column < indent then some (text, next, gap.isLineEnd)
        else readPlain? inFlow indent fuel text gap next
      else some (text, next, gap.isLineEnd)

/-- What happens to the line breaks at the end of a block scalar. -/
inductive Chomping where
  | strip
  | clip
  | keep
deriving DecidableEq

/-- The chomping a character asks for. -/
def chomping? : Char → Option Chomping
  | '+' => some .keep
  | '-' => some .strip
  | _ => none

/-- The header of a block scalar after its indicator: chomping and explicit
indentation, in either order. -/
def readBlockHeader? (cursor : Cursor) : Option (Chomping × Nat × Cursor) :=
  let digit? (cursor : Cursor) : Option (Nat × Cursor) :=
    match cursor.head? with
    | some c =>
      if c = '0' then none
      else if c.isDigit then some (c.toNat - '0'.toNat, cursor.skip 1)
      else some (0, cursor)
    | none => some (0, cursor)
  match cursor.head?.bind chomping? with
  | some chomping => (digit? (cursor.skip 1)).map fun (increment, cursor) =>
      (chomping, increment, cursor)
  | none => (digit? cursor).map fun (increment, cursor) =>
      if increment = 0 then (.clip, 0, cursor)
      else
        match cursor.head?.bind chomping? with
        | some chomping => (chomping, increment, cursor.skip 1)
        | none => (.clip, increment, cursor)

/-- Read the indentation of the next line that is not empty, collecting the
breaks of empty ones. While the indentation is not settled (zero), the longest
one seen is returned too. -/
def readBlockBreaks? (indent : Nat) :
    Nat → Nat → List Char → Cursor → Option (Nat × List Char × Cursor)
  | 0, _, _, _ => none
  | fuel + 1, longest, breaks, cursor =>
    let spaces := (cursor.rest.takeWhile (· == ' ')).length
    let cursor := cursor.skip (if indent = 0 then spaces else min spaces (indent - cursor.column))
    let longest := max longest cursor.column
    if (indent = 0 ∨ cursor.column < indent) ∧ cursor.startsWith '\t' then none
    else if cursor.atBreak then
      readBlockBreaks? indent fuel longest (cursor.breakText ++ breaks) cursor.skipBreak
    else some (longest, breaks, cursor)

/-- Read the lines of a block scalar. A folded one joins two lines by a space
unless either starts with a blank. -/
def readBlockLines? (folded : Bool) (indent : Nat) :
    Nat → List Char → List Char → List Char → Bool → Cursor →
      Option (List Char × List Char × List Char × Cursor)
  | 0, _, _, _, _, _ => none
  | fuel + 1, text, lineBreak, breaks, afterBlank, cursor =>
    if cursor.column = indent ∧ !cursor.rest.isEmpty then
      let startsBlank := cursor.atBlank
      let joined :=
        if folded ∧ lineBreak = ['\n'] ∧ !afterBlank ∧ !startsBlank then
          if breaks.isEmpty then [' '] else []
        else lineBreak
      let line := cursor.rest.takeWhile fun c => !isBreak c
      let text := line.reverse ++ (breaks ++ (joined ++ text))
      let cursor := cursor.skip line.length
      let lineBreak := cursor.breakText
      let cursor := if cursor.atBreak then cursor.skipBreak else cursor
      match readBlockBreaks? indent (cursor.rest.length + 1) 0 [] cursor with
      | some (_, breaks, cursor) =>
        readBlockLines? folded indent fuel text lineBreak breaks startsBlank cursor
      | none => none
    else some (text, lineBreak, breaks, cursor)

/-- Read a block scalar after its indicator. The indentation is that of the
first line that is not empty unless the header gives it relative to `parent`;
it is deeper than `parent` in any case. -/
def readBlock? (folded : Bool) (parent : Int) (cursor : Cursor) : Option (List Char × Cursor) := do
  let (chomping, increment, cursor) ← readBlockHeader? cursor
  let cursor := cursor.skipWhile isBlank
  let cursor := if cursor.startsWith '#' then cursor.skipWhile fun c => !isBreak c else cursor
  if !startsBreak cursor.rest then none
  let cursor := if cursor.atBreak then cursor.skipBreak else cursor
  let given := if increment = 0 then 0 else (max parent 0).toNat + increment
  let (longest, breaks, cursor) ←
    readBlockBreaks? given (cursor.rest.length + 1) 0 [] cursor
  let indent := if given = 0 then max longest (max (parent + 1) 1).toNat else given
  let (text, lineBreak, breaks, cursor) ←
    readBlockLines? folded indent (cursor.rest.length + 1) [] [] breaks false cursor
  let tail := match chomping with
    | .strip => []
    | .clip => lineBreak
    | .keep => breaks ++ lineBreak
  return (tail ++ text, cursor)

end Dashboard.Yaml
