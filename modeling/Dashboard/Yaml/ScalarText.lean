import Dashboard.Yaml.Value

/-! # Writing scalars

A text is written plainly if it then reads back as the same text, in single
quotes if it would be read as something else, as a literal block if it has
several lines, and with escapes if nothing else can show it. -/

namespace Dashboard.Yaml

/-- Whether a character is written as it is: line feeds and everything visible
in two or three bytes, without byte order marks. -/
def isWritable (c : Char) : Bool :=
  let code := c.toNat
  code = 0x0A || (0x20 ≤ code && code ≤ 0x7E) || (0xA0 ≤ code && code < 0x10000 &&
    code != 0xFEFF && code != 0xFFFE && code != 0xFFFF)

/-- Whether a text could be taken for structure at its first character. -/
def startsIndicator : List Char → Bool
  | [] => false
  | c :: rest =>
    indicators.contains c || ((c = '?' || c = ':' || c = '-') && startsBlank rest)

/-- Whether a text has a colon before a blank, or a number sign after one, past
its first character. -/
def hasIndicator : List Char → Bool
  | a :: b :: rest =>
    (b = ':' && startsBlank rest) || (b = '#' && (isBlank a || isBreak a)) ||
      hasIndicator (b :: rest)
  | _ => false

/-- Whether two characters of these classes stand side by side. -/
def hasPair (p q : Char → Bool) : List Char → Bool
  | a :: b :: rest => (p a && q b) || hasPair p q (b :: rest)
  | _ => false

/-- What decides how a text can be written. -/
structure Traits where
  /-- It could be taken for structure. -/
  hasIndicators : Bool
  hasBreaks : Bool
  /-- A character in it needs an escape. -/
  hasUnwritable : Bool
  /-- It starts or ends with a space or a line break. -/
  hasOuterSpace : Bool
  endsWithSpace : Bool
  /-- A space follows a line break. -/
  hasBreakSpace : Bool
  /-- A line break follows a space. -/
  hasSpaceBreak : Bool

/-- Traits of a text. -/
def Traits.of (text : List Char) : Traits where
  hasIndicators := startsIndicator text || hasIndicator text ||
    text.take 3 == ['-', '-', '-'] || text.take 3 == ['.', '.', '.']
  hasBreaks := text.any isBreak
  hasUnwritable := text.any fun c => !isWritable c
  hasOuterSpace := text.head?.any (fun c => c = ' ' || isBreak c) ||
    text.getLast?.any (fun c => c = ' ' || isBreak c)
  endsWithSpace := text.getLast? == some ' '
  hasBreakSpace := hasPair isBreak (· == ' ') text
  hasSpaceBreak := hasPair (· == ' ') isBreak text

/-- Style a text is written in. -/
def styleOf (text : String) : Style :=
  let traits := Traits.of text.toList
  let needsEscapes := traits.hasSpaceBreak || traits.hasUnwritable
  if text.toList.contains '\n' then
    if needsEscapes || traits.endsWithSpace then .doubleQuoted else .literal
  else if needsEscapes || traits.hasBreakSpace then .doubleQuoted
  else if isTypedText text || traits.hasIndicators || traits.hasBreaks || traits.hasOuterSpace then
    .singleQuoted
  else .plain

/-- Hexadecimal digits of a code, in capitals, padded to a length. -/
def hexPadded (length code : Nat) : List Char :=
  let digits := (Nat.toDigits 16 code).map Char.toUpper
  List.replicate (length - digits.length) '0' ++ digits

/-- A character between double quotes. -/
def escapedChar (c : Char) : List Char :=
  if isWritable c && !isBreak c && c != '"' && c != '\\' then [c]
  else
    let letter? : Option Char :=
      match c with
      | '\x00' => some '0'
      | '\x07' => some 'a'
      | '\x08' => some 'b'
      | '\t' => some 't'
      | '\n' => some 'n'
      | '\x0b' => some 'v'
      | '\x0c' => some 'f'
      | '\r' => some 'r'
      | '\x1b' => some 'e'
      | '"' => some '"'
      | '\\' => some '\\'
      | '\u0085' => some 'N'
      | '\u00a0' => some '_'
      | '\u2028' => some 'L'
      | '\u2029' => some 'P'
      | _ => none
    match letter? with
    | some letter => ['\\', letter]
    | none =>
      let code := c.toNat
      if code ≤ 0xFF then '\\' :: 'x' :: hexPadded 2 code
      else if code ≤ 0xFFFF then '\\' :: 'u' :: hexPadded 4 code
      else '\\' :: 'U' :: hexPadded 8 code

/-- Text whose lines after a break are indented. The flag says that a line has
just started. -/
def indentLines (indent : Nat) : Bool → List Char → List Char
  | atStart, c :: rest =>
    if isBreak c then c :: indentLines indent true rest
    else (if atStart then List.replicate indent ' ' else []) ++ c :: indentLines indent false rest
  | _, [] => []

/-- A text in single quotes, its quotes doubled and its lines indented. -/
def singleQuotedText (indent : Nat) (text : List Char) : List Char :=
  let doubled := text.flatMap fun c => if c = '\'' then ['\'', '\''] else [c]
  let tail := if text.getLast?.any isBreak then List.replicate indent ' ' else []
  '\'' :: indentLines indent false doubled ++ tail ++ ['\'']

/-- Header of a literal block: explicit indentation if it starts with a space
or an empty line, and what its end does to line breaks. -/
def literalHeader (step : Nat) (text : List Char) : List Char :=
  let indentation :=
    if text.head?.any fun c => c = ' ' || isBreak c then (toString step).toList else []
  let chomping :=
    match text.reverse with
    | last :: before =>
      if !isBreak last then ['-']
      else if before.isEmpty || before.head?.any isBreak then ['+']
      else []
    | [] => ['-']
  '|' :: indentation ++ chomping

/-- A text as the value of a key, with the line break after it. Its lines, if it
is a block, are indented by `indent`, which is `step` more than the key. -/
def scalarLine (indent step : Nat) (text : String) : List Char :=
  let chars := text.toList
  match styleOf text with
  | .plain => chars ++ ['\n']
  | .singleQuoted => singleQuotedText indent chars ++ ['\n']
  | .doubleQuoted => '"' :: chars.flatMap escapedChar ++ ['"', '\n']
  | .literal | .folded =>
    literalHeader step chars ++ '\n' :: indentLines indent true chars ++
      if chars.getLast?.any isBreak then [] else ['\n']

end Dashboard.Yaml
