import Dashboard.Logging.Pattern
import Dashboard.Text.Blank
import Dashboard.Text.Table.Alphanumeric

/-! # Filter directives

A log filter is a list of directives between commas. A directive names a level,
a target, or a target and a level; a span with fields may follow the target in
brackets. Only the form is decided here. -/

namespace Dashboard.Logging

/-- Names of levels, in any case. -/
def levelNames : List String :=
  ["error", "warn", "info", "debug", "trace", "off"]

/-- Whether a text is a level: a name, or a number up to five. -/
def isLevel (text : List Char) : Bool :=
  let digits := match text with
    | '+' :: rest => rest
    | _ => text
  levelNames.contains (String.ofList (text.map Char.toLower)) ||
    (!digits.isEmpty && digits.all Char.isDigit && Decimal.digitsValue digits ≤ 5)

/-- Whether a directive may start with a character other than a bracket. -/
def isTargetStart (c : Char) : Bool :=
  c = '-' || c = ':' || c = '_' || Text.inRanges Text.alphanumericRanges c

/-- Whether a text after an equals sign leaves every level allowed or names
one. -/
def isLevelPart (text : List Char) : Bool :=
  text.isEmpty || isLevel text

/-- Whether a field condition names a field and, after an equals sign, a
pattern. -/
def isFieldPart (text : List Char) : Bool :=
  !text.isEmpty &&
    match text.dropWhile (· ≠ '=') with
    | _ :: value => isPattern (value.takeWhile (· ≠ '='))
    | [] => true

/-- Whether what follows a span is nothing, or an equals sign and a level. -/
def isAfterSpan (isLevelPart : List Char → Bool) : List Char → Bool
  | [] => true
  | '=' :: level => isLevelPart level
  | _ => false

/-- Whether a text after an opening bracket is a span, with a field condition
in braces perhaps, its closing bracket, and what may follow. -/
def isSpanPart (isLevelPart : List Char → Bool) (text : List Char) : Bool :=
  match text.dropWhile fun c => c ≠ ']' && c ≠ '\x7b' with
  | ']' :: rest => isAfterSpan isLevelPart rest
  | _ :: rest =>
    isFieldPart (rest.takeWhile (· ≠ '\x7d')) &&
      match rest.dropWhile (· ≠ '\x7d') with
      | _ :: ']' :: rest => isAfterSpan isLevelPart rest
      | _ => false
  | [] => false

/-- Whether a text without white space around it is a directive. -/
def isTrimmedDirective (isLevelPart : List Char → Bool) : List Char → Bool
  | [] => false
  | '[' :: rest => isSpanPart isLevelPart rest
  | c :: rest =>
    isTargetStart c &&
      match rest.dropWhile fun c => c ≠ '=' && c ≠ '[' with
      | '=' :: level => isLevelPart level
      | _ :: span => isSpanPart isLevelPart span
      | [] => true

/-- Whether a text is a directive. White space around it does no harm where no
level follows an equals sign; with one, white space behind it belongs to the
level, and there may be none in front. -/
def isDirective (text : List Char) : Bool :=
  let lead := text.takeWhile Text.isBlank
  let body := Text.trim text
  let trail := text.drop (lead.length + body.length)
  isTrimmedDirective (fun level => lead.isEmpty && isLevelPart (level ++ trail)) body

/-- The pieces of a text between commas. -/
def splitCommas : List Char → List (List Char)
  | [] => [[]]
  | c :: rest =>
    match splitCommas rest with
    | piece :: pieces => if c = ',' then [] :: piece :: pieces else (c :: piece) :: pieces
    | [] => [[c]]

/-- Whether a text is a log filter: directives between commas, empty ones
ignored. -/
def isFilter (text : String) : Bool :=
  (splitCommas text.toList).all fun piece => piece.isEmpty || isDirective piece

end Dashboard.Logging
