import Dashboard.Decimal.Text

/-! # JSON texts

A reader for JSON texts and the views of a value that records are decoded
from. Numerals keep their parts, so a record decides whether one is an integer
or a double. -/

namespace Dashboard

/-- A numeral: sign, digits before and after the point, and power of ten. A
numeral with neither point nor exponent is whole. -/
structure Numeral where
  negative : Bool
  whole : List Char
  fraction : List Char
  power : Int
  isWhole : Bool
deriving DecidableEq

namespace Numeral

/-- The 64-bit integer a numeral spells. Minus zero is not one. -/
def int? (n : Numeral) : Option Int :=
  let magnitude := Decimal.digitsValue n.whole
  if !n.isWhole then none
  else if n.negative then
    if 0 < magnitude ∧ magnitude ≤ Nat.pow 2 63 then some (-(magnitude : Int)) else none
  else if magnitude < Nat.pow 2 63 then some magnitude
  else none

/-- The nearest double, unless it is infinite. -/
def float? (n : Numeral) : Option Float :=
  let x := (Decimal.ofParts n.whole n.fraction n.power).toFloat
  if x.isFinite then some (if n.negative then -x else x) else none

end Numeral

/-- A JSON value. Strings hold `none` when an escape names half of a surrogate
pair: the text is well-formed, but stands for no characters. -/
inductive Json where
  | null
  | bool (value : Bool)
  | number (numeral : Numeral)
  | string (text : Option String)
  | array (elements : List Json)
  | object (fields : List (Option String × Json))

namespace Json

/-- White space between tokens. -/
def isBlank (c : Char) : Bool :=
  c = ' ' || c = '\n' || c = '\t' || c = '\r'

/-- What a string spells: characters, and 16-bit halves of surrogate pairs. -/
inductive Piece where
  | char (c : Char)
  | half (unit : Nat)

/-- Value of a hexadecimal digit. -/
def hexValue? (c : Char) : Option Nat :=
  if c.isDigit then some (c.toNat - '0'.toNat)
  else if 'a' ≤ c ∧ c ≤ 'f' then some (c.toNat - 'a'.toNat + 10)
  else if 'A' ≤ c ∧ c ≤ 'F' then some (c.toNat - 'A'.toNat + 10)
  else none

/-- The piece a 16-bit code stands for. -/
def Piece.ofUnit (unit : Nat) : Piece :=
  if 0xD800 ≤ unit ∧ unit < 0xE000 then half unit else char (Char.ofNat unit)

/-- Character an escape letter stands for. -/
def escaped? : Char → Option Char
  | '"' => some '"'
  | '\\' => some '\\'
  | '/' => some '/'
  | 'b' => some '\x08'
  | 'f' => some '\x0c'
  | 'n' => some '\n'
  | 'r' => some '\r'
  | 't' => some '\t'
  | _ => none

/-- Pieces up to the closing quote, and the text after it. -/
def readPieces : List Char → Option (List Piece × List Char)
  | [] => none
  | '"' :: rest => some ([], rest)
  | '\\' :: 'u' :: a :: b :: c :: d :: rest => do
    let high := 16 * (← hexValue? a) + (← hexValue? b)
    let low := 16 * (← hexValue? c) + (← hexValue? d)
    let (pieces, rest) ← readPieces rest
    return (Piece.ofUnit (256 * high + low) :: pieces, rest)
  | '\\' :: c :: rest => do
    let c ← escaped? c
    let (pieces, rest) ← readPieces rest
    return (.char c :: pieces, rest)
  | c :: rest =>
    if c.toNat < 0x20 then none
    else do
      let (pieces, rest) ← readPieces rest
      return (.char c :: pieces, rest)

/-- Characters of a string whose surrogate halves all form pairs. -/
def joinPieces : List Piece → Option (List Char)
  | [] => some []
  | .char c :: rest => (joinPieces rest).map (c :: ·)
  | .half high :: .half low :: rest =>
    if high < 0xDC00 ∧ 0xDC00 ≤ low then
      let c := Char.ofNat (0x10000 + (high - 0xD800) * 0x400 + (low - 0xDC00))
      (joinPieces rest).map (c :: ·)
    else none
  | .half _ :: _ => none

/-- A string after its opening quote. -/
def readString (text : List Char) : Option (Option String × List Char) :=
  (readPieces text).map fun (pieces, rest) => ((joinPieces pieces).map String.ofList, rest)

/-- Split off an exponent, if there is one. -/
def readPower (text : List Char) : Option (Option Int × List Char) :=
  match text with
  | c :: rest =>
    if c = 'e' ∨ c = 'E' then
      let (negative, digits) := Decimal.readSign rest
      let power := digits.takeWhile Char.isDigit
      let value : Int := Decimal.digitsValue power
      if power.isEmpty then none
      else some (some (if negative then -value else value), digits.dropWhile Char.isDigit)
    else some (none, text)
  | [] => some (none, [])

/-- A numeral at the start of a text. A leading zero stands alone. -/
def readNumeral (text : List Char) : Option (Numeral × List Char) := do
  let (negative, text) := match text with
    | '-' :: rest => (true, rest)
    | _ => (false, text)
  let whole := text.takeWhile Char.isDigit
  let rest := text.dropWhile Char.isDigit
  if whole.isEmpty ∨ (whole.head? = some '0' ∧ 1 < whole.length) then none
  let (fraction, rest) ← match rest with
    | '.' :: rest =>
      let fraction := rest.takeWhile Char.isDigit
      if fraction.isEmpty then none else some (some fraction, rest.dropWhile Char.isDigit)
    | _ => some (none, rest)
  let (power, rest) ← readPower rest
  return (⟨negative, whole, fraction.getD [], power.getD 0, fraction.isNone && power.isNone⟩, rest)

mutual

/-- A value at the start of a text, and the text after it. Every nested reading
spends fuel, and consumes at least one character. -/
def readValue : Nat → List Char → Option (Json × List Char)
  | 0, _ => none
  | fuel + 1, text =>
    match text.dropWhile isBlank with
    | 'n' :: 'u' :: 'l' :: 'l' :: rest => some (null, rest)
    | 't' :: 'r' :: 'u' :: 'e' :: rest => some (bool true, rest)
    | 'f' :: 'a' :: 'l' :: 's' :: 'e' :: rest => some (bool false, rest)
    | '"' :: rest => (readString rest).map fun (s, rest) => (string s, rest)
    | '[' :: rest =>
      match rest.dropWhile isBlank with
      | ']' :: rest => some (array [], rest)
      | rest => (readElements fuel rest).map fun (values, rest) => (array values, rest)
    | '{' :: rest =>
      match rest.dropWhile isBlank with
      | '}' :: rest => some (object [], rest)
      | rest => (readFields fuel rest).map fun (fields, rest) => (object fields, rest)
    | rest => (readNumeral rest).map fun (n, rest) => (number n, rest)

/-- The elements of an array up to its bracket. -/
def readElements : Nat → List Char → Option (List Json × List Char)
  | 0, _ => none
  | fuel + 1, text => do
    let (value, rest) ← readValue fuel text
    match rest.dropWhile isBlank with
    | ']' :: rest => return ([value], rest)
    | ',' :: rest =>
      let (values, rest) ← readElements fuel rest
      return (value :: values, rest)
    | _ => none

/-- The fields of an object up to its brace. -/
def readFields : Nat → List Char → Option (List (Option String × Json) × List Char)
  | 0, _ => none
  | fuel + 1, text =>
    match text.dropWhile isBlank with
    | '"' :: rest => do
      let (key, rest) ← readString rest
      match rest.dropWhile isBlank with
      | ':' :: rest =>
        let (value, rest) ← readValue fuel rest
        match rest.dropWhile isBlank with
        | '}' :: rest => return ([(key, value)], rest)
        | ',' :: rest =>
          let (fields, rest) ← readFields fuel rest
          return ((key, value) :: fields, rest)
        | _ => none
      | _ => none
    | _ => none

end

/-- The value a text consists of, with white space around it. -/
def read? (text : String) : Option Json :=
  match readValue (2 * text.length + 2) text.toList with
  | some (value, rest) => if rest.all isBlank then some value else none
  | none => none

/-- Characters of a string value. -/
def text? : Json → Option String
  | string s => s
  | _ => none

/-- Name of a unit variant: a string, or an object whose only field is null. -/
def variant? : Json → Option String
  | string s => s
  | object [(name, null)] => name
  | _ => none

/-- The integer of a number value. -/
def int? : Json → Option Int
  | number n => n.int?
  | _ => none

/-- The double of a number value. -/
def float? : Json → Option Float
  | number n => n.float?
  | _ => none

/-- Fields under their names, if every name stands for characters. -/
def named? (fields : List (Option String × Json)) : Option (List (String × Json)) :=
  fields.mapM fun (name, value) => name.map (·, value)

/-- The value of a field that occurs exactly once. -/
def once? (fields : List (String × Json)) (name : String) : Option Json :=
  match fields.filter fun field => field.1 == name with
  | [(_, value)] => some value
  | _ => none

/-- Lower-case hexadecimal digits of a number below 256. -/
def hexByte (n : Nat) : List Char :=
  let digits := Nat.toDigits 16 n
  List.replicate (2 - digits.length) '0' ++ digits

/-- A character inside a quoted string. -/
def quotedChar (c : Char) : List Char :=
  match c with
  | '"' => ['\\', '"']
  | '\\' => ['\\', '\\']
  | '\n' => ['\\', 'n']
  | '\r' => ['\\', 'r']
  | '\t' => ['\\', 't']
  | '\x08' => ['\\', 'b']
  | '\x0c' => ['\\', 'f']
  | c => if c.toNat < 0x20 then '\\' :: 'u' :: '0' :: '0' :: hexByte c.toNat else [c]

/-- A quoted string that spells a text. -/
def quote (text : String) : String :=
  "\"" ++ String.ofList (text.toList.flatMap quotedChar) ++ "\""

end Json

end Dashboard
