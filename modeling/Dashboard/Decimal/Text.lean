import Dashboard.Decimal

/-! # Text of numbers

Writing a double with the fewest digits that identify it, and reading decimal
numerals. Where the point goes is a choice of the format, kept in a `Layout`. -/

namespace Dashboard

namespace Decimal

/-- Decimal digits of the significand. -/
def digitText (d : Decimal) : List Char :=
  Nat.toDigits 10 d.digits

/-- Digits with a decimal point where the exponent puts it. -/
def positional (d : Decimal) : List Char :=
  let text := d.digitText
  if 0 ≤ d.exponent then text ++ List.replicate d.exponent.toNat '0'
  else
    let places := d.exponent.natAbs
    if places < text.length then
      text.take (text.length - places) ++ '.' :: text.drop (text.length - places)
    else '0' :: '.' :: List.replicate (places - text.length) '0' ++ text

/-- First digit, a point before the others, and the power of ten. -/
def exponential (d : Decimal) : List Char :=
  let power := (toString (d.digitText.length + d.exponent - 1)).toList
  match d.digitText with
  | first :: next :: rest => first :: '.' :: next :: rest ++ 'e' :: power
  | digit => digit ++ 'e' :: power

/-- Choices a format makes about numbers. -/
structure Layout where
  /-- Whether a number whose first digit stands this many places left of the
  point is written out in full. -/
  isPositional : Int → Bool
  /-- What follows a whole number written out in full. -/
  wholeSuffix : String
  infinity : String
  notANumber : String

/-- Text of a positive finite number. -/
def render (layout : Layout) (d : Decimal) : String :=
  if layout.isPositional (d.digitText.length + d.exponent) then
    String.ofList d.positional ++ if 0 ≤ d.exponent then layout.wholeSuffix else ""
  else String.ofList d.exponential

/-- Text of a double with the fewest digits that read back as it. -/
def floatText (layout : Layout) (x : Float) : String :=
  if x.isNaN then layout.notANumber
  else
    let sign := if signBit x then "-" else ""
    if x.isInf then sign ++ layout.infinity
    else if x == 0.0 then sign ++ "0" ++ layout.wholeSuffix
    else sign ++ render layout (shortest (if signBit x then -x else x))

/-- Messages write every number out in full, whole ones without a point. -/
def messageLayout : Layout where
  isPositional := fun _ => true
  wholeSuffix := ""
  infinity := "inf"
  notANumber := "NaN"

/-- Documents write numbers of at most sixteen places before the point, and of
at most four zeros after it, in full. -/
def documentLayout : Layout where
  isPositional := fun point => -5 < point && point ≤ 16
  wholeSuffix := ".0"
  infinity := ".inf"
  notANumber := ".nan"

/-- Value of a run of decimal digits. -/
def digitsValue (digits : List Char) : Nat :=
  digits.foldl (fun value c => 10 * value + (c.toNat - '0'.toNat)) 0

/-- The number with these digits before and after the point, times a power of
ten. -/
def ofParts (whole fraction : List Char) (power : Int) : Decimal :=
  ⟨digitsValue (whole ++ fraction), power - fraction.length⟩

/-- Split off a leading sign; true stands for minus. -/
def readSign : List Char → Bool × List Char
  | '-' :: rest => (true, rest)
  | '+' :: rest => (false, rest)
  | text => (false, text)

/-- The exponent part of a numeral, zero if there is none. -/
def readPower? : List Char → Option Int
  | [] => some 0
  | c :: rest =>
    if c = 'e' ∨ c = 'E' then
      let (negative, digits) := readSign rest
      if digits.isEmpty ∨ !digits.all Char.isDigit then none
      else if negative then some (-(digitsValue digits : Int))
      else some (digitsValue digits)
    else none

/-- An unsigned numeral: digits with an optional point, at least one digit on
either side of it, and an optional exponent. -/
def readUnsigned? (text : List Char) : Option Decimal :=
  let whole := text.takeWhile Char.isDigit
  match text.dropWhile Char.isDigit with
  | '.' :: rest =>
    let fraction := rest.takeWhile Char.isDigit
    if whole.isEmpty ∧ fraction.isEmpty then none
    else (readPower? (rest.dropWhile Char.isDigit)).map (ofParts whole fraction)
  | rest =>
    if whole.isEmpty then none else (readPower? rest).map (ofParts whole [])

/-- The double a signed numeral stands for. -/
def readFloat? (text : List Char) : Option Float :=
  let (negative, rest) := readSign text
  (readUnsigned? rest).map fun d => if negative then -d.toFloat else d.toFloat

end Decimal

end Dashboard
