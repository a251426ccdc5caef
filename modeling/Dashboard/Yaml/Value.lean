import Dashboard.Yaml.Node

/-! # Values of scalars

What a plain scalar means as null, a boolean or a number. Integers may have a
radix; a run of digits that starts with zero is text. -/

namespace Dashboard.Yaml

/-- Whether a text spells null. -/
def isNullText (text : String) : Bool :=
  ["null", "Null", "NULL", "~"].contains text

/-- Whether a text spells a boolean. -/
def isBoolText (text : String) : Bool :=
  ["true", "True", "TRUE", "false", "False", "FALSE"].contains text

/-- Value of a run of digits in a radix. -/
def radixValue? (radix : Nat) (digits : List Char) : Option Nat :=
  if digits.isEmpty then none
  else digits.foldlM (fun value c =>
    (Json.hexValue? c).bind fun digit =>
      if digit < radix then some (radix * value + digit) else none) 0

/-- Whether a text is digits with a leading zero, perhaps after a sign. -/
def isPaddedDigits (text : List Char) : Bool :=
  let digits := match text with
    | '-' :: rest => rest
    | '+' :: rest => rest
    | _ => text
  1 < digits.length && digits.head? == some '0' && digits.all Char.isDigit

/-- Value of digits after a radix mark. -/
def markedValue? : List Char → Option Nat
  | '0' :: 'x' :: digits => radixValue? 16 digits
  | '0' :: 'o' :: digits => radixValue? 8 digits
  | '0' :: 'b' :: digits => radixValue? 2 digits
  | _ => none

/-- The natural number below `bound` that a text spells: with a radix mark or
in decimal, perhaps after a plus sign. -/
def natOfText? (bound : Nat) (text : List Char) : Option Nat :=
  let unsigned := match text with
    | '+' :: rest => rest
    | _ => text
  let below (value : Nat) : Option Nat := if value < bound then some value else none
  match (markedValue? unsigned).bind below with
  | some value => some value
  | none => if isPaddedDigits text then none else (radixValue? 10 unsigned).bind below

/-- Whether a text spells an integer of 128 bits, signed or unsigned. -/
def isIntText (text : List Char) : Bool :=
  (natOfText? (Nat.pow 2 128) text).isSome ||
    match text with
    | '-' :: rest =>
      let isInRange (value : Nat) : Bool := value ≤ Nat.pow 2 127
      (markedValue? rest).any isInRange ||
        (!isPaddedDigits text && (radixValue? 10 rest).any isInRange)
    | _ => false

/-- The double that a text spells: a numeral of finite value, an infinity or
not a number. -/
def floatOfText? (text : String) : Option Float :=
  let unsigned := if text.startsWith "+" then (text.drop 1).toString else text
  if text.startsWith "+" ∧ (unsigned.startsWith "+" ∨ unsigned.startsWith "-") then none
  else if [".inf", ".Inf", ".INF"].contains unsigned then some (1.0 / 0.0)
  else if ["-.inf", "-.Inf", "-.INF"].contains text then some (-1.0 / 0.0)
  else if [".nan", ".NaN", ".NAN"].contains text then some (0.0 / 0.0)
  else (Decimal.readFloat? unsigned.toList).filter Float.isFinite

/-- Whether a plain scalar of this text would not be read as text, or could be
taken for a number. -/
def isTypedText (text : String) : Bool :=
  text.isEmpty || isNullText text || isBoolText text || isIntText text.toList ||
    isPaddedDigits text.toList || (floatOfText? text).isSome

/-- Full names of the standard tags. -/
def standardTag (name : String) : String := "tag:yaml.org,2002:" ++ name

/-- Whether a scalar may be a value of a standard type: a plain one, or a
literal one with the tag of the type. -/
def isTyped (tag : Option String) (style : Style) (type : String) : Bool :=
  style == .plain || (style == .literal && tag == some (standardTag type))

/-- The 64-bit number of a node. -/
def Node.word? : Node → Option UInt64
  | .scalar tag text style =>
    if isTyped tag style "int" then (natOfText? UInt64.size text.toList).map UInt64.ofNat
    else none
  | _ => none

/-- The double of a node. -/
def Node.float? : Node → Option Float
  | .scalar tag text style => if isTyped tag style "float" then floatOfText? text else none
  | _ => none

/-- The text of a node. Any scalar is text, whatever its tag. -/
def Node.text? : Node → Option String
  | .scalar _ text _ => some text
  | _ => none

/-- The double of a node, or none if it is absent or null. A plain scalar with
the tag of null has to be null. -/
def Node.optionalFloat? : Node → Option (Option Float)
  | .scalar none text .plain =>
    if text.isEmpty ∨ isNullText text then some none
    else (floatOfText? text).map some
  | .scalar (some tag) text .plain =>
    if tag = standardTag "null" then if isNullText text then some none else none
    else (floatOfText? text).map some
  | node => node.float?.map some

/-- The name a node gives to one of several alternatives: the text of a scalar,
or a local tag on a scalar without content. -/
def Node.choice? : Node → Option String
  | .scalar tag text style =>
    match tag with
    | some tag =>
      if tag.startsWith "!" then
        if style = .plain ∧ (text.isEmpty ∨ isNullText text) then
          some (if tag = "!" then tag else (tag.drop 1).toString)
        else none
      else some text
    | none => some text
  | _ => none

/-- The pairs of a mapping under the texts of their keys. An absent node is an
empty mapping. -/
def Document.fields? (document : Document) : Node → Option (List (String × Node))
  | .mapping _ pairs => pairs.mapM fun (key, value) => do
    return (← (← document.resolve? key).text?, ← document.resolve? value)
  | .scalar _ text style => if text.isEmpty ∧ style = .plain then some [] else none
  | _ => none

/-- The value of a field that occurs at most once. -/
def field? (fields : List (String × Node)) (name : String) : Option (Option Node) :=
  match fields.filter fun field => field.1 == name with
  | [] => some none
  | [(_, value)] => some (some value)
  | _ => none

end Dashboard.Yaml
