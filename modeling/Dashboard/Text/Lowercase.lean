import Dashboard.Text.Ranges
import Dashboard.Text.Table.Case

/-! # Lower case

Texts are lower-cased character by character with two exceptions: a capital I
with a dot becomes two characters, and a capital sigma that ends a word takes
its final form. -/

namespace Dashboard.Text

/-- Lower-case form of a character by the table of single forms. -/
def lowerChar (c : Char) : Char :=
  match lowerRuns.find? fun run =>
      run.first ≤ c.toNat && c.toNat ≤ run.last && (c.toNat - run.first) % run.stride == 0 with
  | some run => Char.ofNat (c.toNat + run.distance).toNat
  | none => c

/-- Whether the first character that case context does not look through has
case. -/
def meetsCase (text : List Char) : Bool :=
  match text.dropWhile (inRanges caseIgnorableRanges) with
  | c :: _ => inRanges casedRanges c
  | [] => false

/-- Lower-case form of a character between `before`, nearest character first,
and `after`. A sigma is final when a letter precedes it and none follows. -/
def lowerInContext (before : List Char) (c : Char) (after : List Char) : List Char :=
  if c = 'Σ' then [if meetsCase before && !meetsCase after then 'ς' else 'σ']
  else if c = 'İ' then ['i', '\u0307']
  else [lowerChar c]

/-- Lower-case form of the text that follows `before`, nearest character
first. -/
def lowerAfter (before : List Char) : List Char → List Char
  | [] => []
  | c :: after => lowerInContext before c after ++ lowerAfter (c :: before) after

/-- Lower-case form of a text. -/
def lowercase (text : String) : String :=
  String.ofList (lowerAfter [] text.toList)

end Dashboard.Text
