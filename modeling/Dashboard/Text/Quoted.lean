import Dashboard.Text.Ranges
import Dashboard.Text.Table.Printable

/-! # Quoted texts

A text between double quotes, as messages show the input they are about. -/

namespace Dashboard.Text

/-- Whether a character is shown by its code: it is not printed, or would merge
with the character before it. -/
def isShownByCode (c : Char) : Bool :=
  inRanges unprintableRanges c || inRanges graphemeExtendRanges c

/-- A character inside quotes. -/
def quotedChar (c : Char) : List Char :=
  match c with
  | '\x00' => ['\\', '0']
  | '\t' => ['\\', 't']
  | '\r' => ['\\', 'r']
  | '\n' => ['\\', 'n']
  | '\\' => ['\\', '\\']
  | '"' => ['\\', '"']
  | c =>
    if isShownByCode c then '\\' :: 'u' :: '\x7b' :: Nat.toDigits 16 c.toNat ++ ['\x7d']
    else [c]

/-- A text between quotes. -/
def quoted (text : String) : String :=
  "\"" ++ String.ofList (text.toList.flatMap quotedChar) ++ "\""

end Dashboard.Text
