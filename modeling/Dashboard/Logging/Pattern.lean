import Dashboard.Decimal.Text

/-! # Patterns of field values

A filter directive may compare a field with a number or with a regular
expression. Only the form of an expression is decided here: which texts are
expressions at all. -/

namespace Dashboard.Logging

/-- Value of a hexadecimal digit. -/
def hexDigit? (c : Char) : Option Nat :=
  if c.isDigit then some (c.toNat - '0'.toNat)
  else if 'a' ≤ c.toLower ∧ c.toLower ≤ 'f' then some (c.toLower.toNat - 'a'.toNat + 10)
  else none

/-- The character named by exactly these hexadecimal digits. -/
def charOfHex? (digits : List Char) : Option Char := do
  let values ← digits.mapM hexDigit?
  let code := values.foldl (fun code value => 16 * code + value) 0
  if code.isValidChar then some (Char.ofNat code) else none

/-- What an escape stands for. -/
inductive Escape where
  /-- One character. -/
  | char (c : Char)
  /-- A class of characters. -/
  | set
  /-- A position, which no class contains. -/
  | position

/-- Read an escape after its backslash, and the text after it. Boundaries of
words are not supported, nor are references to groups. -/
def readEscape? : List Char → Option (Escape × List Char)
  | 'x' :: a :: b :: rest => (charOfHex? [a, b]).map (.char ·, rest)
  | 'u' :: a :: b :: c :: d :: rest => (charOfHex? [a, b, c, d]).map (.char ·, rest)
  | 'U' :: a :: b :: c :: d :: e :: f :: g :: h :: rest =>
    (charOfHex? [a, b, c, d, e, f, g, h]).map (.char ·, rest)
  | 'p' :: c :: rest | 'P' :: c :: rest =>
    if "CLMNPSZ".contains c then some (.set, rest) else none
  | c :: rest =>
    if "dDsSwW".contains c then some (.set, rest)
    else if c = 'A' ∨ c = 'z' then some (.position, rest)
    else if "aftnrv".contains c then some (.char c, rest)
    else if c.toNat < 0x80 ∧ !c.isAlphanum ∧ c ≠ '<' ∧ c ≠ '>' then some (.char c, rest)
    else none
  | [] => none

theorem length_lt_of_readEscape? {text rest : List Char} {escape : Escape}
    (h : readEscape? text = some (escape, rest)) : rest.length < text.length := by
  unfold readEscape? at h
  split at h <;> simp_all [Option.map_eq_some_iff] <;> grind

/-- Read a class of characters up to its last bracket, with `depth` brackets
open. `previous` is a character that may begin a range, and `isFirst` holds
where a bracket would be a member. -/
def readClass? (text : List Char) (depth : Nat) (previous : Option Char) (isFirst : Bool) :
    Option (List Char) :=
  match text with
  | [] => none
  | '[' :: '^' :: rest => readClass? rest (depth + 1) none true
  | '[' :: rest => readClass? rest (depth + 1) none true
  | ']' :: rest =>
    if isFirst then readClass? rest depth (some ']') false
    else
      match depth with
      | 0 => none
      | 1 => some rest
      | depth + 1 => readClass? rest depth none false
  | '-' :: c :: rest =>
    match previous with
    | some low =>
      if c = ']' ∨ c = '-' then readClass? (c :: rest) depth none false
      else if c = '\\' then
        match _h : readEscape? rest with
        | some (.char high, rest) => if low ≤ high then readClass? rest depth none false else none
        | _ => none
      else if c = '[' then none
      else if low ≤ c then readClass? rest depth none false
      else none
    | none => readClass? (c :: rest) depth (some '-') false
  | '\\' :: rest =>
    match _h : readEscape? rest with
    | some (.char c, rest) => readClass? rest depth (some c) false
    | some (.set, rest) => readClass? rest depth none false
    | _ => none
  | c :: rest => readClass? rest depth (some c) false
termination_by text.length
decreasing_by
  all_goals try have hshort := length_lt_of_readEscape? ‹_›
  all_goals
    simp only [List.length_cons]
    omega

/-- Read what follows the opening of a group: a name, or flags. The second
value says whether the group is still open. -/
def readGroup? (text : List Char) : Option (List Char × Bool) :=
  let name? (text : List Char) : Option (List Char × Bool) :=
    match text.span (· ≠ '>') with
    | (first :: more, _ :: rest) =>
      if (first.isAlpha || first = '_') && more.all fun c => c.isAlphanum || "_.[]".contains c then
        some (rest, true)
      else none
    | _ => none
  match text with
  | '?' :: 'P' :: '<' :: rest | '?' :: '<' :: rest => name? rest
  | '?' :: rest =>
    let (flags, rest) := rest.span fun c => "imsURux-".contains c
    if !decide flags.Nodup || flags.getLast? = some '-' then none
    else
      match rest with
      | ':' :: rest => some (rest, true)
      | ')' :: rest => if flags.isEmpty then none else some (rest, false)
      | _ => none
  | rest => some (rest, true)

/-- Whether a text is a regular expression, after `depth` groups have been
opened. `hasOperand` says whether a repetition would have something to
repeat. Fuel is spent on every step. -/
def isExpression : Nat → List Char → Nat → Bool → Bool
  | 0, _, _, _ => false
  | _ + 1, [], depth, _ => depth == 0
  | fuel + 1, c :: rest, depth, hasOperand =>
    match c with
    | '(' =>
      match readGroup? rest with
      | some (rest, true) => isExpression fuel rest (depth + 1) false
      | some (rest, false) => isExpression fuel rest depth false
      | none => false
    | ')' => 0 < depth && isExpression fuel rest (depth - 1) true
    | '|' => isExpression fuel rest depth false
    | '*' | '+' | '?' =>
      let rest := match rest with
        | '?' :: rest => rest
        | rest => rest
      hasOperand && isExpression fuel rest depth true
    | '\x7b' => false
    | '[' =>
      match readClass? (c :: rest) 0 none false with
      | some rest => isExpression fuel rest depth true
      | none => false
    | '\\' =>
      match readEscape? rest with
      | some (_, rest) => isExpression fuel rest depth true
      | none => false
    | _ => isExpression fuel rest depth true

/-- Whether a text can be compared with a field: a number or a regular
expression. -/
def isPattern (text : List Char) : Bool :=
  let named := (Decimal.readSign text).2.map Char.toLower
  (Decimal.readFloat? text).isSome ||
    ["inf".toList, "infinity".toList, "nan".toList].contains named ||
    isExpression (text.length + 1) text 0 false

end Dashboard.Logging
