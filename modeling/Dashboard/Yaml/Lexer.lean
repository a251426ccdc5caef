import Dashboard.Yaml.ScalarToken
import Dashboard.Yaml.Token

/-! # Tokens of a text

Indentation opens and closes block collections. A mapping key is recognised only
by the colon after it, so the place where one might start is remembered, and the
tokens that announce the key are put there once the colon is found. -/

namespace Dashboard.Yaml

/-- A place where a mapping key on one line may have started. -/
structure KeyCandidate where
  /-- Number of tokens before it. -/
  tokenIndex : Nat
  line : Nat
  column : Nat
  index : Nat
  /-- Whether the text is malformed unless a key starts here. -/
  isRequired : Bool

/-- A text that has been read in part. -/
structure Lexer where
  cursor : Cursor
  tokens : Array Token
  /-- Column of the innermost block collection; minus one outside any. -/
  indent : Int
  /-- Columns of the collections around it. -/
  outerIndents : List Int
  /-- Key candidate of the innermost flow collection, or of the block context. -/
  candidate : Option KeyCandidate
  /-- Key candidates of the contexts around it, one for each open flow
  collection. -/
  outerCandidates : List (Option KeyCandidate)
  /-- Whether a key may start at the next token. -/
  allowsKey : Bool

namespace Lexer

/-- A text of which nothing has been read. -/
def start (text : List Char) : Lexer where
  cursor := Cursor.start text
  tokens := #[]
  indent := -1
  outerIndents := []
  candidate := none
  outerCandidates := []
  allowsKey := true

/-- Whether a flow collection is open. -/
def inFlow (lexer : Lexer) : Bool :=
  !lexer.outerCandidates.isEmpty

/-- Append a token and move on. -/
def emit (lexer : Lexer) (token : Token) (cursor : Cursor) : Lexer :=
  { lexer with tokens := lexer.tokens.push token, cursor }

/-- Give up the current key candidate, unless a key is required there. -/
def dropCandidate? (lexer : Lexer) : Option Lexer :=
  match lexer.candidate with
  | some candidate => if candidate.isRequired then none else some { lexer with candidate := none }
  | none => some lexer

/-- Remember the next token as the possible start of a key, if one may start
here. -/
def saveCandidate? (lexer : Lexer) : Option Lexer :=
  if lexer.allowsKey then do
    let isRequired := !lexer.inFlow && lexer.indent == lexer.cursor.column
    let lexer ← lexer.dropCandidate?
    return { lexer with
      candidate := some ⟨lexer.tokens.size, lexer.cursor.line, lexer.cursor.column,
        lexer.cursor.index, isRequired⟩ }
  else some lexer

/-- A candidate that is still possible here: keys stay on one line and are
short. -/
def freshCandidate? (cursor : Cursor) : Option KeyCandidate → Option (Option KeyCandidate)
  | some candidate =>
    if candidate.line < cursor.line ∨ candidate.index + 1024 < cursor.index then
      if candidate.isRequired then none else some none
    else some (some candidate)
  | none => some none

/-- Give up the candidates that have become impossible. -/
def dropStale? (lexer : Lexer) : Option Lexer := do
  let candidate ← freshCandidate? lexer.cursor lexer.candidate
  let outerCandidates ← lexer.outerCandidates.mapM (freshCandidate? lexer.cursor)
  return { lexer with candidate, outerCandidates }

/-- Close the block collections indented deeper than a column. -/
def unroll (column indent : Int) (outer : List Int) (tokens : Array Token) :
    Int × List Int × Array Token :=
  if column < indent then
    match outer with
    | next :: outer => unroll column next outer (tokens.push .blockEnd)
    | [] => (indent, outer, tokens)
  else (indent, outer, tokens)

/-- Close the block collections indented deeper than a column; flow collections
ignore indentation. -/
def closeBlocks (lexer : Lexer) (column : Int) : Lexer :=
  if lexer.inFlow then lexer
  else
    let (indent, outerIndents, tokens) :=
      unroll column lexer.indent lexer.outerIndents lexer.tokens
    { lexer with indent, outerIndents, tokens }

/-- Open a block collection if a column is deeper than the innermost one, with
its token at a given place. -/
def openBlock (lexer : Lexer) (column : Nat) (tokenIndex : Nat) (token : Token) : Lexer :=
  if !lexer.inFlow ∧ lexer.indent < column then
    { lexer with
      indent := column
      outerIndents := lexer.indent :: lexer.outerIndents
      tokens := (lexer.tokens.toList.insertIdx tokenIndex token).toArray }
  else lexer

/-- Skip blanks, comments and line breaks. In block context a tab does not
count as a blank where a key may start. A line may start with a byte order
mark. -/
def skipToToken : Nat → Lexer → Lexer
  | 0, lexer => lexer
  | fuel + 1, lexer =>
    let cursor := lexer.cursor
    let cursor := if cursor.column = 0 ∧ cursor.startsWith '\uFEFF' then cursor.skip 1 else cursor
    let skipsTabs := lexer.inFlow || !lexer.allowsKey
    let cursor := cursor.skipWhile fun c => c = ' ' || (skipsTabs && c = '\t')
    let cursor := if cursor.startsWith '#' then cursor.skipWhile fun c => !isBreak c else cursor
    if cursor.atBreak then
      skipToToken fuel { lexer with
        cursor := cursor.skipBreak
        allowsKey := lexer.allowsKey || !lexer.inFlow }
    else { lexer with cursor }

/-- Close everything before a directive, a document indicator or the end. -/
def closeAll? (lexer : Lexer) : Option Lexer := do
  let lexer ← (lexer.closeBlocks (-1)).dropCandidate?
  return { lexer with allowsKey := false }

/-- Digits of a version number, nine at most. -/
def readVersionNumber? (cursor : Cursor) : Option (Nat × Cursor) :=
  let digits := cursor.rest.takeWhile Char.isDigit
  if digits.isEmpty ∨ 9 < digits.length then none
  else some (Decimal.digitsValue digits, cursor.skip digits.length)

/-- Whether a character may stand in a tag. -/
def isTagChar (verbatim : Bool) (c : Char) : Bool :=
  isWord c || ";/?:@&=+$.!~*'()".contains c || (verbatim && ",[]".contains c)

/-- Bytes of a run of percent escapes that spell one character, given how many
follow the first. -/
def readContinuation? : Nat → List Char → Option (List Nat × List Char)
  | 0, text => some ([], text)
  | count + 1, '%' :: text => do
    let byte ← hexRun? 2 text
    if byte / 64 = 2 then
      let (bytes, text) ← readContinuation? count (text.drop 2)
      return (byte :: bytes, text)
    else none
  | _, _ => none

/-- The character that a run of percent escapes spells. -/
def readPercent? (text : List Char) : Option (Char × List Char) := do
  let first ← hexRun? 2 text
  let text := text.drop 2
  if first < 0x80 then return (Char.ofNat first, text)
  else
    let (count, high) ←
      if first / 32 = 6 then some (1, first % 32)
      else if first / 16 = 14 then some (2, first % 16)
      else if first / 8 = 30 then some (3, first % 8)
      else none
    let (bytes, text) ← readContinuation? count text
    let code := bytes.foldl (fun code byte => 64 * code + byte % 64) high
    if Nat.isValidChar code then return (Char.ofNat code, text) else none

/-- Characters of a tag with percent escapes resolved. -/
def readTagChars? (verbatim : Bool) : Nat → List Char → Option (List Char × List Char)
  | 0, _ => none
  | fuel + 1, text =>
    match text with
    | '%' :: rest => do
      let (c, rest) ← readPercent? rest
      let (chars, rest) ← readTagChars? verbatim fuel rest
      return (c :: chars, rest)
    | c :: rest =>
      if isTagChar verbatim c then do
        let (chars, rest) ← readTagChars? verbatim fuel rest
        return (c :: chars, rest)
      else some ([], text)
    | [] => some ([], text)

/-- Characters of a tag at a position. -/
def readTagText? (verbatim : Bool) (cursor : Cursor) : Option (List Char × Cursor) := do
  let (chars, rest) ← readTagChars? verbatim (cursor.rest.length + 1) cursor.rest
  return (chars, cursor.skip (cursor.rest.length - rest.length))

/-- A tag handle: an exclamation mark, word characters, and perhaps a second
exclamation mark. -/
def readHandle? (cursor : Cursor) : Option (List Char × Cursor) :=
  match cursor.rest with
  | '!' :: rest =>
    let word := rest.takeWhile isWord
    match rest.dropWhile isWord with
    | '!' :: _ => some ('!' :: word ++ ['!'], cursor.skip (word.length + 2))
    | _ => some ('!' :: word, cursor.skip (word.length + 1))
  | _ => none

/-- The end of a directive: blanks, a comment and a line break. -/
def finishDirective? (cursor : Cursor) : Option Cursor :=
  let cursor := cursor.skipWhile isBlank
  let cursor := if cursor.startsWith '#' then cursor.skipWhile fun c => !isBreak c else cursor
  if !startsBreak cursor.rest then none
  else some (if cursor.atBreak then cursor.skipBreak else cursor)

/-- A directive after its percent sign. -/
def readDirective? (cursor : Cursor) : Option (Token × Cursor) := do
  let name := cursor.rest.takeWhile isWord
  let cursor := cursor.skip name.length
  if !startsBlank cursor.rest then none
  let cursor := cursor.skipWhile isBlank
  if name = "YAML".toList then
    let (major, cursor) ← readVersionNumber? cursor
    if !cursor.startsWith '.' then none
    let (minor, cursor) ← readVersionNumber? (cursor.skip 1)
    return (.versionDirective major minor, ← finishDirective? cursor)
  else if name = "TAG".toList then
    let (handle, cursor) ← readHandle? cursor
    if handle.getLast? ≠ some '!' ∨ !cursor.atBlank then none
    let (expansion, cursor) ← readTagText? true (cursor.skipWhile isBlank)
    if expansion.isEmpty ∨ !startsBlank cursor.rest then none
    return (.tagDirective (String.ofList handle) (String.ofList expansion),
      ← finishDirective? cursor)
  else none

/-- An anchor or alias name, which ends at a blank or an indicator. -/
def readAnchor? (cursor : Cursor) : Option (String × Cursor) :=
  let name := cursor.rest.takeWhile isWord
  let cursor := cursor.skip name.length
  let ends := startsBlank cursor.rest ||
    cursor.head?.any fun c => ['?', ':', ',', ']', '\x7d', '%', '@', '\x60'].contains c
  if name.isEmpty ∨ !ends then none else some (String.ofList name, cursor)

/-- A tag: verbatim in angle brackets, with a handle, or local. -/
def readTag? (inFlow : Bool) (cursor : Cursor) : Option (Token × Cursor) := do
  let (handle, suffix, cursor) ←
    match cursor.rest with
    | '!' :: '<' :: _ => do
      let (suffix, cursor) ← readTagText? true (cursor.skip 2)
      if suffix.isEmpty ∨ !cursor.startsWith '>' then none
      some ([], suffix, cursor.skip 1)
    | _ => do
      let (handle, cursor) ← readHandle? cursor
      let (text, cursor) ← readTagText? false cursor
      if 1 < handle.length ∧ handle.getLast? = some '!' then
        if text.isEmpty then none else some (handle, text, cursor)
      else
        let suffix := handle.drop 1 ++ text
        if suffix.isEmpty then some ([], ['!'], cursor) else some (['!'], suffix, cursor)
  if startsBlank cursor.rest || (inFlow && cursor.startsWith ',') then
    return (.tag (String.ofList handle) (String.ofList suffix), cursor)
  else none

/-- A key indicator: a colon after a key candidate announces the key at the
candidate's place; otherwise the value stands for itself. -/
def readValue? (lexer : Lexer) : Option Lexer :=
  match lexer.candidate with
  | some candidate =>
    let tokens := (lexer.tokens.toList.insertIdx candidate.tokenIndex .key).toArray
    let lexer := { lexer with tokens, candidate := none, allowsKey := false }
    let lexer := lexer.openBlock candidate.column candidate.tokenIndex .blockMappingStart
    some (lexer.emit .value (lexer.cursor.skip 1))
  | none =>
    if lexer.inFlow then
      some ({ lexer with allowsKey := false }.emit .value (lexer.cursor.skip 1))
    else if lexer.allowsKey then
      let lexer := lexer.openBlock lexer.cursor.column lexer.tokens.size .blockMappingStart
      some ({ lexer with allowsKey := true }.emit .value (lexer.cursor.skip 1))
    else none

/-- An indicator that opens an entry or a key in block context, where it needs
a place at which a key may start. -/
def readEntry? (lexer : Lexer) (opening token : Token) (allowsKey : Bool) : Option Lexer := do
  let lexer ←
    if lexer.inFlow then some lexer
    else if lexer.allowsKey then
      some (lexer.openBlock lexer.cursor.column lexer.tokens.size opening)
    else none
  let lexer ← lexer.dropCandidate?
  return { lexer with allowsKey }.emit token (lexer.cursor.skip 1)

/-- The opening bracket of a flow collection. -/
def openFlow? (lexer : Lexer) (token : Token) : Option Lexer := do
  let lexer ← lexer.saveCandidate?
  return { lexer with
    outerCandidates := lexer.candidate :: lexer.outerCandidates
    candidate := none
    allowsKey := true }.emit token (lexer.cursor.skip 1)

/-- The closing bracket of a flow collection. -/
def closeFlow? (lexer : Lexer) (token : Token) : Option Lexer := do
  let lexer ← lexer.dropCandidate?
  let lexer := match lexer.outerCandidates with
    | candidate :: outerCandidates => { lexer with candidate, outerCandidates }
    | [] => lexer
  return { lexer with allowsKey := false }.emit token (lexer.cursor.skip 1)

/-- A token that may start a key. -/
def readAtom? (lexer : Lexer) (read : Cursor → Option (Token × Cursor)) : Option Lexer := do
  let lexer ← lexer.saveCandidate?
  let (token, cursor) ← read lexer.cursor
  return { lexer with allowsKey := false }.emit token cursor

/-- A plain scalar. A key may start after it if a line ended. -/
def readPlainToken? (lexer : Lexer) : Option Lexer := do
  let lexer ← lexer.saveCandidate?
  let (text, cursor, isLineEnd) ←
    readPlain? lexer.inFlow (lexer.indent + 1).toNat (lexer.cursor.rest.length + 1) [] Gap.none
      lexer.cursor
  return { lexer with allowsKey := isLineEnd }.emit
    (.scalar (String.ofList text.reverse) .plain) cursor

/-- A block scalar. -/
def readBlockToken? (lexer : Lexer) (folded : Bool) : Option Lexer := do
  let lexer ← lexer.dropCandidate?
  let (text, cursor) ← readBlock? folded lexer.indent (lexer.cursor.skip 1)
  return { lexer with allowsKey := true }.emit
    (.scalar (String.ofList text.reverse) (if folded then .folded else .literal)) cursor

/-- A quoted scalar after its opening quote. -/
def readQuotedToken? (single : Bool) (cursor : Cursor) : Option (Token × Cursor) := do
  let (text, cursor) ← readQuoted? single (cursor.rest.length + 1) [] (cursor.skip 1)
  return (.scalar (String.ofList text.reverse) (if single then .singleQuoted else .doubleQuoted),
    cursor)

/-- Whether a plain scalar may start with these characters. -/
def startsPlain (inFlow : Bool) : List Char → Bool
  | [] => false
  | c :: rest =>
    if c = '-' then !(rest.head?.any isBlank)
    else if c = '?' ∨ c = ':' then !inFlow && !startsBlank rest
    else !(isBlank c || isBreak c || indicators.contains c)

/-- Read the token at the cursor, where a token starts. -/
def readToken? (lexer : Lexer) : Option Lexer :=
  let cursor := lexer.cursor
  if cursor.column = 0 ∧ cursor.startsWith '%' then do
    let lexer ← lexer.closeAll?
    let (token, cursor) ← readDirective? (cursor.skip 1)
    return lexer.emit token cursor
  else if cursor.atDocumentIndicator then do
    let lexer ← lexer.closeAll?
    return lexer.emit (if cursor.startsWith '-' then .documentStart else .documentEnd)
      (cursor.skip 3)
  else
    match cursor.rest with
    | [] => none
    | c :: rest =>
      if c = '[' then lexer.openFlow? .flowSequenceStart
      else if c = '\x7b' then lexer.openFlow? .flowMappingStart
      else if c = ']' then lexer.closeFlow? .flowSequenceEnd
      else if c = '\x7d' then lexer.closeFlow? .flowMappingEnd
      else if c = ',' then do
        let lexer ← lexer.dropCandidate?
        return { lexer with allowsKey := true }.emit .flowEntry (cursor.skip 1)
      else if c = '-' ∧ startsBlank rest then
        lexer.readEntry? .blockSequenceStart .blockEntry true
      else if c = '?' ∧ (lexer.inFlow ∨ startsBlank rest) then
        lexer.readEntry? .blockMappingStart .key (!lexer.inFlow)
      else if c = ':' ∧ (lexer.inFlow ∨ startsBlank rest) then lexer.readValue?
      else if c = '*' then
        lexer.readAtom? fun cursor => (readAnchor? (cursor.skip 1)).map fun (name, cursor) =>
          (.alias name, cursor)
      else if c = '&' then
        lexer.readAtom? fun cursor => (readAnchor? (cursor.skip 1)).map fun (name, cursor) =>
          (.anchor name, cursor)
      else if c = '!' then lexer.readAtom? (readTag? lexer.inFlow)
      else if c = '|' ∧ !lexer.inFlow then lexer.readBlockToken? false
      else if c = '>' ∧ !lexer.inFlow then lexer.readBlockToken? true
      else if c = '\'' then lexer.readAtom? (readQuotedToken? true)
      else if c = '"' then lexer.readAtom? (readQuotedToken? false)
      else if startsPlain lexer.inFlow cursor.rest then lexer.readPlainToken?
      else none

/-- Read tokens to the end of the text, where every block collection closes.
Each token takes a character at least. -/
def run? : Nat → Lexer → Option (List Token)
  | 0, _ => none
  | fuel + 1, lexer => do
    let lexer ← (skipToToken (lexer.cursor.rest.length + 1) lexer).dropStale?
    let lexer := lexer.closeBlocks lexer.cursor.column
    if lexer.cursor.rest.isEmpty then
      let lexer ← lexer.closeAll?
      return lexer.tokens.toList
    else run? fuel (← lexer.readToken?)

end Lexer

/-- Tokens of a text. A byte order mark at its start is no part of it. -/
def tokens? (text : String) : Option (List Token) :=
  let chars := match text.toList with
    | '\uFEFF' :: rest => rest
    | chars => chars
  if chars.all isAllowed then Lexer.run? (chars.length + 1) (Lexer.start chars) else none

end Dashboard.Yaml
