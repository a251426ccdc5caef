import Dashboard.Yaml.Lexer

/-! # Document trees

The tree that the tokens of a text describe. Anchored nodes are numbered in the
order they start, and an alias holds the number of the node it stands for. -/

namespace Dashboard.Yaml

/-- A node of a document. -/
inductive Node where
  | scalar (tag : Option String) (text : String) (style : Style)
  | sequence (tag : Option String) (items : List Node)
  | mapping (tag : Option String) (pairs : List (Node × Node))
  | alias (anchor : Nat)

/-- A node that is not written: a plain scalar without characters. -/
def Node.absent : Node := .scalar none "" .plain

/-- A document: its root, unless nothing at all is written, and the nodes that
aliases stand for. -/
structure Document where
  root : Option Node
  anchored : List (Nat × Node)

namespace Parser

/-- What is known while a document is read. -/
structure State where
  /-- Tokens still to be read. -/
  rest : List Token
  /-- Latest number of each anchor name, newest first. -/
  anchors : List (String × Nat)
  /-- Number of anchors so far. -/
  anchorCount : Nat
  /-- Anchored nodes that are complete. -/
  anchored : List (Nat × Node)
  /-- Expansions of tag handles. -/
  handles : List (String × String)

namespace State

/-- The next token. -/
def head? (state : State) : Option Token :=
  state.rest.head?

/-- Past the next token. -/
def next (state : State) : State :=
  { state with rest := state.rest.drop 1 }

/-- Whether the next token is one of these. -/
def atAny (state : State) (tokens : List Token) : Bool :=
  state.head?.any tokens.contains

end State

/-- Anchor and tag in front of a node. -/
structure Properties where
  anchor : Option Nat
  tag : Option String

/-- Give an anchor name the next number. -/
def declareAnchor (state : State) (name : String) : State × Nat :=
  ({ state with
      anchors := (name, state.anchorCount) :: state.anchors
      anchorCount := state.anchorCount + 1 }, state.anchorCount)

/-- A tag with its handle expanded; an unknown handle is an error. -/
def expandTag? (state : State) (handle suffix : String) : Option String :=
  if handle.isEmpty then some suffix
  else (state.handles.lookup handle).map (· ++ suffix)

/-- Properties in front of a node, at most one of each kind. -/
def readProperties? (state : State) : Option (Properties × State) :=
  match state.rest with
  | .anchor name :: .tag handle suffix :: rest => do
    let tag ← expandTag? state handle suffix
    let (state, anchor) := declareAnchor { state with rest } name
    return (⟨some anchor, some tag⟩, state)
  | .tag handle suffix :: .anchor name :: rest => do
    let tag ← expandTag? state handle suffix
    let (state, anchor) := declareAnchor { state with rest } name
    return (⟨some anchor, some tag⟩, state)
  | .anchor name :: rest =>
    let (state, anchor) := declareAnchor { state with rest } name
    some (⟨some anchor, none⟩, state)
  | .tag handle suffix :: rest => do
    let tag ← expandTag? state handle suffix
    return (⟨none, some tag⟩, { state with rest })
  | _ => some (⟨none, none⟩, state)

/-- Record the node of an anchor. -/
def recordAnchor (properties : Properties) (node : Node) (state : State) : Node × State :=
  match properties.anchor with
  | some anchor => (node, { state with anchored := (anchor, node) :: state.anchored })
  | none => (node, state)

mutual

/-- A node. Block collections are read in block context only, and a sequence
without indentation of its own only as the content of a mapping. Every call
spends fuel; between two tokens there are three calls at most. -/
def readNode? (block indentless : Bool) : Nat → State → Option (Node × State)
  | 0, _ => none
  | fuel + 1, state =>
    match state.rest with
    | .alias name :: _ => (state.anchors.lookup name).map fun anchor => (.alias anchor, state.next)
    | _ => do
      let (properties, state) ← readProperties? state
      let finish (node : Node) (state : State) := some (recordAnchor properties node state)
      match state.head? with
      | some (.scalar text style) => finish (.scalar properties.tag text style) state.next
      | some .flowSequenceStart =>
        let (items, state) ← readFlowItems? true fuel state.next
        finish (.sequence properties.tag items) state
      | some .flowMappingStart =>
        let (pairs, state) ← readFlowPairs? true fuel state.next
        finish (.mapping properties.tag pairs) state
      | head =>
        if indentless ∧ head = some .blockEntry then do
          let (items, state) ← readIndentlessItems? fuel state
          finish (.sequence properties.tag items) state
        else if block ∧ head = some .blockSequenceStart then do
          let (items, state) ← readBlockItems? fuel state.next
          finish (.sequence properties.tag items) state
        else if block ∧ head = some .blockMappingStart then do
          let (pairs, state) ← readBlockPairs? fuel state.next
          finish (.mapping properties.tag pairs) state
        else if properties.anchor.isSome || properties.tag.isSome then
          finish (.scalar properties.tag "" .plain) state
        else none

/-- A node, or an absent one before any of these tokens. -/
def readNodeUnless? (stops : List Token) (block indentless : Bool) :
    Nat → State → Option (Node × State)
  | 0, _ => none
  | fuel + 1, state =>
    if state.atAny stops then some (Node.absent, state) else readNode? block indentless fuel state

/-- Items of a block sequence up to its end. -/
def readBlockItems? : Nat → State → Option (List Node × State)
  | 0, _ => none
  | fuel + 1, state =>
    match state.head? with
    | some .blockEntry => do
      let (item, state) ←
        readNodeUnless? [.blockEntry, .blockEnd] true false fuel state.next
      let (items, state) ← readBlockItems? fuel state
      return (item :: items, state)
    | some .blockEnd => some ([], state.next)
    | _ => none

/-- Items of a sequence that shares the indentation of its mapping. -/
def readIndentlessItems? : Nat → State → Option (List Node × State)
  | 0, _ => none
  | fuel + 1, state =>
    match state.head? with
    | some .blockEntry => do
      let (item, state) ←
        readNodeUnless? [.blockEntry, .key, .value, .blockEnd] true false fuel state.next
      let (items, state) ← readIndentlessItems? fuel state
      return (item :: items, state)
    | _ => some ([], state)

/-- Pairs of a block mapping up to its end. -/
def readBlockPairs? : Nat → State → Option (List (Node × Node) × State)
  | 0, _ => none
  | fuel + 1, state =>
    match state.head? with
    | some .key => do
      let (key, state) ← readNodeUnless? [.key, .value, .blockEnd] true true fuel state.next
      let (value, state) ←
        if state.head? = some .value then
          readNodeUnless? [.key, .value, .blockEnd] true true fuel state.next
        else some (Node.absent, state)
      let (pairs, state) ← readBlockPairs? fuel state
      return ((key, value) :: pairs, state)
    | some .blockEnd => some ([], state.next)
    | _ => none

/-- Items of a flow sequence up to its bracket. A key in it starts a mapping of
one pair; a key indicator with nothing after it takes the next token for the
key's place. -/
def readFlowItems? (first : Bool) : Nat → State → Option (List Node × State)
  | 0, _ => none
  | fuel + 1, state =>
    if state.head? = some .flowSequenceEnd then some ([], state.next)
    else if !first && state.head? != some .flowEntry then none
    else
      let state := if first then state else state.next
      match state.head? with
      | some .key => do
        let state := state.next
        let stops := [Token.value, .flowEntry, .flowSequenceEnd]
        let (key, state) ←
          if state.atAny stops then some (Node.absent, state.next)
          else readNode? false false fuel state
        let (value, state) ←
          if state.head? = some .value then
            readNodeUnless? [.flowEntry, .flowSequenceEnd] false false fuel state.next
          else some (Node.absent, state)
        let (items, state) ← readFlowItems? false fuel state
        return (.mapping none [(key, value)] :: items, state)
      | some .flowSequenceEnd => some ([], state.next)
      | _ => do
        let (item, state) ← readNode? false false fuel state
        let (items, state) ← readFlowItems? false fuel state
        return (item :: items, state)

/-- Pairs of a flow mapping up to its brace. -/
def readFlowPairs? (first : Bool) : Nat → State → Option (List (Node × Node) × State)
  | 0, _ => none
  | fuel + 1, state =>
    if state.head? = some .flowMappingEnd then some ([], state.next)
    else if !first && state.head? != some .flowEntry then none
    else
      let state := if first then state else state.next
      match state.head? with
      | some .key => do
        let (key, state) ←
          readNodeUnless? [.value, .flowEntry, .flowMappingEnd] false false fuel state.next
        let (value, state) ←
          if state.head? = some .value then
            readNodeUnless? [.flowEntry, .flowMappingEnd] false false fuel state.next
          else some (Node.absent, state)
        let (pairs, state) ← readFlowPairs? false fuel state
        return ((key, value) :: pairs, state)
      | some .flowMappingEnd => some ([], state.next)
      | _ => do
        let (key, state) ← readNode? false false fuel state
        let (pairs, state) ← readFlowPairs? false fuel state
        return ((key, Node.absent) :: pairs, state)

end

/-- Whether a token is a directive. -/
def isDirective : Token → Bool
  | .versionDirective .. | .tagDirective .. => true
  | _ => false

/-- Whether directives are acceptable: at most one version, 1.1 or 1.2, and each
handle once. -/
def areDirectives (directives : List Token) : Bool :=
  let versions := directives.filterMap fun
    | .versionDirective major minor => some (major, minor)
    | _ => none
  let handles := directives.filterMap fun
    | .tagDirective handle _ => some handle
    | _ => none
  versions.length ≤ 1 && versions.all (fun v => v == (1, 1) || v == (1, 2)) && handles.Nodup

/-- Expansions of tag handles declared by directives, then the standard ones. -/
def handlesOf (directives : List Token) : List (String × String) :=
  directives.filterMap (fun
    | .tagDirective handle expansion => some (handle, expansion)
    | _ => none) ++ [("!", "!"), ("!!", "tag:yaml.org,2002:")]

/-- The root of a document and the tokens after it. -/
def readRoot? (tokens : List Token) : Option (Node × State) :=
  let fuel := 3 * tokens.length + 3
  let start (directives rest : List Token) : State := ⟨rest, [], 0, [], handlesOf directives⟩
  let directives := tokens.takeWhile isDirective
  match tokens.dropWhile isDirective with
  | .documentStart :: rest =>
    if areDirectives directives then
      let state := start directives rest
      if rest.isEmpty || rest.head?.any isDirective ||
          state.atAny [.documentStart, .documentEnd] then
        some (Node.absent, state)
      else readNode? true false fuel state
    else none
  | _ => if directives.isEmpty then readNode? true false fuel (start [] tokens) else none

end Parser

/-- The document that tokens describe; a text with several documents has no
tree. -/
def Document.ofTokens? (tokens : List Token) : Option Document :=
  if tokens.isEmpty then some ⟨none, []⟩
  else do
    let (root, state) ← Parser.readRoot? tokens
    let rest := state.rest.dropWhile (· == .documentEnd)
    if rest.isEmpty then some ⟨some root, state.anchored⟩ else none

/-- The document in a text. -/
def Document.read? (text : String) : Option Document :=
  (tokens? text).bind Document.ofTokens?

/-- A node, or the node that an alias stands for. -/
def Document.resolve? (document : Document) : Node → Option Node
  | .alias anchor => document.anchored.lookup anchor
  | node => some node

end Dashboard.Yaml
