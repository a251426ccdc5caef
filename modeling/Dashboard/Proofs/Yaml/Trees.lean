import Dashboard.Yaml.Value
import Mathlib.Data.Nat.Notation
import Mathlib.Tactic.Common

/-! # Trees of mappings

Mappings of plain keys to scalars and further mappings have tokens of one form. They are parsed
as the node of the tree, and the fields of that node are those of the tree. -/

namespace Dashboard.Yaml

/-! ## Trees -/

mutual

/-- A scalar, or a mapping of keys to trees. -/
inductive Tree where
  | scalar (text : String) (style : Style)
  | mapping (fields : Fields)

/-- The fields of a mapping. -/
inductive Fields where
  | nil
  | cons (key : String) (value : Tree) (rest : Fields)

end

mutual

/-- The tokens of a tree. -/
def Tree.tokens : Tree → List Token
  | .scalar text style => [.scalar text style]
  | .mapping fields => .blockMappingStart :: (fields.tokens ++ [.blockEnd])

/-- The tokens of fields. -/
def Fields.tokens : Fields → List Token
  | .nil => []
  | .cons key value rest =>
    .key :: .scalar key .plain :: .value :: (value.tokens ++ rest.tokens)

end

mutual

/-- The node of a tree. -/
def Tree.node : Tree → Node
  | .scalar text style => .scalar none text style
  | .mapping fields => .mapping none fields.pairs

/-- The pairs of nodes of fields. -/
def Fields.pairs : Fields → List (Node × Node)
  | .nil => []
  | .cons key value rest => (.scalar none key .plain, value.node) :: rest.pairs

end

@[simp] theorem Tree.node_scalar (text : String) (style : Style) :
    (Tree.scalar text style).node = .scalar none text style := by
  rw [Tree.node]

/-- Fields under their keys. -/
def Fields.entries : Fields → List (String × Node)
  | .nil => []
  | .cons key value rest => (key, value.node) :: rest.entries

/-! ## Parsing -/

namespace Parser

variable {state : State} {rest : List Token} {fuel : ℕ}

theorem readNode?_scalar {text : String} {style : Style} {block indentless : Bool}
    (h : state.rest = .scalar text style :: rest) :
    readNode? block indentless (fuel + 1) state =
      some (.scalar none text style, { state with rest }) := by
  rw [readNode?]
  simp [h, readProperties?, State.head?, State.next, recordAnchor]

theorem readNode?_mapping {pairs : List (Node × Node)} {state' : State} {indentless : Bool}
    (h : state.rest = .blockMappingStart :: rest)
    (hpairs : readBlockPairs? fuel { state with rest } = some (pairs, state')) :
    readNode? true indentless (fuel + 1) state = some (.mapping none pairs, state') := by
  rw [readNode?]
  simp [h, readProperties?, State.head?, State.next, recordAnchor, hpairs]

/-- Nothing stops in front of a tree. -/
theorem readNodeUnless?_tree {tree : Tree} {block indentless : Bool}
    (h : state.rest = tree.tokens ++ rest) :
    readNodeUnless? [.key, .value, .blockEnd] block indentless (fuel + 1) state =
      readNode? block indentless fuel state := by
  have hstops : state.atAny [.key, .value, .blockEnd] = false := by
    rw [State.atAny, State.head?, h]
    cases tree <;> rfl
  rw [readNodeUnless?, hstops]
  rfl

/-- A field is read: its key, its value, and the fields after it. -/
theorem readBlockPairs?_cons {key : String} {value : Tree} {more : List Token}
    {pairs : List (Node × Node)} {node : Node} {state₁ state₂ : State}
    (h : state.rest = .key :: .scalar key .plain :: .value :: (value.tokens ++ more))
    (hvalue : readNode? true true (fuel + 1) { state with rest := value.tokens ++ more } =
      some (node, state₁))
    (hpairs : readBlockPairs? (fuel + 2) state₁ = some (pairs, state₂)) :
    readBlockPairs? (fuel + 3) state =
      some ((.scalar none key .plain, node) :: pairs, state₂) := by
  have hkey : readNodeUnless? [.key, .value, .blockEnd] true true (fuel + 2) state.next =
      some (.scalar none key .plain, { state with rest := .value :: (value.tokens ++ more) }) := by
    have hnext : state.next.rest =
        (Tree.scalar key .plain).tokens ++ .value :: (value.tokens ++ more) := by
      simp [State.next, h, Tree.tokens]
    rw [readNodeUnless?_tree hnext]
    exact readNode?_scalar hnext
  have hnode : readNodeUnless? [.key, .value, .blockEnd] true true (fuel + 2)
      { state with rest := value.tokens ++ more } = some (node, state₁) := by
    rw [readNodeUnless?_tree rfl, hvalue]
  have hhead : state.head? = some .key := by simp [State.head?, h]
  rw [readBlockPairs?, hhead]
  simp only [hkey, bind, Option.bind_some]
  simp only [State.head?, State.next, List.head?_cons, List.drop_one, List.tail_cons, if_true,
    hnode, Option.bind_some, hpairs]
  rfl

/-- With fuel for their tokens, trees and fields are read as their nodes and pairs, and the tokens
after them are left. -/
theorem read_tokens (fuel : ℕ) :
    (∀ (tree : Tree) (indentless : Bool) (state : State) (rest : List Token),
      3 * tree.tokens.length ≤ fuel → state.rest = tree.tokens ++ rest →
      readNode? true indentless fuel state = some (tree.node, { state with rest })) ∧
    (∀ (fields : Fields) (state : State) (rest : List Token),
      3 * fields.tokens.length + 3 ≤ fuel → state.rest = fields.tokens ++ .blockEnd :: rest →
      readBlockPairs? fuel state = some (fields.pairs, { state with rest })) := by
  -- A field takes three steps before its value is read, which are those of the three tokens
  -- in front of it.
  induction fuel using Nat.strongRecOn with
  | ind fuel ih =>
    constructor
    · intro tree indentless state rest hfuel h
      cases tree with
      | scalar text style =>
          obtain ⟨fuel, rfl⟩ := Nat.exists_eq_add_of_le' hfuel
          exact readNode?_scalar h
      | mapping fields =>
          simp only [Tree.tokens, List.length_cons, List.length_append] at hfuel
          obtain ⟨fuel, rfl⟩ : ∃ more, fuel = more + 1 := ⟨fuel - 1, by omega⟩
          have hrest : state.rest = .blockMappingStart :: (fields.tokens ++ .blockEnd :: rest) := by
            simpa [Tree.tokens] using h
          refine readNode?_mapping hrest ?_
          exact (ih fuel (Nat.lt_succ_self fuel)).2 fields _ rest (by omega) rfl
    · intro fields state rest hfuel h
      obtain ⟨fuel, rfl⟩ : ∃ more, fuel = more + 3 := ⟨fuel - 3, by omega⟩
      cases fields with
      | nil =>
          unfold readBlockPairs?
          simp [h, State.head?, State.next, Fields.tokens, Fields.pairs]
      | cons key value more =>
          simp only [Fields.tokens, List.length_cons, List.length_append] at hfuel
          have hrest : state.rest = .key :: .scalar key .plain :: .value ::
              (value.tokens ++ (more.tokens ++ .blockEnd :: rest)) := by
            simpa [Fields.tokens] using h
          refine readBlockPairs?_cons hrest
            ((ih (fuel + 1) (by omega)).1 value true _ _ (by omega) rfl) ?_
          exact (ih (fuel + 2) (by omega)).2 more _ rest (by omega) rfl

end Parser

/-- The tokens of a tree describe a document with its node as the root. -/
theorem ofTokens?_tokens (tree : Tree) :
    Document.ofTokens? tree.tokens = some ⟨some tree.node, []⟩ := by
  have hread := (Parser.read_tokens (3 * tree.tokens.length + 3)).1 tree false
    ⟨tree.tokens, [], 0, [], Parser.handlesOf []⟩ [] (by omega) (by simp)
  have hroot : Parser.readRoot? tree.tokens =
      some (tree.node, ⟨[], [], 0, [], Parser.handlesOf []⟩) := by
    rw [← hread, Parser.readRoot?]
    cases tree <;> rfl
  have hne : tree.tokens.isEmpty = false := by cases tree <;> rfl
  rw [Document.ofTokens?, hne, hroot]
  rfl

/-! ## Fields -/

theorem resolve?_node (document : Document) (tree : Tree) :
    document.resolve? tree.node = some tree.node := by
  cases tree <;> rfl

/-- The fields of a tree's node are those of the tree. -/
theorem fields?_mapping (document : Document) (fields : Fields) :
    document.fields? (Tree.mapping fields).node = some fields.entries := by
  rw [Tree.node, Document.fields?]
  induction fields using Fields.rec (motive_1 := fun _ => True) with
  | scalar | mapping => trivial
  | nil => rfl
  | cons key value rest _ ih =>
      have hkey := resolve?_node document (.scalar key .plain)
      rw [Tree.node] at hkey
      rw [Fields.pairs, List.mapM_cons, Fields.entries, ih]
      simp only [hkey, resolve?_node, bind, Option.bind_some, Node.text?]
      rfl

end Dashboard.Yaml
