import Dashboard.Proofs.Yaml.Plain
import Dashboard.Yaml.Lexer
import Mathlib

/-! # Lines of block mappings

A document of block mappings is read line by line. A line closes the collections indented deeper
than it, opens one if it is indented deeper than all of them, and gives the tokens of its key and
of the scalar after it. -/

namespace Dashboard.Yaml

/-! ## Steps of a lexer -/

namespace Lexer

/-- The lexer where its next token starts. -/
def advance? (lexer : Lexer) : Option Lexer := do
  let lexer ← (skipToToken (lexer.cursor.rest.length + 1) lexer).dropStale?
  return lexer.closeBlocks lexer.cursor.column

/-- Running from one state is running from the other, with fuel enough for the rest in both. -/
def Leads (a b : Lexer) : Prop :=
  ∀ fuel, a.cursor.rest.length < fuel →
    ∃ fuel', b.cursor.rest.length < fuel' ∧ run? fuel a = run? fuel' b

theorem Leads.trans {a b c : Lexer} (hab : Leads a b) (hbc : Leads b c) : Leads a c := by
  intro fuel hfuel
  obtain ⟨fuel', hfuel', hrun⟩ := hab fuel hfuel
  obtain ⟨fuel'', hfuel'', hrun'⟩ := hbc fuel' hfuel'
  exact ⟨fuel'', hfuel'', hrun.trans hrun'⟩

theorem leads_of_readToken? {a m b : Lexer} (hadvance : a.advance? = some m)
    (hne : m.cursor.rest ≠ []) (hread : m.readToken? = some b)
    (hlt : b.cursor.rest.length < a.cursor.rest.length) : Leads a b := by
  intro fuel hfuel
  obtain ⟨fuel, rfl⟩ := Nat.exists_eq_add_of_lt hfuel
  refine ⟨a.cursor.rest.length + fuel, by omega, ?_⟩
  rw [advance?] at hadvance
  obtain ⟨m', hstale, hclose⟩ := Option.bind_eq_some_iff.mp hadvance
  obtain rfl := Option.some.inj hclose
  rw [run?, hstale]
  simp only [bind, Option.bind_some, List.isEmpty_iff, hne, if_false, hread]

theorem run?_of_closeAll? {a m : Lexer} {tokens : List Token} (hadvance : a.advance? = some m)
    (hnil : m.cursor.rest = [])
    (hclose : m.closeAll?.map (fun lexer => lexer.tokens.toList) = some tokens) (fuel : ℕ) :
    run? (fuel + 1) a = some tokens := by
  rw [advance?] at hadvance
  obtain ⟨m', hstale, hclosed⟩ := Option.bind_eq_some_iff.mp hadvance
  obtain rfl := Option.some.inj hclosed
  rw [run?, hstale]
  simp only [bind, Option.bind_some, List.isEmpty_iff, hnil, if_true]
  cases hall : (m'.closeBlocks m'.cursor.column).closeAll? with
  | none => simp [hall] at hclose
  | some lexer => simpa [hall] using hclose

end Lexer

/-! ## Open collections -/

/-- The collections that are open between two tokens, and the tokens so far. -/
structure Blocks where
  indent : ℤ
  outer : List ℤ
  tokens : Array Token

namespace Blocks

/-- A lexer outside flow collections, with no key candidate. -/
def lexer (blocks : Blocks) (cursor : Cursor) (allowsKey : Bool) : Lexer where
  cursor := cursor
  tokens := blocks.tokens
  indent := blocks.indent
  outerIndents := blocks.outer
  candidate := none
  outerCandidates := []
  allowsKey := allowsKey

/-- Nothing is open. -/
def empty : Blocks := ⟨-1, [], #[]⟩

/-- Close the collections indented deeper than a column. -/
def close (blocks : Blocks) (column : ℤ) : Blocks :=
  let (indent, outer, tokens) := Lexer.unroll column blocks.indent blocks.outer blocks.tokens
  ⟨indent, outer, tokens⟩

/-- Open a mapping at a column deeper than the innermost collection. -/
def openAt (blocks : Blocks) (column : ℕ) : Blocks :=
  if blocks.indent < column then
    ⟨column, blocks.indent :: blocks.outer, blocks.tokens.push .blockMappingStart⟩
  else blocks

/-- Append a token. -/
def push (blocks : Blocks) (token : Token) : Blocks :=
  { blocks with tokens := blocks.tokens.push token }

/-- Indentation that no column is left of is at the bottom of the collections. -/
def IsRooted (blocks : Blocks) : Prop :=
  -1 ∈ blocks.indent :: blocks.outer

end Blocks

namespace Blocks

variable {blocks : Blocks} {column : ℕ}

theorem unroll_indent_le {indent : ℤ} {outer : List ℤ} (tokens : Array Token)
    (h : -1 ∈ indent :: outer) (column : ℕ) :
    (Lexer.unroll column indent outer tokens).1 ≤ column ∧
      -1 ∈ (Lexer.unroll column indent outer tokens).1 ::
        (Lexer.unroll column indent outer tokens).2.1 := by
  induction outer generalizing indent tokens with
  | nil =>
      have hindent : indent = -1 := (List.mem_singleton.mp h).symm
      rw [Lexer.unroll, if_neg (by omega)]
      exact ⟨by omega, h⟩
  | cons next outer ih =>
      rw [Lexer.unroll]
      split
      · next hlt =>
        apply ih
        exact (List.mem_cons.mp h).resolve_left (by omega)
      · next hge => exact ⟨by omega, h⟩

theorem close_indent_le (h : blocks.IsRooted) (column : ℕ) :
    (blocks.close column).indent ≤ column :=
  (unroll_indent_le blocks.tokens h column).1

theorem isRooted_close (h : blocks.IsRooted) (column : ℕ) : (blocks.close column).IsRooted :=
  (unroll_indent_le blocks.tokens h column).2

theorem isRooted_openAt (h : blocks.IsRooted) (column : ℕ) : (blocks.openAt column).IsRooted := by
  rw [openAt]
  split
  · exact List.mem_cons_of_mem _ h
  · exact h

theorem openAt_indent (h : blocks.indent ≤ column) : (blocks.openAt column).indent = column := by
  rw [openAt]
  split
  · rfl
  · omega

theorem close_of_le {column : ℤ} (h : blocks.indent ≤ column) : blocks.close column = blocks := by
  unfold close Lexer.unroll
  rw [if_neg (by omega)]

end Blocks

/-! ## Starts of tokens -/

/-- No blank, line break or comment comes next. -/
def StartsToken (text : List Char) : Prop :=
  ∀ c ∈ text.head?, IsInk c ∧ c ≠ '#'

/-- Whether a character may stand in a key. -/
def isKeyChar (c : Char) : Bool :=
  c.isAlphanum || c = '_'

/-- A line with a key comes next, or nothing at all. -/
def StartsLine (text : List Char) : Prop :=
  ∀ c ∈ text.head?, isKeyChar c = true

theorem ne_of_isKeyChar {c d : Char} (hc : isKeyChar c = true) (hd : isKeyChar d = false) :
    c ≠ d := by
  rintro rfl
  rw [hc] at hd
  exact Bool.noConfusion hd

theorem isInk_of_isKeyChar {c : Char} (h : isKeyChar c = true) : IsInk c where
  isBlank := by
    simp [isBlank, ne_of_isKeyChar h (d := ' ') rfl, ne_of_isKeyChar h (d := '\t') rfl]
  isBreak := by
    refine Bool.eq_false_iff.mpr fun hbreak => ?_
    rcases isBreak_iff.mp hbreak with rfl | rfl | rfl | rfl | rfl <;> exact absurd h (by decide)

theorem isAllowed_of_isKeyChar {c : Char} (h : isKeyChar c = true) : isAllowed c = true := by
  have hrange : 0x20 ≤ c.toNat ∧ c.toNat ≤ 0x7E := by
    simp only [isKeyChar, Char.isAlphanum, Char.isAlpha, Char.isUpper, Char.isLower, Char.isDigit,
      Bool.or_eq_true, Bool.and_eq_true, decide_eq_true_eq, ge_iff_le, UInt32.le_iff_toNat_le] at h
    change ((65 ≤ c.toNat ∧ c.toNat ≤ 90 ∨ 97 ≤ c.toNat ∧ c.toNat ≤ 122) ∨
      48 ≤ c.toNat ∧ c.toNat ≤ 57) ∨ c = '_' at h
    rcases h with h | rfl
    · omega
    · decide
  simp [isAllowed, hrange]

theorem StartsLine.startsInk {text : List Char} (h : StartsLine text) : StartsInk text :=
  fun c hc => isInk_of_isKeyChar (h c hc)

theorem StartsLine.startsToken {text : List Char} (h : StartsLine text) : StartsToken text :=
  fun c hc => ⟨isInk_of_isKeyChar (h c hc), ne_of_isKeyChar (h c hc) rfl⟩

section Tokens

variable {blocks : Blocks} {text : List Char} {allowsKey : Bool} {fuel line column index : ℕ}

/-- Spaces in front of a token are skipped. -/
theorem skipToToken_spaces (count : ℕ) (lexer : Lexer)
    (hcursor : lexer.cursor = ⟨List.replicate count ' ' ++ text, line, column, index⟩)
    (h : StartsToken text) (hmark : 0 < column + count ∨ text.head? ≠ some '\uFEFF') :
    Lexer.skipToToken (fuel + 1) lexer =
      { lexer with cursor := ⟨text, line, column + count, index + count⟩ } := by
  have hbom : ¬ (column = 0 ∧ (⟨List.replicate count ' ' ++ text, line, column, index⟩ :
      Cursor).startsWith '\uFEFF' = true) := by
    rintro ⟨rfl, hstarts⟩
    cases count with
    | zero => simp_all [Cursor.startsWith, Cursor.head?]
    | succ count => simp [Cursor.startsWith, Cursor.head?, List.replicate_succ] at hstarts
  have hskip (p : Char → Bool) (hp : p ' ' = true) (hstop : ∀ c, IsInk c → p c = false) :
      (⟨List.replicate count ' ' ++ text, line, column, index⟩ : Cursor).skipWhile p =
        ⟨text, line, column + count, index + count⟩ := by
    have hlength : ((List.replicate count ' ' ++ text).takeWhile p).length = count := by
      rw [List.takeWhile_append_of_pos (by simp [hp])]
      cases text with
      | nil => simp
      | cons c text => simp [hstop c (h c rfl).1]
    rw [Cursor.skipWhile, hlength, Cursor.skip_spaces]
  have hcomment : (⟨text, line, column + count, index + count⟩ : Cursor).startsWith '#' =
      false := by
    cases text with
    | nil => rfl
    | cons c text => simpa [Cursor.startsWith, Cursor.head?] using (h c rfl).2
  have hbreak : (⟨text, line, column + count, index + count⟩ : Cursor).atBreak = false := by
    cases text with
    | nil => rfl
    | cons c text => exact (h c rfl).1.isBreak
  rw [Lexer.skipToToken]
  simp only [hcursor, hbom, if_false]
  rw [hskip _ (by simp) (fun c hc => by simp [hc.ne_space, hc.ne_tab])]
  simp only [hcomment, hbreak, Bool.false_eq_true, if_false]

/-- A line break makes a key possible. -/
theorem skipToToken_break (rest : List Char) :
    Lexer.skipToToken (fuel + 1) (blocks.lexer ⟨'\n' :: rest, line, column, index⟩ allowsKey) =
      Lexer.skipToToken fuel (blocks.lexer ⟨rest, line + 1, 0, index + 1⟩ true) := by
  have hbom : ¬ (column = 0 ∧ (⟨'\n' :: rest, line, column, index⟩ : Cursor).startsWith
      '\uFEFF' = true) := fun h => absurd h.2 Bool.false_ne_true
  have hskip (skipsTabs : Bool) : (⟨'\n' :: rest, line, column, index⟩ : Cursor).skipWhile
      (fun c => c = ' ' || (skipsTabs && c = '\t')) = ⟨'\n' :: rest, line, column, index⟩ := by
    cases skipsTabs <;> rfl
  have hcomment : (⟨'\n' :: rest, line, column, index⟩ : Cursor).startsWith '#' = false := rfl
  have hbreak : (⟨'\n' :: rest, line, column, index⟩ : Cursor).atBreak = true := rfl
  rw [Lexer.skipToToken]
  simp only [Blocks.lexer, hbom, if_false, hskip, hcomment, hbreak, Bool.false_eq_true, if_true]
  simp [Lexer.inFlow, Cursor.skipBreak]

theorem advance?_of_skipToToken {cursor cursor' : Cursor} {allowsKey' : Bool}
    (h : Lexer.skipToToken (cursor.rest.length + 1) (blocks.lexer cursor allowsKey) =
      blocks.lexer cursor' allowsKey') :
    (blocks.lexer cursor allowsKey).advance? =
      some ((blocks.close cursor'.column).lexer cursor' allowsKey') := by
  change (Lexer.skipToToken (cursor.rest.length + 1)
    (blocks.lexer cursor allowsKey)).dropStale?.bind
      (fun lexer => some (lexer.closeBlocks lexer.cursor.column)) = _
  rw [h]
  rfl

end Tokens

/-! ## Line ends -/

/-- Nothing but the indentation of the next line is left before a text: the break before it is
still to be read, or the next line has been reached. -/
def AtLineEnd (cursor : Cursor) (allowsKey : Bool) (next : ℕ) (text : List Char) : Prop :=
  cursor.rest = '\n' :: (List.replicate next ' ' ++ text) ∨
    cursor.rest = text ∧ cursor.column = next ∧ allowsKey = true

section LineEnds

variable {blocks : Blocks} {text : List Char} {cursor : Cursor} {allowsKey : Bool} {next : ℕ}

theorem length_le_of_atLineEnd (h : AtLineEnd cursor allowsKey next text) :
    text.length ≤ cursor.rest.length ∧ cursor.rest.length ≤ next + text.length + 1 := by
  rcases h with h | ⟨h, -, -⟩
  all_goals
    rw [h]
    simp
    omega

/-- A line is reached at its first character that is no space, where a key may start. -/
theorem advance?_of_atLineEnd (blocks : Blocks) (h : AtLineEnd cursor allowsKey next text)
    (htext : StartsLine text) :
    ∃ line index, (blocks.lexer cursor allowsKey).advance? =
      some ((blocks.close next).lexer ⟨text, line, next, index⟩ true) := by
  have hmark : text.head? ≠ some '\uFEFF' := fun hhead => absurd (htext _ hhead) (by decide)
  obtain ⟨rest, line, column, index⟩ := cursor
  rcases h with rfl | ⟨rfl, rfl, rfl⟩
  · refine ⟨line + 1, index + 1 + next, advance?_of_skipToToken ?_⟩
    rw [skipToToken_break, List.length_cons,
      skipToToken_spaces next _ rfl htext.startsToken (.inr hmark), Nat.zero_add]
    rfl
  · exact ⟨line, index, advance?_of_skipToToken
      (skipToToken_spaces 0 _ rfl htext.startsToken (.inr hmark))⟩

end LineEnds

/-! ## Plain tokens -/

section Plain

variable {blocks : Blocks} {c : Char} {rest : List Char} {allowsKey : Bool}
variable {line column index : ℕ}

/-- A text without indicators at its start is read as a plain scalar. -/
theorem readToken?_plain (hc : IsInk c) (hstart : startsIndicator (c :: rest) = false)
    (hdocument : (⟨c :: rest, line, column, index⟩ : Cursor).atDocumentIndicator = false) :
    (blocks.lexer ⟨c :: rest, line, column, index⟩ allowsKey).readToken? =
      (blocks.lexer ⟨c :: rest, line, column, index⟩ allowsKey).readPlainToken? := by
  simp only [startsIndicator, Bool.or_eq_false_iff] at hstart
  obtain ⟨hindicators, hmarks⟩ := hstart
  have hcontains : c ∉ indicators := by simpa using hindicators
  have hmark (hmark : c = '?' ∨ c = ':' ∨ c = '-') : startsBlank rest = false := by
    rcases hmark with rfl | rfl | rfl <;> simpa using hmarks
  have hplain : Lexer.startsPlain false (c :: rest) = true := by
    rw [Lexer.startsPlain]
    split
    · next hdash =>
      have hblank := hmark (.inr (.inr hdash))
      cases rest with
      | nil => rfl
      | cons d rest =>
          simp only [startsBlank, Bool.or_eq_false_iff] at hblank
          simp [hblank.1]
    · split
      · next hask =>
        have hblank := hmark (hask.elim .inl fun h => .inr (.inl h))
        simp [hblank]
      · simp [hc.isBlank, hc.isBreak, hcontains]
  simp only [indicators, List.mem_cons, List.not_mem_nil, or_false, not_or] at hcontains
  have hdash : ¬ (c = '-' ∧ startsBlank rest = true) := by
    rintro ⟨rfl, hblank⟩
    simp [hmark] at hblank
  have hask : ¬ (c = '?' ∧ startsBlank rest = true) := by
    rintro ⟨rfl, hblank⟩
    simp [hmark] at hblank
  have hcolon : ¬ (c = ':' ∧ startsBlank rest = true) := by
    rintro ⟨rfl, hblank⟩
    simp [hmark] at hblank
  rw [Lexer.readToken?]
  simp [Blocks.lexer, Lexer.inFlow, hdocument, hcontains, hdash, hask, hcolon, hplain,
    Cursor.startsWith, Cursor.head?]

end Plain

/-! ## Keys -/

/-- A text that is recognised as a key. -/
structure IsKey (key : List Char) : Prop where
  ne_nil : key ≠ []
  chars : ∀ c ∈ key, isKeyChar c = true
  length_le : key.length ≤ 1024

theorem IsKey.startsLine_append {key : List Char} (h : IsKey key) (rest : List Char) :
    StartsLine (key ++ rest) := by
  obtain ⟨c, tail, rfl⟩ := List.exists_cons_of_ne_nil h.ne_nil
  have hc := h.chars c List.mem_cons_self
  simpa [StartsLine] using hc

namespace Blocks

/-- A lexer after a key that starts at a position. -/
def keyed (blocks : Blocks) (key : List Char) (rest : List Char) (line column index : ℕ) : Lexer :=
  { (blocks.push (.scalar (String.ofList key) .plain)).lexer
      ⟨':' :: rest, line, column + key.length, index + key.length⟩ false with
    candidate := some ⟨blocks.tokens.size, line, column, index, blocks.indent == column⟩ }

end Blocks

section Keys

variable {blocks : Blocks} {key rest : List Char} {line column index : ℕ}

theorem atDocumentIndicator_of_isKeyChar {c : Char} (h : isKeyChar c = true) :
    (⟨c :: rest, line, column, index⟩ : Cursor).atDocumentIndicator = false := by
  have hdash := ne_of_isKeyChar h (d := '-') rfl
  have hdot := ne_of_isKeyChar h (d := '.') rfl
  simp [Cursor.atDocumentIndicator, hdash, hdot]

theorem startsIndicator_of_isKeyChar {c : Char} (h : isKeyChar c = true) (rest : List Char) :
    startsIndicator (c :: rest) = false := by
  have hindicators : c ∉ indicators := by
    have hall : indicators.any isKeyChar = false := by decide
    exact fun hc => List.any_eq_false.mp hall c hc h
  simp [startsIndicator, hindicators, ne_of_isKeyChar h (d := '?') rfl,
    ne_of_isKeyChar h (d := ':') rfl, ne_of_isKeyChar h (d := '-') rfl]

theorem endsPlain_of_isKeyChar {c : Char} (h : isKeyChar c = true) (rest : List Char) :
    endsPlain false (c :: rest) = false := by
  have hink := isInk_of_isKeyChar h
  simp [endsPlain, hink.isBlank, hink.isBreak, ne_of_isKeyChar h (d := ':') rfl]

theorem readPlain?_key (hkey : IsKey key) (hrest : startsBlank rest = true)
    (indent line column index : ℕ) :
    readPlain? false indent ((key ++ ':' :: rest).length + 1) [] Gap.none
        ⟨key ++ ':' :: rest, line, column, index⟩ =
      some (key.reverse, ⟨':' :: rest, line, column + key.length, index + key.length⟩, false) := by
  have hless : key.length < (key ++ ':' :: rest).length + 1 := by
    rw [List.length_append]
    omega
  have hend : endsPlain false (':' :: rest) = true := by simp [endsPlain, hrest]
  have hrun := readPlainRun?_run
    (fun c tail htail => endsPlain_of_isKeyChar (hkey.chars c (htail.subset List.mem_cons_self)) _)
    hend [] line column index hless
  have hgap : (⟨':' :: rest, line, column + key.length, index + key.length⟩ : Cursor).atBlank =
      false ∧ (⟨':' :: rest, line, column + key.length, index + key.length⟩ : Cursor).atBreak =
      false := ⟨rfl, rfl⟩
  have hstart : ((⟨key ++ ':' :: rest, line, column, index⟩ : Cursor).atDocumentIndicator ||
      (⟨key ++ ':' :: rest, line, column, index⟩ : Cursor).startsWith '#') = false := by
    obtain ⟨c, tail, rfl⟩ := List.exists_cons_of_ne_nil hkey.ne_nil
    have hc := hkey.chars c List.mem_cons_self
    rw [List.cons_append, atDocumentIndicator_of_isKeyChar hc]
    simp [Cursor.startsWith, Cursor.head?, ne_of_isKeyChar hc (d := '#') rfl]
  rw [readPlain?, hstart, hrun]
  simp only [bind, Option.bind_some, hgap, Bool.false_eq_true, Bool.or_self, if_false,
    List.append_nil, List.isEmpty_iff, List.reverse_eq_nil_iff, hkey.ne_nil, Gap.folded_none]
  rfl

/-- A key is a plain scalar at which a key may start. -/
theorem readToken?_key (hkey : IsKey key) (hrest : startsBlank rest = true) :
    (blocks.lexer ⟨key ++ ':' :: rest, line, column, index⟩ true).readToken? =
      some (blocks.keyed key rest line column index) := by
  have hread := readPlain?_key hkey hrest (blocks.indent + 1).toNat line column index
  have htoken : (blocks.lexer ⟨key ++ ':' :: rest, line, column, index⟩ true).readToken? =
      (blocks.lexer ⟨key ++ ':' :: rest, line, column, index⟩ true).readPlainToken? := by
    obtain ⟨c, tail, rfl⟩ := List.exists_cons_of_ne_nil hkey.ne_nil
    have hc := hkey.chars c List.mem_cons_self
    exact readToken?_plain (isInk_of_isKeyChar hc) (startsIndicator_of_isKeyChar hc _)
      (atDocumentIndicator_of_isKeyChar hc)
  rw [htoken, Lexer.readPlainToken?, Lexer.saveCandidate?]
  simp only [Blocks.lexer, Lexer.inFlow, Lexer.dropCandidate?, if_true, bind, Option.bind_some,
    List.isEmpty_nil, Bool.not_true, pure, hread, List.reverse_reverse]
  rfl

theorem advance?_keyed (hkey : IsKey key) (hindent : blocks.indent ≤ column) (line index : ℕ) :
    (blocks.keyed key rest line column index).advance? =
      some (blocks.keyed key rest line column index) := by
  have hcolon : StartsToken (':' :: rest) := by
    intro c hc
    obtain rfl : ':' = c := by simpa using hc
    exact ⟨⟨rfl, rfl⟩, by decide⟩
  have hskip : Lexer.skipToToken ((':' :: rest).length + 1)
      (blocks.keyed key rest line column index) = blocks.keyed key rest line column index :=
    skipToToken_spaces 0 (blocks.keyed key rest line column index) rfl hcolon (.inr (by simp))
  have hstale : (blocks.keyed key rest line column index).dropStale? =
      some (blocks.keyed key rest line column index) := by
    have hshort : ¬ index + 1024 < index + key.length := by
      have := hkey.length_le
      omega
    simp [Lexer.dropStale?, Blocks.keyed, Blocks.lexer, Lexer.freshCandidate?, hshort]
  have hclose : (blocks.keyed key rest line column index).closeBlocks (column + key.length : ℕ) =
      blocks.keyed key rest line column index := by
    have hunroll (tokens : Array Token) : Lexer.unroll (column + key.length : ℕ) blocks.indent
        blocks.outer tokens = (blocks.indent, blocks.outer, tokens) := by
      unfold Lexer.unroll
      rw [if_neg (by omega)]
    simp only [Lexer.closeBlocks, Blocks.keyed, Blocks.lexer, Blocks.push, Lexer.inFlow, hunroll]
    rfl
  change (Lexer.skipToToken ((':' :: rest).length + 1)
    (blocks.keyed key rest line column index)).dropStale?.bind
      (fun lexer => some (lexer.closeBlocks lexer.cursor.column)) = _
  rw [hskip, hstale]
  exact congrArg some hclose

theorem insertIdx_append {α : Type*} (front rest : List α) (x : α) :
    (front ++ rest).insertIdx front.length x = front ++ x :: rest := by
  induction front with
  | nil => rfl
  | cons y front ih => simp [ih]

/-- The colon after a key puts the tokens before it that announce the key. -/
theorem readToken?_keyed (hrest : startsBlank rest = true) :
    (blocks.keyed key rest line column index).readToken? =
      some (((((blocks.openAt column).push .key).push (.scalar (String.ofList key) .plain)).push
        .value).lexer ⟨rest, line, column + key.length + 1, index + key.length + 1⟩ false) := by
  have hvalue : (blocks.keyed key rest line column index).readToken? =
      (blocks.keyed key rest line column index).readValue? := by
    rw [Lexer.readToken?]
    simp [Blocks.keyed, Blocks.lexer, Cursor.startsWith, Cursor.head?, Cursor.atDocumentIndicator,
      hrest]
  have hkeys (tokens : Array Token) (token : Token) (rest : List Token) :
      (tokens.toList ++ rest).insertIdx tokens.size token = tokens.toList ++ token :: rest :=
    insertIdx_append tokens.toList rest token
  rw [hvalue, Lexer.readValue?]
  simp only [Blocks.keyed, Blocks.lexer, Blocks.push, Array.toList_push, hkeys]
  rw [Lexer.openBlock, Blocks.openAt]
  by_cases hdeeper : blocks.indent < column
  · simp only [Lexer.inFlow, hdeeper]
    simp [hkeys, Lexer.emit, ← Array.toList_inj]
  · simp only [Lexer.inFlow, hdeeper]
    simp [Lexer.emit, ← Array.toList_inj]

end Keys

/-! ## Lines -/

/-- A scalar as it is written after its key, with the line break that ends it. -/
structure WrittenScalar where
  written : List Char
  text : String
  style : Style

/-- As the value of a key in a column the scalar is read as its text, and what is left is the next
line. -/
structure WrittenScalar.IsReadable (scalar : WrittenScalar) (parent : ℕ) : Prop where
  ne_nil : scalar.written ≠ []
  startsToken : StartsToken scalar.written
  read (blocks : Blocks) (tail : List Char) (line column index next : ℕ)
    (hindent : blocks.indent = parent) (hcolumn : parent < column) (hnext : next ≤ parent)
    (htail : StartsLine tail) :
    ∃ cursor allowsKey, AtLineEnd cursor allowsKey next tail ∧
      (blocks.lexer ⟨scalar.written ++ (List.replicate next ' ' ++ tail), line, column, index⟩
          false).readToken? =
        some ((blocks.push (.scalar scalar.text scalar.style)).lexer cursor allowsKey)

theorem WrittenScalar.IsReadable.startsToken_append {scalar : WrittenScalar} {parent : ℕ}
    (h : scalar.IsReadable parent) (rest : List Char) : StartsToken (scalar.written ++ rest) := by
  obtain ⟨c, written, hwritten⟩ := List.exists_cons_of_ne_nil h.ne_nil
  have hstart := h.startsToken
  rw [hwritten] at hstart ⊢
  exact hstart

/-- A line of a block mapping: a key and its scalar, or a key whose mapping stands below. -/
structure Line where
  column : ℕ
  key : String
  value : Option WrittenScalar

namespace Line

/-- A line after its indentation. -/
def content (line : Line) : List Char :=
  line.key.toList ++ ':' :: match line.value with
    | some scalar => ' ' :: scalar.written
    | none => ['\n']

/-- The text of a line. -/
def text (line : Line) : List Char :=
  List.replicate line.column ' ' ++ line.content

/-- A line that is read as it is meant before a line in a column. -/
structure IsReadable (line : Line) (next : ℕ) : Prop where
  key : IsKey line.key.toList
  scalar : ∀ scalar ∈ line.value, scalar.IsReadable line.column
  next_le : line.value.isSome → next ≤ line.column
  lt_next : line.value = none → line.column < next

theorem isReadable_some {column next : ℕ} {key : String} {scalar : WrittenScalar}
    (hkey : IsKey key.toList) (hscalar : scalar.IsReadable column) (hnext : next ≤ column) :
    IsReadable ⟨column, key, some scalar⟩ next :=
  ⟨hkey, fun _ h => Option.some.inj h ▸ hscalar, fun _ => hnext, nofun⟩

theorem isReadable_none {column next : ℕ} {key : String} (hkey : IsKey key.toList)
    (hnext : column < next) : IsReadable ⟨column, key, none⟩ next :=
  ⟨hkey, nofun, nofun, fun _ => hnext⟩

end Line

namespace Blocks

/-- The collections and tokens after a key. -/
def withKey (blocks : Blocks) (column : ℕ) (key : String) : Blocks :=
  (((blocks.openAt column).push .key).push (.scalar key .plain)).push .value

/-- The collections and tokens after a line. -/
def line (blocks : Blocks) (line : Line) : Blocks :=
  let keyed := (blocks.close line.column).withKey line.column line.key
  match line.value with
  | some scalar => keyed.push (.scalar scalar.text scalar.style)
  | none => keyed

theorem isRooted_line {blocks : Blocks} (h : blocks.IsRooted) (line : Line) :
    (blocks.line line).IsRooted := by
  have hopen := isRooted_openAt (isRooted_close h line.column) line.column
  rw [Blocks.line]
  split <;> exact hopen

end Blocks

section Lines

variable {blocks : Blocks} {tail : List Char} {next : ℕ}

/-- A key leads to what follows its colon. -/
theorem exists_leads_key {column : ℕ} {key : String} {rest : List Char}
    (hkey : IsKey key.toList) (hrest : startsBlank rest = true) (hrooted : blocks.IsRooted)
    {cursor : Cursor} {allowsKey : Bool}
    (hend : AtLineEnd cursor allowsKey column (key.toList ++ ':' :: rest)) :
    ∃ row column' index, column < column' ∧
      Lexer.Leads (blocks.lexer cursor allowsKey)
        (((blocks.close column).withKey column key).lexer ⟨rest, row, column', index⟩ false) := by
  have hstart := hkey.startsLine_append (':' :: rest)
  obtain ⟨row, index, hadvance⟩ := advance?_of_atLineEnd blocks hend hstart
  obtain ⟨hlength, -⟩ := length_le_of_atLineEnd hend
  have hpos := List.length_pos_iff.mpr hkey.ne_nil
  have hkeyed := Lexer.leads_of_readToken? hadvance
    (List.append_ne_nil_of_right_ne_nil _ (List.cons_ne_nil _ _))
    (readToken?_key hkey hrest) (by
      simp only [List.length_append] at hlength
      simp only [Blocks.lexer, Blocks.keyed]
      omega)
  have hvalue := Lexer.leads_of_readToken?
    (advance?_keyed hkey (Blocks.close_indent_le hrooted column) row index)
    (List.cons_ne_nil ':' rest) (readToken?_keyed hrest) (Nat.lt_succ_self rest.length)
  rw [String.ofList_toList] at hvalue
  exact ⟨row, _, _, by omega, hkeyed.trans hvalue⟩

/-- A line leads to its end, with its tokens. -/
theorem exists_leads_line {line : Line} (hline : line.IsReadable next) (htail : StartsLine tail)
    (hrooted : blocks.IsRooted) {cursor : Cursor} {allowsKey : Bool}
    (hend : AtLineEnd cursor allowsKey line.column
      (line.content ++ (List.replicate next ' ' ++ tail))) :
    ∃ cursor' allowsKey', AtLineEnd cursor' allowsKey' next tail ∧
      Lexer.Leads (blocks.lexer cursor allowsKey)
        ((blocks.line line).lexer cursor' allowsKey') := by
  obtain ⟨column, key, value⟩ := line
  rw [Line.content, List.append_assoc, List.cons_append] at hend
  dsimp only at hend
  cases value with
  | none =>
      obtain ⟨row, column', index, -, hleads⟩ := exists_leads_key hline.key rfl hrooted hend
      exact ⟨_, _, .inl rfl, hleads⟩
  | some scalar =>
      obtain ⟨row, column', index, hlt, hleads⟩ := exists_leads_key hline.key rfl hrooted hend
      have hscalar := hline.scalar scalar rfl
      have hindent : ((blocks.close column).withKey column key).indent = column :=
        Blocks.openAt_indent (Blocks.close_indent_le hrooted column)
      obtain ⟨cursor', allowsKey', hend', hread⟩ := hscalar.read
        ((blocks.close column).withKey column key) tail row (column' + 1) (index + 1) next hindent
        (Nat.lt_succ_of_lt hlt) (hline.next_le rfl) htail
      refine ⟨cursor', allowsKey', hend', hleads.trans ?_⟩
      have hpos := List.length_pos_iff.mpr hscalar.ne_nil
      obtain ⟨-, hlength⟩ := length_le_of_atLineEnd hend'
      have hadvance := advance?_of_skipToToken
        (skipToToken_spaces 1 (((blocks.close column).withKey column key).lexer
            ⟨' ' :: scalar.written ++ (List.replicate next ' ' ++ tail), row, column', index⟩ false)
          rfl (hscalar.startsToken_append _) (.inl (by omega)))
      -- The scalar starts right of its key, so nothing closes before it is read.
      have hclose : ((blocks.close column).withKey column key).close (column' + 1 : ℕ) =
          (blocks.close column).withKey column key :=
        Blocks.close_of_le (by rw [hindent]; omega)
      rw [hclose] at hadvance
      refine Lexer.leads_of_readToken? hadvance ?_ hread ?_
      · exact List.append_ne_nil_of_left_ne_nil hscalar.ne_nil _
      · simp [Blocks.lexer]
        omega

end Lines

/-! ## Documents -/

/-- Column of the first of some lines, or of the end of the text. -/
def columnOf : List Line → ℕ
  | [] => 0
  | line :: _ => line.column

/-- The text of lines after the indentation of the first. -/
def contentOf : List Line → List Char
  | [] => []
  | line :: lines => line.content ++ lines.flatMap Line.text

/-- Lines that are read as they are meant, each before the next. -/
def AreReadable : List Line → Prop
  | [] => True
  | line :: lines => line.IsReadable (columnOf lines) ∧ AreReadable lines

namespace Blocks

/-- The tokens at the end of a text, where every collection closes. -/
def finish (blocks : Blocks) : List Token :=
  ((blocks.close (0 : ℕ)).close (-1)).tokens.toList

end Blocks

section Documents

variable {blocks : Blocks} {lines : List Line}

theorem flatMap_text (lines : List Line) :
    lines.flatMap Line.text = List.replicate (columnOf lines) ' ' ++ contentOf lines := by
  cases lines with
  | nil => rfl
  | cons line lines => rw [List.flatMap_cons, Line.text, List.append_assoc, columnOf, contentOf]

theorem startsLine_contentOf (h : AreReadable lines) : StartsLine (contentOf lines) := by
  cases lines with
  | nil => simp [StartsLine, contentOf]
  | cons line lines =>
      rw [contentOf, Line.content, List.append_assoc]
      exact h.1.key.startsLine_append _

theorem AreReadable.isKey (h : AreReadable lines) : ∀ line ∈ lines, IsKey line.key.toList := by
  induction lines with
  | nil => simp
  | cons line lines ih => exact List.forall_mem_cons.mpr ⟨h.1.key, ih h.2⟩

/-- A line may stand in a document if its scalar may. -/
theorem isAllowed_text {line : Line} (hkey : IsKey line.key.toList)
    (hvalue : ∀ scalar ∈ line.value, ∀ c ∈ scalar.written, isAllowed c = true) :
    ∀ c ∈ line.text, isAllowed c = true := by
  obtain ⟨column, key, value⟩ := line
  intro c hc
  rcases List.mem_append.mp hc with hc | hc
  · rw [List.eq_of_mem_replicate hc]
    rfl
  · rcases List.mem_append.mp hc with hc | hc
    · exact isAllowed_of_isKeyChar (hkey.chars c hc)
    · cases value with
      | none =>
          have hend : [':', '\n'].all isAllowed = true := by decide
          exact List.all_eq_true.mp hend c hc
      | some scalar =>
          rcases List.mem_cons.mp hc with rfl | hc
          · rfl
          · rcases List.mem_cons.mp hc with rfl | hc
            · rfl
            · exact hvalue scalar rfl c hc

/-- Lines lead to the end of the text, one after the other. -/
theorem exists_leads_lines (h : AreReadable lines) (hrooted : blocks.IsRooted) {cursor : Cursor}
    {allowsKey : Bool} (hend : AtLineEnd cursor allowsKey (columnOf lines) (contentOf lines)) :
    ∃ cursor' allowsKey', AtLineEnd cursor' allowsKey' 0 [] ∧
      Lexer.Leads (blocks.lexer cursor allowsKey)
        ((lines.foldl Blocks.line blocks).lexer cursor' allowsKey') := by
  induction lines generalizing blocks cursor allowsKey with
  | nil => exact ⟨cursor, allowsKey, hend, fun fuel hfuel => ⟨fuel, hfuel, rfl⟩⟩
  | cons line lines ih =>
      obtain ⟨hline, hlines⟩ := h
      rw [contentOf, flatMap_text] at hend
      obtain ⟨cursor', allowsKey', hend', hleads⟩ :=
        exists_leads_line hline (startsLine_contentOf hlines) hrooted hend
      obtain ⟨cursor'', allowsKey'', hend'', hleads'⟩ :=
        ih hlines (Blocks.isRooted_line hrooted line) hend'
      exact ⟨cursor'', allowsKey'', hend'', hleads.trans hleads'⟩

/-- At the end of the text every collection closes. -/
theorem run?_end {cursor : Cursor} {allowsKey : Bool} (h : AtLineEnd cursor allowsKey 0 [])
    (fuel : ℕ) : Lexer.run? (fuel + 1) (blocks.lexer cursor allowsKey) = some blocks.finish := by
  have hnone : StartsLine [] := by simp [StartsLine]
  obtain ⟨line, index, hadvance⟩ := advance?_of_atLineEnd blocks h hnone
  exact Lexer.run?_of_closeAll? hadvance rfl rfl fuel

/-- The tokens of a text are those of its lines. -/
theorem tokens?_of_lines {text : String} (htext : text.toList = lines.flatMap Line.text)
    (hallowed : ∀ line ∈ lines, ∀ scalar ∈ line.value, ∀ c ∈ scalar.written, isAllowed c = true)
    (hlines : AreReadable lines) (hcolumn : columnOf lines = 0) :
    tokens? text = some (lines.foldl Blocks.line Blocks.empty).finish := by
  have hcontent : text.toList = contentOf lines := by
    rw [htext, flatMap_text, hcolumn]
    rfl
  have hstart := startsLine_contentOf hlines
  rw [← hcontent] at hstart
  have hend : AtLineEnd (Cursor.start text.toList) true (columnOf lines) (contentOf lines) :=
    .inr ⟨hcontent, hcolumn.symm, rfl⟩
  have hrooted : Blocks.empty.IsRooted := List.mem_cons_self
  obtain ⟨cursor, allowsKey, hend', hleads⟩ := exists_leads_lines hlines hrooted hend
  obtain ⟨fuel, hfuel, hrun⟩ := hleads (text.toList.length + 1) (Nat.lt_succ_self _)
  obtain ⟨fuel, rfl⟩ := Nat.exists_eq_add_of_lt hfuel
  have hall : text.toList.all isAllowed = true := by
    rw [List.all_eq_true, htext]
    intro c hc
    obtain ⟨line, hline, hc⟩ := List.mem_flatMap.mp hc
    exact isAllowed_text (hlines.isKey line hline) (hallowed line hline) c hc
  rw [run?_end hend'] at hrun
  unfold tokens?
  dsimp only
  split
  · next rest heq => exact absurd (hstart '\uFEFF' (by rw [heq]; rfl)) (by decide)
  · rw [if_pos hall]
    exact hrun

end Documents

end Dashboard.Yaml
