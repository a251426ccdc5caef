import Dashboard.Proofs.Yaml.Chomping
import Dashboard.Proofs.Yaml.Lines

/-! # Written scalars

Whatever style a text is written in, it is read back from its key's line as the same text. -/

namespace Dashboard.Yaml

/-! ## First characters -/

section FirstCharacters

variable {blocks : Blocks} {rest : List Char} {allowsKey : Bool} {line column index : ℕ}

theorem readToken?_quote (single : Bool) (hcolumn : 0 < column) :
    (blocks.lexer ⟨quoteOf single :: rest, line, column, index⟩ allowsKey).readToken? =
      (blocks.lexer ⟨quoteOf single :: rest, line, column, index⟩ allowsKey).readAtom?
        (Lexer.readQuotedToken? single) := by
  rw [Lexer.readToken?]
  cases single <;>
    simp [Blocks.lexer, Cursor.atDocumentIndicator_eq_false hcolumn, quoteOf, Cursor.startsWith,
      Cursor.head?]

theorem readToken?_literal (hcolumn : 0 < column) :
    (blocks.lexer ⟨'|' :: rest, line, column, index⟩ allowsKey).readToken? =
      (blocks.lexer ⟨'|' :: rest, line, column, index⟩ allowsKey).readBlockToken? false := by
  rw [Lexer.readToken?]
  simp [Blocks.lexer, Lexer.inFlow, Cursor.atDocumentIndicator_eq_false hcolumn, Cursor.startsWith,
    Cursor.head?]

end FirstCharacters

/-! ## Styles -/

section Styles

variable {text : List Char} {parent : ℕ}

/-- A plain text without indicators is read back. -/
theorem isReadable_plain {before : Char} (h : IsPlainAfter before text)
    (hstart : startsIndicator text = false) (parent : ℕ) :
    WrittenScalar.IsReadable ⟨text ++ ['\n'], String.ofList text, .plain⟩ parent where
  ne_nil := List.append_ne_nil_of_left_ne_nil h.ne_nil _
  startsToken := by
    obtain ⟨c, rest, rfl⟩ := List.exists_cons_of_ne_nil h.ne_nil
    have hc : IsInk c ∧ c ≠ '#' :=
      ⟨startsInk_cons.mp h.startsInk, by simpa using h.noHash⟩
    simpa [StartsToken] using hc
  read blocks tail line column index next hindent hcolumn hnext htail := by
    have hless : text.length <
        (text ++ '\n' :: (List.replicate next ' ' ++ tail)).length + 1 := by
      rw [List.length_append]
      omega
    obtain ⟨line', index', hread⟩ := readPlain?_line h htail.startsInk (Nat.lt_succ_of_le hnext)
      Gap.none [] line index hless hcolumn
    refine ⟨⟨tail, line', next, index'⟩, true, .inr ⟨rfl, rfl, rfl⟩, ?_⟩
    have hparent : (blocks.indent + 1).toNat = parent + 1 := by omega
    have htoken : (blocks.lexer ⟨text ++ '\n' :: (List.replicate next ' ' ++ tail), line, column,
          index⟩ false).readToken? =
        (blocks.lexer ⟨text ++ '\n' :: (List.replicate next ' ' ++ tail), line, column,
          index⟩ false).readPlainToken? := by
      obtain ⟨c, rest, rfl⟩ := List.exists_cons_of_ne_nil h.ne_nil
      rw [List.cons_append]
      refine readToken?_plain (startsInk_cons.mp h.startsInk) ?_
        (Cursor.atDocumentIndicator_eq_false (by omega))
      rwa [startsIndicator, startsBlank_append (startsBlank_of_isBreak rfl _)]
    rw [List.append_assoc, List.singleton_append, htoken, Lexer.readPlainToken?,
      Lexer.saveCandidate?]
    simp only [Blocks.lexer, Lexer.inFlow, Bool.false_eq_true, if_false, bind, Option.bind_some,
      List.isEmpty_nil, Bool.not_true, hparent, hread]
    simp [Lexer.emit, Blocks.push]

/-- A quoted text is read back. -/
theorem isReadable_quoted {single : Bool} {write : Char → List Char} {indent : ℕ}
    {written : List Char} (h : Laid single write indent text written) (hindent : 0 < indent)
    (parent : ℕ) :
    WrittenScalar.IsReadable ⟨quoteOf single :: (written ++ [quoteOf single, '\n']),
      String.ofList text, if single then .singleQuoted else .doubleQuoted⟩ parent where
  ne_nil := List.cons_ne_nil _ _
  startsToken := by
    intro c hc
    obtain rfl : quoteOf single = c := by simpa using hc
    cases single <;> exact ⟨⟨rfl, rfl⟩, by decide⟩
  read blocks tail line column index next hblocks hcolumn hnext htail := by
    have hsuffix : ('\n' :: (List.replicate next ' ' ++ tail)).head? ≠ some '\'' := by simp
    have hless : written.length < (quoteOf single :: (written ++ quoteOf single :: '\n' ::
        (List.replicate next ' ' ++ tail))).length + 1 := by
      simp only [List.length_append, List.length_cons]
      omega
    obtain ⟨cursor, hrest, hread⟩ := readQuoted?_of_laid h hindent hsuffix [] line (index + 1) hless
      (Nat.succ_pos column)
    refine ⟨cursor, false, .inl hrest, ?_⟩
    have htext : quoteOf single :: (written ++ [quoteOf single, '\n']) ++
        (List.replicate next ' ' ++ tail) =
        quoteOf single ::
          (written ++ quoteOf single :: '\n' :: (List.replicate next ' ' ++ tail)) := by
      simp
    rw [htext, readToken?_quote single (by omega), Lexer.readAtom?, Lexer.saveCandidate?]
    simp only [Blocks.lexer, Lexer.readQuotedToken?, Bool.false_eq_true, if_false, bind,
      Option.bind_some, Cursor.skip_one, hread]
    simp [Lexer.emit, Blocks.push]

/-- A text of several lines is read back from a literal. -/
theorem isReadable_literal {step : ℕ} (hne : text ≠ [])
    (hwritable : ∀ c ∈ text, isWritable c = true) (hstep : 0 < step) (hdigit : step < 10)
    (parent : ℕ) :
    WrittenScalar.IsReadable ⟨literalHeader step text ++
      '\n' :: indentLines (parent + step) true (closed text), String.ofList text, .literal⟩
      parent where
  ne_nil := List.cons_ne_nil _ _
  startsToken := by
    intro c hc
    obtain rfl : '|' = c := by simpa [literalHeader] using hc
    exact ⟨⟨rfl, rfl⟩, by decide⟩
  read blocks tail line column index next hindent hcolumn hnext htail := by
    obtain ⟨line', index', hread⟩ := readBlock?_literal hne hwritable hstep hdigit hnext
      htail.startsInk line (column + 1) (index + 1)
    refine ⟨⟨tail, line', next, index'⟩, true, .inr ⟨rfl, rfl, rfl⟩, ?_⟩
    have htext : literalHeader step text ++
          '\n' :: indentLines (parent + step) true (closed text) ++
          (List.replicate next ' ' ++ tail) =
        '|' :: (incrementMark (incrementOf step text) ++
          (chompingMark (chompingOf text) ++ '\n' :: (indentLines (parent + step) true
            (closed text) ++ (List.replicate next ' ' ++ tail)))) := by
      rw [literalHeader_eq hstep]
      simp
    rw [htext, readToken?_literal (by omega), Lexer.readBlockToken?, Lexer.dropCandidate?]
    simp [Blocks.lexer, hindent, hread, Lexer.emit, Blocks.push]

end Styles

/-! ## Choice of a style -/

section Choice

variable {text : String}

/-- What is known of a text that is written in each style. -/
theorem styleOf_cases (text : String) :
    styleOf text = .doubleQuoted ∨
    (styleOf text = .literal ∧ '\n' ∈ text.toList ∧ ∀ c ∈ text.toList, isWritable c = true) ∨
    (styleOf text = .singleQuoted ∧ FitsSingleQuotes text.toList) ∨
    (styleOf text = .plain ∧ FitsSingleQuotes text.toList ∧ isTypedText text = false ∧
      (Traits.of text.toList).hasIndicators = false ∧ (Traits.of text.toList).hasBreaks = false ∧
      (Traits.of text.toList).hasOuterSpace = false) := by
  have hwritable (h : (Traits.of text.toList).hasUnwritable = false) :
      ∀ c ∈ text.toList, isWritable c = true := by simpa [Traits.of] using h
  simp only [styleOf]
  split
  · next hfeed =>
    split
    · exact .inl rfl
    · next hescapes =>
      simp only [Bool.or_eq_true, not_or, Bool.not_eq_true] at hescapes
      exact .inr (.inl ⟨rfl, by simpa using hfeed, hwritable hescapes.1.2⟩)
  · next hfeed =>
    split
    · exact .inl rfl
    · next hescapes =>
      simp only [Bool.or_eq_true, not_or, Bool.not_eq_true] at hescapes
      have hfits : FitsSingleQuotes text.toList :=
        ⟨hwritable hescapes.1.2, by simpa using hfeed, hescapes.2, hescapes.1.1⟩
      split
      · exact .inr (.inr (.inl ⟨rfl, hfits⟩))
      · next hquotes =>
        simp only [Bool.or_eq_true, not_or, Bool.not_eq_true] at hquotes
        obtain ⟨⟨⟨htyped, hindicators⟩, hbreaks⟩, houter⟩ := hquotes
        exact .inr (.inr (.inr ⟨rfl, hfits, htyped, hindicators, hbreaks, houter⟩))

/-- Without indicators, breaks and outer spaces a text is plain. -/
theorem isPlainAfter_of_traits {text : List Char} (hne : text ≠ [])
    (hwritable : ∀ c ∈ text, isWritable c = true)
    (hindicators : (Traits.of text).hasIndicators = false)
    (hbreaks : (Traits.of text).hasBreaks = false)
    (houter : (Traits.of text).hasOuterSpace = false) :
    IsPlainAfter 'x' text ∧ startsIndicator text = false := by
  simp only [Traits.of, Bool.or_eq_false_iff] at hindicators houter
  obtain ⟨⟨⟨hstart, hinner⟩, -⟩, -⟩ := hindicators
  have hbreak (c) (hc : c ∈ text) : isBreak c = false := by
    simpa using List.any_eq_false.mp hbreaks c hc
  refine ⟨⟨hne, ?_, ?_, ?_, ?_, ?_⟩, hstart⟩
  · intro c hc
    by_cases hspace : c = ' '
    · exact .inl hspace
    · exact .inr (isInk_of_isWritable (hwritable c hc) hspace (hbreak c hc))
  · obtain ⟨c, rest, rfl⟩ := List.exists_cons_of_ne_nil hne
    simp only [startsIndicator, Bool.or_eq_false_iff] at hstart
    rw [hasIndicator, hinner]
    by_cases hcolon : c = ':'
    · subst hcolon
      simpa using hstart.2
    · simp [hcolon, isBlank, isBreak]
  · intro hhash
    obtain ⟨rest, rfl⟩ := List.head?_eq_some_iff.mp hhash
    simp [startsIndicator, indicators] at hstart
  · intro hspace
    simp [hspace] at houter
  · intro hspace
    simp [hspace] at houter

theorem indentLines_append_break {indent : ℕ} {c : Char} (hc : isBreak c = true)
    (atStart : Bool) (text : List Char) :
    indentLines indent atStart (text ++ [c]) = indentLines indent atStart text ++ [c] := by
  induction text generalizing atStart with
  | nil => simp [indentLines, hc]
  | cons b text ih =>
      rw [List.cons_append, indentLines, indentLines]
      split
      · rw [ih, List.cons_append]
      · rw [ih]
        simp

/-- Every text is read back from the line of its key. -/
theorem isReadable_scalarLine (text : String) {parent step : ℕ} (hstep : 0 < step)
    (hdigit : step < 10) :
    WrittenScalar.IsReadable ⟨scalarLine (parent + step) step text, text, styleOf text⟩ parent := by
  rcases styleOf_cases text with hstyle | ⟨hstyle, hfeed, hwritable⟩ | ⟨hstyle, hfits⟩ |
    ⟨hstyle, hfits, htyped, hindicators, hbreaks, houter⟩
  · have h := isReadable_quoted (laid_escaped 1 text.toList) Nat.one_pos parent
    rw [String.ofList_toList] at h
    rwa [scalarLine, hstyle]
  · have h := isReadable_literal (List.ne_nil_of_mem hfeed) hwritable hstep hdigit parent
    have hlines : indentLines (parent + step) true (closed text.toList) =
        indentLines (parent + step) true text.toList ++
          if text.toList.getLast?.any isBreak then [] else ['\n'] := by
      rw [closed]
      split
      · simp
      · exact indentLines_append_break rfl true _
    rw [String.ofList_toList, hlines] at h
    rw [scalarLine, hstyle]
    simpa using h
  · have h := isReadable_quoted (laid_singleBody (parent + step) hfits)
      (Nat.add_pos_right parent hstep) parent
    rw [String.ofList_toList] at h
    rw [scalarLine, hstyle, singleQuotedText_eq]
    simpa [quoteOf] using h
  · have hne : text.toList ≠ [] := by
      intro hnil
      rw [String.toList_eq_nil_iff.mp hnil] at htyped
      exact absurd htyped (by decide)
    obtain ⟨hplain, hstart⟩ :=
      isPlainAfter_of_traits hne hfits.isWritable hindicators hbreaks houter
    have h := isReadable_plain hplain hstart parent
    rw [String.ofList_toList] at h
    rwa [scalarLine, hstyle]

end Choice

/-! ## Characters that may stand in a document -/

section Allowed

theorem isAllowed_of_isWritable {c : Char} (h : isWritable c = true) : isAllowed c = true := by
  simp only [isWritable, isAllowed, Bool.or_eq_true, Bool.and_eq_true, decide_eq_true_eq,
    bne_iff_ne, ne_eq] at h ⊢
  omega

theorem isWritable_of_isDigit {c : Char} (h : c.isDigit = true) : isWritable c = true := by
  obtain ⟨hlow, hhigh⟩ : 48 ≤ c.toNat ∧ c.toNat ≤ 57 := by
    simpa [Char.isDigit, UInt32.le_iff_toNat_le] using h
  simp only [isWritable, Bool.or_eq_true, Bool.and_eq_true, decide_eq_true_eq]
  omega

theorem mem_toDigits {n : ℕ} {c : Char} (h : c ∈ Nat.toDigits 16 n) :
    ∃ digit < 16, c = Nat.digitChar digit := by
  induction n using Nat.strong_induction_on with
  | h n ih =>
    rw [Nat.toDigits_eq_if (by decide)] at h
    split at h
    · next hlt => exact ⟨n, hlt, List.mem_singleton.mp h⟩
    · next hge =>
      rcases List.mem_append.mp h with h | h
      · exact ih (n / 16) (Nat.div_lt_self (by omega) (by decide)) h
      · exact ⟨n % 16, Nat.mod_lt n (by decide), List.mem_singleton.mp h⟩

theorem isAllowed_hexPadded (count code : ℕ) : ∀ c ∈ hexPadded count code, isAllowed c = true := by
  have hall : ∀ digit < 16, isAllowed (Nat.digitChar digit).toUpper = true := by decide
  intro c hc
  rcases List.mem_append.mp hc with hc | hc
  · rw [List.eq_of_mem_replicate hc]
    rfl
  · obtain ⟨b, hb, rfl⟩ := List.mem_map.mp hc
    obtain ⟨digit, hdigit, rfl⟩ := mem_toDigits hb
    exact hall digit hdigit

theorem isAllowed_escapedChar (c : Char) : ∀ b ∈ escapedChar c, isAllowed b = true := by
  unfold escapedChar
  split
  · next hself =>
    simp only [Bool.and_eq_true] at hself
    simpa using isAllowed_of_isWritable hself.1.1.1
  · dsimp only
    split
    · next letter hletter =>
      revert hletter
      split
      all_goals
        rintro ⟨⟩
      all_goals
        exact List.all_eq_true.mp rfl
    · have hcode (mark : Char) (hmark : isAllowed mark = true) (count : ℕ) :
          ∀ b ∈ '\\' :: mark :: hexPadded count c.toNat, isAllowed b = true := by
        have hescape : isAllowed '\\' = true := rfl
        simpa [hmark, hescape] using isAllowed_hexPadded count c.toNat
      split
      · exact hcode 'x' rfl 2
      · split
        · exact hcode 'u' rfl 4
        · exact hcode 'U' rfl 8

theorem mem_indentLines {indent : ℕ} {atStart : Bool} {text : List Char} {c : Char}
    (h : c ∈ indentLines indent atStart text) : c = ' ' ∨ c ∈ text := by
  induction text generalizing atStart with
  | nil => simp [indentLines] at h
  | cons b text ih =>
      rw [indentLines] at h
      split at h
      · rcases List.mem_cons.mp h with rfl | h
        · exact .inr List.mem_cons_self
        · exact (ih h).imp_right (List.mem_cons_of_mem b)
      · rcases List.mem_append.mp h with h | h
        · refine .inl ?_
          split at h
          · exact List.eq_of_mem_replicate h
          · exact absurd h List.not_mem_nil
        · rcases List.mem_cons.mp h with rfl | h
          · exact .inr List.mem_cons_self
          · exact (ih h).imp_right (List.mem_cons_of_mem b)

theorem isWritable_singleQuotedText {indent : ℕ} {text : List Char}
    (h : ∀ c ∈ text, isWritable c = true) :
    ∀ c ∈ singleQuotedText indent text, isWritable c = true := by
  have hbody (c) (hc : c ∈ singleBody indent text) : isWritable c = true := by
    rcases List.mem_append.mp hc with hc | hc
    · rcases mem_indentLines hc with rfl | hc
      · rfl
      · obtain ⟨b, hb, hc⟩ := List.mem_flatMap.mp hc
        rw [singleChar] at hc
        split at hc
        · obtain rfl : c = '\'' := by simpa using hc
          rfl
        · rw [List.mem_singleton.mp hc]
          exact h b hb
    · split at hc
      · rw [List.eq_of_mem_replicate hc]
        rfl
      · exact absurd hc List.not_mem_nil
  intro c hc
  rw [singleQuotedText_eq, List.mem_cons, List.mem_append, List.mem_singleton] at hc
  rcases hc with rfl | hc | rfl
  · rfl
  · exact hbody c hc
  · rfl

theorem isWritable_literalHeader {step : ℕ} (hstep : 0 < step) (text : List Char) :
    ∀ c ∈ literalHeader step text, isWritable c = true := by
  intro c hc
  rw [literalHeader_eq hstep, List.mem_cons, List.mem_append] at hc
  rcases hc with rfl | hc | hc
  · rfl
  · rw [incrementMark] at hc
    split at hc
    · exact absurd hc List.not_mem_nil
    · rw [Nat.toString_eq_repr, Nat.toList_repr] at hc
      exact isWritable_of_isDigit (Nat.isDigit_of_mem_toDigits (by decide) (by decide) hc)
  · cases hchomping : chompingOf text with
    | strip | keep =>
        rw [hchomping] at hc
        rw [List.mem_singleton.mp hc]
        rfl
    | clip =>
        rw [hchomping] at hc
        exact absurd hc List.not_mem_nil

/-- Everything written for a scalar may stand in a document. -/
theorem isAllowed_scalarLine (indent : ℕ) {step : ℕ} (hstep : 0 < step) (text : String) :
    ∀ c ∈ scalarLine indent step text, isAllowed c = true := by
  intro c hc
  rcases styleOf_cases text with hstyle | ⟨hstyle, -, hwritable⟩ | ⟨hstyle, hfits⟩ |
    ⟨hstyle, hfits, -⟩
  · rw [scalarLine, hstyle] at hc
    simp only [List.mem_append, List.mem_cons, List.mem_flatMap, List.not_mem_nil, or_false] at hc
    rcases hc with (rfl | ⟨b, -, hc⟩) | rfl | rfl
    · rfl
    · exact isAllowed_escapedChar b c hc
    · rfl
    · rfl
  · apply isAllowed_of_isWritable
    rw [scalarLine, hstyle] at hc
    rcases List.mem_append.mp hc with hc | hc
    · rcases List.mem_append.mp hc with hc | hc
      · exact isWritable_literalHeader hstep _ c hc
      · rcases List.mem_cons.mp hc with rfl | hc
        · rfl
        · rcases mem_indentLines hc with rfl | hc
          · rfl
          · exact hwritable c hc
    · split at hc
      · exact absurd hc List.not_mem_nil
      · rw [List.mem_singleton.mp hc]
        rfl
  · apply isAllowed_of_isWritable
    rw [scalarLine, hstyle] at hc
    rcases List.mem_append.mp hc with hc | hc
    · exact isWritable_singleQuotedText hfits.isWritable c hc
    · rw [List.mem_singleton.mp hc]
      rfl
  · apply isAllowed_of_isWritable
    rw [scalarLine, hstyle] at hc
    rcases List.mem_append.mp hc with hc | hc
    · exact hfits.isWritable c hc
    · rw [List.mem_singleton.mp hc]
      rfl

end Allowed

end Dashboard.Yaml
