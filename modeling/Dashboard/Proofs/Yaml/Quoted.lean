import Dashboard.Proofs.Yaml.Gaps

/-! # Quoted scalars

Between quotes every character is written so that it is read as itself, and the gaps between
runs of characters are kept. -/

namespace Dashboard.Yaml

/-! ## Reading runs -/

/-- The quote around a scalar. -/
def quoteOf (single : Bool) : Char :=
  if single then '\'' else '"'

/-- Between quotes these characters stand for one character. -/
structure StandsForChar (single : Bool) (written : List Char) (c : Char) : Prop where
  ne_nil : written ≠ []
  startsInk : StartsInk written
  read (fuel : ℕ) (text rest : List Char) (line column index : ℕ) :
    readQuotedRun? single (fuel + 1) text ⟨written ++ rest, line, column, index⟩ =
      readQuotedRun? single fuel (c :: text)
        ⟨rest, line, column + written.length, index + written.length⟩

section Runs

variable {single : Bool} {write : Char → List Char} {ink text rest : List Char}
variable {fuel line column index : ℕ}

theorem readQuotedRun?_blank (h : startsBlank rest = true) :
    readQuotedRun? single (fuel + 1) text ⟨rest, line, column, index⟩ =
      some (text, ⟨rest, line, column, index⟩, false) := by
  unfold readQuotedRun?
  rw [if_pos h]

theorem readQuotedRun?_quote (h : rest.head? ≠ some '\'') :
    readQuotedRun? single (fuel + 1) text ⟨quoteOf single :: rest, line, column, index⟩ =
      some (text, ⟨quoteOf single :: rest, line, column, index⟩, false) := by
  cases single with
  | false => rfl
  | true =>
      unfold readQuotedRun?
      rw [if_neg (by simp [quoteOf, startsBlank, isBlank, isBreak])]
      cases rest with
      | nil => rfl
      | cons c rest =>
          have hc : c ≠ '\'' := by simpa using h
          simp [quoteOf, hc]

/-- A run is read up to whatever stops it. -/
theorem readQuotedRun?_run (hink : ∀ c ∈ ink, StandsForChar single (write c) c)
    (hstop : ∀ fuel text line column index,
      readQuotedRun? single (fuel + 1) text ⟨rest, line, column, index⟩ =
        some (text, ⟨rest, line, column, index⟩, false))
    (text : List Char) (line column index : ℕ) (hfuel : ink.length < fuel) :
    ∃ column' index', column ≤ column' ∧
      readQuotedRun? single fuel text ⟨ink.flatMap write ++ rest, line, column, index⟩ =
        some (ink.reverse ++ text, ⟨rest, line, column', index'⟩, false) := by
  induction ink generalizing fuel text column index with
  | nil =>
      obtain ⟨fuel, rfl⟩ := Nat.exists_eq_add_of_lt hfuel
      exact ⟨column, index, Nat.le_refl column, hstop _ text line column index⟩
  | cons c ink ih =>
      obtain ⟨fuel, rfl⟩ := Nat.exists_eq_add_of_lt hfuel
      have hc := hink c List.mem_cons_self
      have hless : ink.length < (c :: ink).length + fuel := by
        rw [List.length_cons]
        omega
      obtain ⟨column', index', hle, hread⟩ := ih (fun b hb => hink b (List.mem_cons_of_mem _ hb))
        (c :: text) (column + (write c).length) (index + (write c).length) hless
      refine ⟨column', index', by omega, ?_⟩
      rw [List.flatMap_cons, List.append_assoc, hc.read, hread, List.reverse_cons,
        List.append_assoc, List.singleton_append]

theorem length_le_flatMap (hink : ∀ c ∈ ink, StandsForChar single (write c) c) :
    ink.length ≤ (ink.flatMap write).length := by
  induction ink with
  | nil => simp
  | cons c ink ih =>
      have hpos := List.length_pos_iff.mpr (hink c List.mem_cons_self).ne_nil
      have hrest := ih fun b hb => hink b (List.mem_cons_of_mem _ hb)
      simp only [List.length_cons, List.flatMap_cons, List.length_append]
      omega

end Runs

/-! ## Scalars of several runs -/

/-- How a text is laid out between quotes: runs of characters, and between them spaces, or line
breaks and the indentation of the next line. -/
inductive Laid (single : Bool) (write : Char → List Char) (indent : ℕ) :
    List Char → List Char → Prop
  | run {ink : List Char} (hink : ∀ c ∈ ink, StandsForChar single (write c) c) :
      Laid single write indent ink (ink.flatMap write)
  | spaces {ink text written : List Char} {count : ℕ}
      (hink : ∀ c ∈ ink, StandsForChar single (write c) c) (hpos : 0 < count)
      (hstart : StartsInk written) (rest : Laid single write indent text written) :
      Laid single write indent (ink ++ (List.replicate count ' ' ++ text))
        (ink.flatMap write ++ (List.replicate count ' ' ++ written))
  | breaks {ink breaks text written : List Char} {c : Char}
      (hink : ∀ c ∈ ink, StandsForChar single (write c) c) (hc : IsShownBreak c) (hne : c ≠ '\n')
      (hbreaks : ∀ c ∈ breaks, IsShownBreak c) (hstart : StartsInk written)
      (rest : Laid single write indent text written) :
      Laid single write indent (ink ++ c :: (breaks ++ text))
        (ink.flatMap write ++ c :: (breaks ++ (List.replicate indent ' ' ++ written)))

section Laid

variable {single : Bool} {write : Char → List Char} {indent : ℕ} {text written suffix : List Char}

theorem startsInk_append_quote (h : StartsInk written) (suffix : List Char) :
    StartsInk (written ++ quoteOf single :: suffix) := by
  cases written with
  | nil => cases single <;> exact startsInk_cons.mpr ⟨rfl, rfl⟩
  | cons c written => exact startsInk_cons.mpr (startsInk_cons.mp h)

/-- What is read after a run that a gap follows. -/
theorem readQuoted?_gap {ink rest : List Char} {fuel column : ℕ}
    (hink : ∀ c ∈ ink, StandsForChar single (write c) c) (hblank : startsBlank rest = true)
    (hne : rest ≠ []) (hcolumn : 0 < column) (before : List Char) (line index : ℕ) :
    ∃ column' index', 0 < column' ∧
      readQuoted? single (fuel + 1) before
          ⟨ink.flatMap write ++ rest, line, column, index⟩ =
        (Gap.read? 0 (rest.length + 1) Gap.none ⟨rest, line, column', index'⟩).bind
          fun (gap, cursor) =>
            readQuoted? single fuel (gap.folded ++ (ink.reverse ++ before)) cursor := by
  have hless : ink.length < (ink.flatMap write ++ rest).length + 1 := by
    have hlength := length_le_flatMap hink
    rw [List.length_append]
    omega
  obtain ⟨column', index', hle, hrun⟩ := readQuotedRun?_run hink
    (fun _ _ _ _ _ => readQuotedRun?_blank hblank) before line column index hless
  refine ⟨column', index', by omega, ?_⟩
  obtain ⟨c, rest, rfl⟩ := List.exists_cons_of_ne_nil hne
  have hquote : c ≠ quoteOf single := by
    rintro rfl
    revert hblank
    cases single <;> simp [quoteOf, startsBlank, isBlank, isBreak]
  have hstarts : (⟨c :: rest, line, column', index'⟩ : Cursor).startsWith
      (if single then '\'' else '"') = false := by
    simpa [Cursor.startsWith, Cursor.head?, quoteOf] using hquote
  rw [readQuoted?, if_neg (by simp [Cursor.atDocumentIndicator_eq_false hcolumn]), hrun]
  simp only [bind, Option.bind_some, hstarts, Bool.false_eq_true, if_false]
  rfl

/-- The last run ends at the quote. -/
theorem readQuoted?_end {ink : List Char} {fuel column : ℕ}
    (hink : ∀ c ∈ ink, StandsForChar single (write c) c) (hsuffix : suffix.head? ≠ some '\'')
    (hcolumn : 0 < column) (before : List Char) (line index : ℕ) :
    ∃ cursor, cursor.rest = suffix ∧
      readQuoted? single (fuel + 1) before
          ⟨ink.flatMap write ++ quoteOf single :: suffix, line, column, index⟩ =
        some (ink.reverse ++ before, cursor) := by
  have hless : ink.length < (ink.flatMap write ++ quoteOf single :: suffix).length + 1 := by
    have hlength := length_le_flatMap hink
    rw [List.length_append]
    omega
  obtain ⟨column', index', -, hrun⟩ := readQuotedRun?_run hink
    (fun _ _ _ _ _ => readQuotedRun?_quote hsuffix) before line column index hless
  refine ⟨⟨suffix, line, column' + 1, index' + 1⟩, rfl, ?_⟩
  rw [readQuoted?, if_neg (by simp [Cursor.atDocumentIndicator_eq_false hcolumn]), hrun]
  simp [Cursor.startsWith, Cursor.head?, quoteOf]

/-- Spaces after a run are kept. -/
theorem readQuoted?_spaces {ink rest : List Char} {fuel column count : ℕ}
    (hink : ∀ c ∈ ink, StandsForChar single (write c) c) (hpos : 0 < count) (hrest : StartsInk rest)
    (hcolumn : 0 < column) (before : List Char) (line index : ℕ) :
    ∃ column' index', 0 < column' ∧
      readQuoted? single (fuel + 1) before
          ⟨ink.flatMap write ++ (List.replicate count ' ' ++ rest), line, column, index⟩ =
        readQuoted? single fuel (List.replicate count ' ' ++ (ink.reverse ++ before))
          ⟨rest, line, column', index'⟩ := by
  have hne : List.replicate count ' ' ++ rest ≠ [] := by simp [Nat.ne_of_gt hpos]
  have hcount : count < (List.replicate count ' ' ++ rest).length + 1 := by
    simp only [List.length_append, List.length_replicate]
    omega
  obtain ⟨column', index', hcolumn', hgap⟩ :=
    readQuoted?_gap hink (startsBlank_replicate hpos rest) hne hcolumn before line index
  refine ⟨column' + count, index' + count, Nat.add_pos_left hcolumn' count, ?_⟩
  rw [hgap, Gap.none, Gap.read?_spaces count hrest hcount]
  simp [Gap.folded]

/-- Line breaks after a run are kept, and the next line is read from its first character that is
no space. -/
theorem readQuoted?_breaks {ink breaks rest : List Char} {c : Char} {fuel column : ℕ}
    (hink : ∀ c ∈ ink, StandsForChar single (write c) c) (hc : IsShownBreak c) (hne : c ≠ '\n')
    (hbreaks : ∀ c ∈ breaks, IsShownBreak c) (hrest : StartsInk rest) (hcolumn : 0 < column)
    (indent : ℕ) (before : List Char) (line index : ℕ) :
    ∃ line' index',
      readQuoted? single (fuel + 1) before
          ⟨ink.flatMap write ++ c :: (breaks ++ (List.replicate indent ' ' ++ rest)), line, column,
            index⟩ =
        readQuoted? single fuel ((c :: breaks).reverse ++ (ink.reverse ++ before))
          ⟨rest, line', indent, index'⟩ := by
  have hblank := startsBlank_of_isBreak hc.isBreak (breaks ++ (List.replicate indent ' ' ++ rest))
  obtain ⟨column', index', -, hgap⟩ :=
    readQuoted?_gap hink hblank (List.cons_ne_nil _ _) hcolumn before line index
  obtain ⟨line', index'', hbreak⟩ := Gap.read?_breaks 0 indent hc hbreaks hrest line column' index'
  refine ⟨line', index'', ?_⟩
  rw [hgap, hbreak]
  simp only [Option.bind_some, Gap.folded_of_ne hne]

/-- A text that is laid out between quotes is read back. -/
theorem readQuoted?_of_laid (hlaid : Laid single write indent text written) (hindent : 0 < indent)
    (hsuffix : suffix.head? ≠ some '\'') {fuel column : ℕ} (before : List Char) (line index : ℕ)
    (hfuel : written.length < fuel) (hcolumn : 0 < column) :
    ∃ cursor, cursor.rest = suffix ∧
      readQuoted? single fuel before
          ⟨written ++ quoteOf single :: suffix, line, column, index⟩ =
        some (text.reverse ++ before, cursor) := by
  -- The column stays positive, since further lines are indented: none of them ends the document.
  induction hlaid generalizing fuel before line column index with
  | @run ink hink =>
      obtain ⟨fuel, rfl⟩ := Nat.exists_eq_add_of_lt hfuel
      exact readQuoted?_end hink hsuffix hcolumn before line index
  | @spaces ink text written count hink hpos hstart rest ih =>
      obtain ⟨fuel, rfl⟩ := Nat.exists_eq_add_of_lt hfuel
      simp only [List.length_append, List.length_replicate, List.append_assoc]
      have hrest : StartsInk (written ++ quoteOf single :: suffix) :=
        startsInk_append_quote hstart suffix
      obtain ⟨column', index', hcolumn', hspaces⟩ :=
        readQuoted?_spaces hink hpos hrest hcolumn before line index
      have hless : written.length <
          (ink.flatMap write).length + (count + written.length) + fuel := by
        omega
      obtain ⟨cursor, hcursor, hread⟩ := ih (List.replicate count ' ' ++ (ink.reverse ++ before))
        line index' hless hcolumn'
      refine ⟨cursor, hcursor, hspaces.trans ?_⟩
      simpa using hread
  | @breaks ink breaks text written c hink hc hne hbreaks hstart rest ih =>
      obtain ⟨fuel, rfl⟩ := Nat.exists_eq_add_of_lt hfuel
      simp only [List.length_append, List.length_cons, List.length_replicate, List.append_assoc,
        List.cons_append]
      have hrest : StartsInk (written ++ quoteOf single :: suffix) :=
        startsInk_append_quote hstart suffix
      obtain ⟨line', index', hnext⟩ :=
        readQuoted?_breaks hink hc hne hbreaks hrest hcolumn indent before line index
      have hless : written.length <
          (ink.flatMap write).length + (breaks.length + (indent + written.length) + 1) + fuel := by
        omega
      obtain ⟨cursor, hcursor, hread⟩ := ih ((c :: breaks).reverse ++ (ink.reverse ++ before)) line'
        index' hless hindent
      refine ⟨cursor, hcursor, hnext.trans ?_⟩
      simpa using hread

end Laid

end Dashboard.Yaml
