import Dashboard.Proofs.Yaml.Plain

/-! # Literal scalars

The lines of a literal are indented alike, so exactly the indentation is taken away from each.
The header says what becomes of the breaks at the end, and gives the indentation if the first
line does not show it. -/

namespace Dashboard.Yaml

/-! ## Indentation -/

section Indentation

variable {rest tail breaks : List Char} {indent fuel longest line index : ℕ}

theorem length_takeWhile_spaces (count : ℕ) (rest : List Char) :
    ((List.replicate count ' ' ++ rest).takeWhile (· == ' ')).length =
      count + (rest.takeWhile (· == ' ')).length := by
  rw [List.takeWhile_append_of_pos (by simp)]
  simp

/-- A line that is not empty is read after its indentation. -/
theorem readBlockBreaks?_line {c : Char} (hindent : 0 < indent) (hc : isBreak c = false) :
    readBlockBreaks? indent (fuel + 1) longest breaks
        ⟨List.replicate indent ' ' ++ c :: rest, line, 0, index⟩ =
      some (max longest indent, breaks, ⟨c :: rest, line, indent, index + indent⟩) := by
  have hskip (more : ℕ) : (if indent = 0 then indent + more else min (indent + more) (indent - 0)) =
      indent := by
    rw [if_neg (by omega)]
    omega
  rw [readBlockBreaks?, length_takeWhile_spaces, hskip, Cursor.skip_spaces]
  simp [Cursor.atBreak, Cursor.head?, hc]
  omega

/-- Where the indentation is not settled, the spaces before the first character are it. -/
theorem readBlockBreaks?_first {c : Char} (hc : IsInk c) :
    readBlockBreaks? 0 (fuel + 1) longest breaks
        ⟨List.replicate indent ' ' ++ c :: rest, line, 0, index⟩ =
      some (max longest indent, breaks, ⟨c :: rest, line, indent, index + indent⟩) := by
  rw [readBlockBreaks?, length_takeWhile_spaces,
    List.takeWhile_cons_of_neg (by simpa using hc.ne_space), List.length_nil, Nat.add_zero,
    if_pos rfl, Cursor.skip_spaces]
  simp [Cursor.atBreak, Cursor.startsWith, Cursor.head?, hc.isBreak, hc.ne_tab]

/-- A line that is indented less ends the scalar. -/
theorem readBlockBreaks?_end {next : ℕ} (htail : StartsInk tail) (hnext : next < indent) :
    readBlockBreaks? indent (fuel + 1) longest breaks
        ⟨List.replicate next ' ' ++ tail, line, 0, index⟩ =
      some (max longest next, breaks, ⟨tail, line, next, index + next⟩) := by
  have hspaces : (tail.takeWhile (· == ' ')).length = 0 := by
    cases tail with
    | nil => rfl
    | cons c tail => simp [(startsInk_cons.mp htail).ne_space]
  have hskip : (if indent = 0 then next + 0 else min (next + 0) (indent - 0)) = next := by
    rw [if_neg (by omega)]
    omega
  rw [readBlockBreaks?, length_takeWhile_spaces, hspaces, hskip, Cursor.skip_spaces]
  cases tail with
  | nil => simp [Cursor.atBreak, Cursor.startsWith, Cursor.head?]
  | cons c tail =>
      have hc := startsInk_cons.mp htail
      simp [Cursor.atBreak, Cursor.startsWith, Cursor.head?, hc.isBreak, hc.ne_tab]

theorem readBlockBreaks?_break {c : Char} (hc : IsShownBreak c) :
    readBlockBreaks? indent (fuel + 1) longest breaks ⟨c :: rest, line, 0, index⟩ =
      readBlockBreaks? indent fuel longest (c :: breaks) ⟨rest, line + 1, 0, index + 1⟩ := by
  have hblank := isBlank_eq_false_of_isBreak hc.isBreak
  obtain ⟨hspace, htab⟩ : c ≠ ' ' ∧ c ≠ '\t' := by simpa [isBlank] using hblank
  have hskip : (⟨c :: rest, line, 0, index⟩ : Cursor).skip 0 = ⟨c :: rest, line, 0, index⟩ := rfl
  rw [readBlockBreaks?, List.takeWhile_cons_of_neg (by simpa using hspace), List.length_nil,
    Nat.zero_min, ite_self, hskip]
  simp [Cursor.atBreak, Cursor.startsWith, Cursor.head?, hc.isBreak, htab,
    Cursor.breakText_of_isShownBreak hc, Cursor.skipBreak_of_isShownBreak hc]

theorem readBlockBreaks?_breaks {run : List Char} (h : ∀ c ∈ run, IsShownBreak c) :
    readBlockBreaks? indent (fuel + run.length) longest breaks ⟨run ++ rest, line, 0, index⟩ =
      readBlockBreaks? indent fuel longest (run.reverse ++ breaks)
        ⟨rest, line + run.length, 0, index + run.length⟩ := by
  induction run generalizing breaks line index with
  | nil => rfl
  | cons c run ih =>
      rw [List.cons_append, List.length_cons, ← Nat.add_assoc,
        readBlockBreaks?_break (h c List.mem_cons_self),
        ih fun b hb => h b (List.mem_cons_of_mem _ hb)]
      simp [Nat.add_assoc, Nat.add_comm 1]

end Indentation

/-! ## Lines -/

/-- How the lines of a literal are laid out after the indentation of the first one. The text is
split before the breaks at its end, of which there is one at least. -/
inductive Filled (indent : ℕ) : List Char → Char → List Char → List Char → Prop
  | last {line breaks : List Char} {c : Char} (hne : line ≠ [])
      (hline : ∀ b ∈ line, isBreak b = false) (hc : IsShownBreak c)
      (hbreaks : ∀ b ∈ breaks, IsShownBreak b) :
      Filled indent line c breaks (line ++ c :: breaks)
  | line {line breaks body final written : List Char} {c d : Char} (hne : line ≠ [])
      (hline : ∀ b ∈ line, isBreak b = false) (hc : IsShownBreak c)
      (hbreaks : ∀ b ∈ breaks, IsShownBreak b) (rest : Filled indent body d final written) :
      Filled indent (line ++ c :: (breaks ++ body)) d final
        (line ++ c :: (breaks ++ (List.replicate indent ' ' ++ written)))

section Lines

variable {indent : ℕ} {body final written : List Char} {c : Char}

theorem Filled.exists_cons (h : Filled indent body c final written) :
    ∃ first, isBreak first = false ∧ (∃ rest, body = first :: rest) ∧
      ∃ rest, written = first :: rest := by
  cases h with
  | last hne hline | line hne hline =>
      obtain ⟨first, line, rfl⟩ := List.exists_cons_of_ne_nil hne
      exact ⟨first, hline first List.mem_cons_self, ⟨_, rfl⟩, _, rfl⟩

/-- Reading one line goes on after the breaks that follow it. -/
theorem readBlockLines?_line {line rest text lineBreak breaks : List Char} {afterBlank : Bool}
    {fuel row index : ℕ} (hne : line ≠ []) (hline : ∀ b ∈ line, isBreak b = false)
    (hc : IsShownBreak c) :
    readBlockLines? false indent (fuel + 1) text lineBreak breaks afterBlank
        ⟨line ++ c :: rest, row, indent, index⟩ =
      (readBlockBreaks? indent (rest.length + 1) 0 []
          ⟨rest, row + 1, 0, index + line.length + 1⟩).bind fun (_, found, cursor) =>
        readBlockLines? false indent fuel (line.reverse ++ (breaks ++ (lineBreak ++ text))) [c]
          found (⟨line ++ c :: rest, row, indent, index⟩ : Cursor).atBlank cursor := by
  have htake : (line ++ c :: rest).takeWhile (fun c => !isBreak c) = line := by
    rw [List.takeWhile_append_of_pos (by simpa using hline),
      List.takeWhile_cons_of_neg (by simp [hc.isBreak]), List.append_nil]
  have hbreak (column index : ℕ) : (⟨c :: rest, row, column, index⟩ : Cursor).atBreak = true := by
    simp [Cursor.atBreak, Cursor.head?, hc.isBreak]
  rw [readBlockLines?, if_pos (by simp [hne])]
  simp only [Bool.false_eq_true, false_and, if_false, htake, Cursor.skip_append,
    Cursor.breakText_of_isShownBreak hc, hbreak, if_true, Cursor.skipBreak_of_isShownBreak hc]
  cases readBlockBreaks? indent (rest.length + 1) 0 []
    ⟨rest, row + 1, 0, index + line.length + 1⟩ <;> rfl

theorem readBlockLines?_end {tail text lineBreak breaks : List Char} {afterBlank : Bool}
    {fuel next row index : ℕ} (hnext : next < indent) :
    readBlockLines? false indent (fuel + 1) text lineBreak breaks afterBlank
        ⟨tail, row, next, index⟩ =
      some (text, lineBreak, breaks, ⟨tail, row, next, index⟩) := by
  rw [readBlockLines?, if_neg]
  exact fun h => Nat.ne_of_lt hnext h.1

/-- A line that another one follows is read with the breaks after it. -/
theorem readBlockLines?_next {line more : List Char} {first : Char} (hne : line ≠ [])
    (hline : ∀ b ∈ line, isBreak b = false) (hc : IsShownBreak c)
    (hmore : ∀ b ∈ more, IsShownBreak b) (hindent : 0 < indent) (hfirst : isBreak first = false)
    (text lineBreak breaks rest : List Char) (afterBlank : Bool) (fuel row index : ℕ) :
    ∃ found row' index', readBlockLines? false indent (fuel + 1) text lineBreak breaks afterBlank
        ⟨line ++ c :: (more ++ (List.replicate indent ' ' ++ first :: rest)), row, indent, index⟩ =
      readBlockLines? false indent fuel (line.reverse ++ (breaks ++ (lineBreak ++ text))) [c]
        more.reverse found ⟨first :: rest, row', indent, index'⟩ := by
  have hlength : (more ++ (List.replicate indent ' ' ++ first :: rest)).length + 1 =
      indent + rest.length + 1 + 1 + more.length := by
    simp only [List.length_append, List.length_cons, List.length_replicate]
    omega
  refine ⟨(⟨line ++ c :: (more ++ (List.replicate indent ' ' ++ first :: rest)), row, indent,
    index⟩ : Cursor).atBlank, row + 1 + more.length,
    index + line.length + 1 + more.length + indent, ?_⟩
  rw [readBlockLines?_line hne hline hc, hlength, readBlockBreaks?_breaks hmore,
    readBlockBreaks?_line hindent hfirst, Option.bind_some, List.append_nil]

/-- The breaks after the last line are kept apart, and the line after them is indented less. -/
theorem readBlockLines?_last {line more tail text lineBreak breaks : List Char} {afterBlank : Bool}
    {fuel next row index : ℕ} (hne : line ≠ []) (hline : ∀ b ∈ line, isBreak b = false)
    (hc : IsShownBreak c) (hmore : ∀ b ∈ more, IsShownBreak b) (htail : StartsInk tail)
    (hnext : next < indent) :
    ∃ row' index', readBlockLines? false indent (fuel + 2) text lineBreak breaks afterBlank
        ⟨line ++ c :: (more ++ (List.replicate next ' ' ++ tail)), row, indent, index⟩ =
      some (line.reverse ++ (breaks ++ (lineBreak ++ text)), [c], more.reverse,
        ⟨tail, row', next, index'⟩) := by
  have hlength : (more ++ (List.replicate next ' ' ++ tail)).length + 1 =
      next + tail.length + 1 + more.length := by
    simp only [List.length_append, List.length_replicate]
    omega
  refine ⟨row + 1 + more.length, index + line.length + 1 + more.length + next, ?_⟩
  rw [readBlockLines?_line hne hline hc, hlength, readBlockBreaks?_breaks hmore,
    readBlockBreaks?_end htail hnext, Option.bind_some, List.append_nil]
  exact readBlockLines?_end hnext

/-- The lines are read to the end of the scalar, where the next line is indented less. The breaks
at the end are kept apart. -/
theorem readBlockLines?_filled (h : Filled indent body c final written) {tail : List Char}
    {next : ℕ} (htail : StartsInk tail) (hnext : next < indent)
    (text lineBreak breaks : List Char) (afterBlank : Bool) (row index : ℕ) {fuel : ℕ}
    (hfuel : written.length < fuel) :
    ∃ row' index', readBlockLines? false indent fuel text lineBreak breaks afterBlank
        ⟨written ++ (List.replicate next ' ' ++ tail), row, indent, index⟩ =
      some (body.reverse ++ (breaks ++ (lineBreak ++ text)), [c], final.reverse,
        ⟨tail, row', next, index'⟩) := by
  induction h generalizing text lineBreak breaks afterBlank fuel row index with
  | @last line more c hne hline hc hmore =>
      obtain ⟨fuel, rfl⟩ : ∃ less, fuel = less + 2 :=
        ⟨fuel - 2, by simp only [List.length_append, List.length_cons] at hfuel; omega⟩
      rw [List.append_assoc, List.cons_append]
      exact readBlockLines?_last hne hline hc hmore htail hnext
  | @line line more body final written c d hne hline hc hmore rest ih =>
      obtain ⟨fuel, rfl⟩ : ∃ less, fuel = less + 1 := ⟨fuel - 1, by omega⟩
      have hless : written.length < fuel := by
        simp only [List.length_append, List.length_cons] at hfuel
        omega
      obtain ⟨first, hfirst, -, tail', rfl⟩ := rest.exists_cons
      simp only [List.append_assoc, List.cons_append]
      obtain ⟨found, row', index', hnextLine⟩ := readBlockLines?_next hne hline hc hmore
        (Nat.zero_lt_of_lt hnext) hfirst text lineBreak breaks
        (tail' ++ (List.replicate next ' ' ++ tail)) afterBlank fuel row index
      obtain ⟨row'', index'', hread⟩ := ih (line.reverse ++ (breaks ++ (lineBreak ++ text))) [c]
        more.reverse found row' index' hless
      refine ⟨row'', index'', ?_⟩
      rw [hnextLine]
      simpa using hread

end Lines

/-! ## Layouts -/

section Layouts

variable {indent : ℕ} {text body final written : List Char} {c : Char}

theorem Filled.exists_last (h : Filled indent body c final written) :
    ∃ front last, body = front ++ [last] ∧ isBreak last = false := by
  induction h with
  | @last line breaks c hne hline =>
      refine ⟨line.dropLast, line.getLast hne, (List.dropLast_concat_getLast hne).symm, ?_⟩
      exact hline _ (List.getLast_mem hne)
  | @line line breaks body final written c d hne hline hc hbreaks rest ih =>
      obtain ⟨front, last, rfl, hlast⟩ := ih
      exact ⟨line ++ c :: (breaks ++ front), last, by simp, hlast⟩

theorem Filled.isShownBreak (h : Filled indent body c final written) :
    ∀ b ∈ c :: final, IsShownBreak b := by
  induction h with
  | last hne hline hc hbreaks => exact List.forall_mem_cons.mpr ⟨hc, hbreaks⟩
  | line hne hline hc hbreaks rest ih => exact ih

/-- A text that ends with a break starts with a line and the breaks after it. -/
theorem exists_line (hwritable : ∀ c ∈ text, isWritable c = true) (hne : text ≠ [])
    (hfirst : ∀ c ∈ text.head?, isBreak c = false)
    (hlast : ∀ c ∈ text.getLast?, isBreak c = true) :
    ∃ line c breaks more, text = line ++ c :: (breaks ++ more) ∧ line ≠ [] ∧
      (∀ b ∈ line, isBreak b = false) ∧ (∀ b ∈ c :: breaks, IsShownBreak b) ∧
      ∀ b ∈ more.head?, isBreak b = false := by
  obtain ⟨line, rest, rfl, hline, hrest⟩ := exists_run (fun c => !isBreak c) text
  simp only [Bool.not_eq_true', Bool.not_eq_false'] at hline hrest
  have hlinene : line ≠ [] := by
    rintro rfl
    obtain ⟨c, rest, rfl⟩ := List.exists_cons_of_ne_nil hne
    exact absurd (hrest c rfl) (by simpa using hfirst c rfl)
  have hrestne : rest ≠ [] := by
    rintro rfl
    rw [List.append_nil] at hlast
    have hbreak := hlast _ (List.getLast?_eq_some_getLast hlinene)
    exact absurd hbreak (by simp [hline _ (List.getLast_mem hlinene)])
  obtain ⟨c, rest, rfl⟩ := List.exists_cons_of_ne_nil hrestne
  obtain ⟨breaks, more, rfl, hbreaks, hmore⟩ := exists_run isBreak rest
  have hall : ∀ b ∈ c :: breaks, isBreak b = true :=
    List.forall_mem_cons.mpr ⟨hrest c rfl, hbreaks⟩
  refine ⟨line, c, breaks, more, rfl, hlinene, hline, fun b hb => ⟨hall b hb, ?_⟩, hmore⟩
  rw [← List.cons_append] at hwritable
  exact hwritable b (List.mem_append_right line (List.mem_append_left more hb))

/-- Lines that end with a break are laid out one by one. -/
theorem exists_filled (indent : ℕ) (hwritable : ∀ c ∈ text, isWritable c = true) (hne : text ≠ [])
    (hfirst : ∀ c ∈ text.head?, isBreak c = false)
    (hlast : ∀ c ∈ text.getLast?, isBreak c = true) :
    ∃ body c final written, text = body ++ c :: final ∧ Filled indent body c final written ∧
      indentLines indent true text = List.replicate indent ' ' ++ written := by
  -- Behind a line and its breaks stands the end, or again a line.
  induction hlength : text.length using Nat.strong_induction_on generalizing text with
  | h n ih =>
    obtain ⟨line, c, breaks, more, rfl, hlinene, hline, hshown, hmore⟩ :=
      exists_line hwritable hne hfirst hlast
    have hc : IsShownBreak c := hshown c List.mem_cons_self
    have hbreaks : ∀ b ∈ breaks, IsShownBreak b := fun b hb => hshown b (List.mem_cons_of_mem c hb)
    have hlines : indentLines indent true (line ++ c :: (breaks ++ more)) =
        List.replicate indent ' ' ++
          (line ++ c :: (breaks ++ indentLines indent true more)) := by
      rw [indentLines_line hlinene hline,
        indentLines_breaks indent hc.isBreak fun b hb => (hbreaks b hb).isBreak]
    cases more with
    | nil =>
        refine ⟨line, c, breaks, line ++ c :: breaks, by simp, .last hlinene hline hc hbreaks, ?_⟩
        simpa [indentLines] using hlines
    | cons d more =>
        have hlast' : (line ++ c :: (breaks ++ d :: more)).getLast? = (d :: more).getLast? := by
          rw [← List.cons_append, ← List.append_assoc, List.getLast?_append, List.getLast?_cons,
            Option.some_or]
        have hshorter : (d :: more).length < n := by
          simp only [List.length_append, List.length_cons] at hlength ⊢
          omega
        obtain ⟨body, e, final, written, htext, hfilled, hwritten⟩ := ih (d :: more).length hshorter
          (fun b hb => hwritable b (by simp [List.mem_cons.mp hb]))
          (List.cons_ne_nil d more) hmore (by rwa [hlast'] at hlast) rfl
        refine ⟨line ++ c :: (breaks ++ body), e, final,
          line ++ c :: (breaks ++ (List.replicate indent ' ' ++ written)), by simp [htext],
          .line hlinene hline hc hbreaks hfilled, ?_⟩
        rw [hlines, hwritten]

end Layouts

end Dashboard.Yaml
