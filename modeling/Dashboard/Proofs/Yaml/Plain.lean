import Dashboard.Proofs.Yaml.Quoting

/-! # Plain scalars

A text without indicators is read back from a line of its own: nothing in it ends the scalar
before the line break does, and the next line is indented too little to belong to it. -/

namespace Dashboard.Yaml

/-! ## Runs -/

section Runs

variable {run rest suffix text : List Char} {fuel line column index : ℕ}

theorem hasIndicator_of_append {a b : List Char} (h : hasIndicator (a ++ b) = false) :
    hasIndicator b = false := by
  induction a with
  | nil => exact h
  | cons x a ih =>
      apply ih
      cases hrest : a ++ b with
      | nil => rfl
      | cons y rest =>
          rw [List.cons_append, hrest, hasIndicator, Bool.or_eq_false_iff] at h
          exact h.2

theorem startsBlank_append (h : startsBlank suffix = true) (text : List Char) :
    startsBlank (text ++ suffix) = startsBlank text := by
  cases text with
  | nil => exact h
  | cons c text => rfl

theorem hasIndicator_of_append_blank {a b : List Char} (h : hasIndicator (a ++ b) = false)
    (hb : startsBlank b = true) : hasIndicator a = false := by
  induction a with
  | nil => rfl
  | cons x a ih =>
      cases a with
      | nil => rfl
      | cons y a =>
          rw [List.cons_append, List.cons_append, hasIndicator, startsBlank_append hb,
            Bool.or_eq_false_iff] at h
          rw [hasIndicator, h.1, ih h.2]
          rfl

/-- A run is read up to the first place where a plain scalar may end. -/
theorem readPlainRun?_run
    (hrun : ∀ c tail, c :: tail <:+ run → endsPlain false (c :: (tail ++ rest)) = false)
    (hend : endsPlain false rest = true) (text : List Char) (line column index : ℕ)
    (hfuel : run.length < fuel) :
    readPlainRun? false fuel text ⟨run ++ rest, line, column, index⟩ =
      some (run.reverse ++ text, ⟨rest, line, column + run.length, index + run.length⟩) := by
  induction run generalizing fuel text column index with
  | nil =>
      obtain ⟨fuel, rfl⟩ := Nat.exists_eq_add_of_lt hfuel
      cases rest with
      | nil => rfl
      | cons c rest => simp [readPlainRun?, hend]
  | cons c run ih =>
      obtain ⟨fuel, rfl⟩ := Nat.exists_eq_add_of_lt hfuel
      have hc := hrun c run List.suffix_rfl
      have hless : run.length < (c :: run).length + fuel := by
        rw [List.length_cons]
        omega
      have hread := ih (fun b tail htail => hrun b tail (htail.trans (List.suffix_cons c run)))
        (c :: text) (column + 1) (index + 1) hless
      rw [List.cons_append, readPlainRun?]
      simp only [Bool.false_and, Bool.false_eq_true, if_false, hc, Cursor.skip_one, hread]
      simp [Nat.add_assoc, Nat.add_comm 1]

/-- A colon within a text without indicators does not end it. -/
theorem endsPlain_eq_false {before c : Char} {a tail : List Char} (hc : IsInk c)
    (hindicator : hasIndicator (before :: (a ++ c :: tail)) = false)
    (hsuffix : startsBlank suffix = true) :
    endsPlain false (c :: (tail ++ suffix)) = false := by
  obtain ⟨front, x, hfront⟩ : ∃ front x, before :: a = front ++ [x] :=
    ⟨_, _, (List.dropLast_concat_getLast (List.cons_ne_nil before a)).symm⟩
  rw [← List.cons_append, hfront, List.append_assoc, List.singleton_append] at hindicator
  have hpair := hasIndicator_of_append hindicator
  rw [hasIndicator] at hpair
  simp only [Bool.or_eq_false_iff] at hpair
  simp [endsPlain, hc.isBlank, hc.isBreak, startsBlank_append hsuffix, hpair.1.1]

end Runs

/-! ## Texts -/

/-- A text that a plain scalar can hold on one line, after a given character. -/
structure IsPlainAfter (before : Char) (text : List Char) : Prop where
  ne_nil : text ≠ []
  chars : ∀ c ∈ text, c = ' ' ∨ IsInk c
  noIndicator : hasIndicator (before :: text) = false
  noHash : text.head? ≠ some '#'
  noFirstSpace : text.head? ≠ some ' '
  noLastSpace : text.getLast? ≠ some ' '

section Texts

variable {before : Char} {run rest more : List Char}

theorem IsPlainAfter.startsInk (h : IsPlainAfter before rest) : StartsInk rest := by
  intro c hc
  refine (h.chars c (List.mem_of_head? hc)).resolve_left ?_
  rintro rfl
  exact h.noFirstSpace hc

/-- The first run of a text is not empty. -/
theorem IsPlainAfter.exists_run (h : IsPlainAfter before rest) :
    ∃ c run more count, rest = c :: run ++ (List.replicate count ' ' ++ more) ∧
      (∀ b ∈ c :: run, IsInk b) ∧ more.head? ≠ some ' ' ∧ (count = 0 → more = []) := by
  obtain ⟨run, tail, rfl, hrun, htail⟩ := Yaml.exists_run (· != ' ') rest
  obtain ⟨count, more, rfl, hmore⟩ := exists_spaces tail
  have hcount : count = 0 → more = [] := by
    rintro rfl
    cases more with
    | nil => rfl
    | cons c more => exact absurd (htail c rfl) (by simpa using hmore c rfl)
  cases run with
  | nil =>
      refine absurd h.noFirstSpace (not_not.mpr ?_)
      cases count with
      | zero => exact absurd (hcount rfl) h.ne_nil
      | succ count => rfl
  | cons c run =>
      refine ⟨c, run, more, count, rfl, ?_, fun hc => hmore _ hc rfl, hcount⟩
      intro b hb
      exact (h.chars b (List.mem_append_left _ hb)).resolve_left (by simpa using hrun b hb)

/-- Nothing in the first run ends the scalar, whatever blank comes after it. -/
theorem IsPlainAfter.endsPlain_run (h : IsPlainAfter before (run ++ rest))
    (hrest : startsBlank rest = true) (hink : ∀ b ∈ run, IsInk b) :
    ∀ c tail, c :: tail <:+ run → ∀ suffix, startsBlank suffix = true →
      endsPlain false (c :: (tail ++ suffix)) = false := by
  rintro c tail ⟨front, rfl⟩ suffix hsuffix
  have hindicator := h.noIndicator
  rw [← List.cons_append] at hindicator
  have hrun := hasIndicator_of_append_blank hindicator hrest
  exact endsPlain_eq_false (hink c (by simp)) hrun hsuffix

/-- What follows spaces is such a text after a space. -/
theorem IsPlainAfter.after_spaces {count : ℕ}
    (h : IsPlainAfter before (run ++ (List.replicate (count + 1) ' ' ++ more)))
    (hmore : more.head? ≠ some ' ') : IsPlainAfter ' ' more := by
  have hindicator : hasIndicator (' ' :: more) = false := by
    apply hasIndicator_of_append (a := before :: (run ++ List.replicate count ' '))
    simpa [List.replicate_succ'] using h.noIndicator
  refine ⟨?_, ?_, hindicator, ?_, hmore, ?_⟩
  · rintro rfl
    refine h.noLastSpace ?_
    rw [List.append_nil, List.getLast?_append, List.getLast?_replicate, if_neg (by omega)]
    rfl
  · exact fun c hc => h.chars c (List.mem_append_right run (List.mem_append_right _ hc))
  · intro hhash
    obtain ⟨rest, rfl⟩ := List.head?_eq_some_iff.mp hhash
    simp [hasIndicator, isBlank] at hindicator
  · intro hlast
    exact h.noLastSpace (by simp [List.getLast?_append, hlast])

end Texts

/-! ## Lines -/

section Lines

variable {text tail : List Char} {next indent : ℕ}

/-- What is read after a run that a gap follows. -/
theorem readPlain?_gap {run rest read : List Char} {fuel line column index : ℕ} {gap : Gap}
    (hrun : ∀ c tail, c :: tail <:+ run → endsPlain false (c :: (tail ++ rest)) = false)
    (hne : run ≠ []) (hhash : run.head? ≠ some '#') (hblank : startsBlank rest = true)
    (hrest : rest ≠ []) (hcolumn : 0 < column) :
    readPlain? false indent (fuel + 1) read gap ⟨run ++ rest, line, column, index⟩ =
      (Gap.read? indent (rest.length + 1) Gap.none
          ⟨rest, line, column + run.length, index + run.length⟩).bind fun (found, next) =>
        if next.column < indent then
          some (run.reverse ++ gap.folded ++ read, next, found.isLineEnd)
        else readPlain? false indent fuel (run.reverse ++ gap.folded ++ read) found next := by
  obtain ⟨c, rest, rfl⟩ := List.exists_cons_of_ne_nil hrest
  have hend : endsPlain false (c :: rest) = true := by
    simp only [startsBlank] at hblank
    simp [endsPlain, hblank]
  have hgap : ((⟨c :: rest, line, column + run.length, index + run.length⟩ : Cursor).atBlank ||
      (⟨c :: rest, line, column + run.length, index + run.length⟩ : Cursor).atBreak) = true :=
    hblank
  have hless : run.length < (run ++ c :: rest).length + 1 := by
    simp only [List.length_append, List.length_cons]
    omega
  have hread := readPlainRun?_run hrun hend [] line column index hless
  have hstarts : (⟨run ++ c :: rest, line, column, index⟩ : Cursor).startsWith '#' = false := by
    obtain ⟨first, run, rfl⟩ := List.exists_cons_of_ne_nil hne
    simpa [Cursor.startsWith, Cursor.head?] using hhash
  rw [readPlain?, Cursor.atDocumentIndicator_eq_false hcolumn, hstarts, hread]
  simp only [Bool.or_false, Bool.false_eq_true, if_false, bind, Option.bind_some, List.append_nil,
    List.isEmpty_iff, List.reverse_eq_nil_iff, hne, hgap, if_true, Bool.not_false, Bool.true_and,
    decide_eq_true_eq]

/-- After the last run the line ends, and the next one is indented too little to belong to it. -/
theorem readPlain?_break {run read : List Char} {fuel column : ℕ} {gap : Gap}
    (hrun : ∀ c tail, c :: tail <:+ run → ∀ rest, startsBlank rest = true →
      endsPlain false (c :: (tail ++ rest)) = false)
    (hne : run ≠ []) (hhash : run.head? ≠ some '#') (htail : StartsInk tail) (hnext : next < indent)
    (hcolumn : 0 < column) (line index : ℕ) :
    ∃ line' index', readPlain? false indent (fuel + 1) read gap
        ⟨run ++ '\n' :: (List.replicate next ' ' ++ tail), line, column, index⟩ =
      some (run.reverse ++ (gap.folded ++ read), ⟨tail, line', next, index'⟩, true) := by
  have hfeed : IsShownBreak '\n' := ⟨rfl, rfl⟩
  have hblank := startsBlank_of_isBreak hfeed.isBreak (List.replicate next ' ' ++ tail)
  have hnone : ∀ b ∈ ([] : List Char), IsShownBreak b := by simp
  obtain ⟨line', index', hbreak⟩ := Gap.read?_breaks indent next hfeed hnone htail line
    (column + run.length) (index + run.length)
  refine ⟨line', index', ?_⟩
  rw [List.nil_append] at hbreak
  rw [readPlain?_gap (fun c tail htail => hrun c tail htail _ hblank) hne hhash hblank
    (List.cons_ne_nil _ _) hcolumn, hbreak]
  simp [hnext]

/-- Spaces between two runs of a line are kept for the next run. -/
theorem readPlain?_spaces {run rest read : List Char} {fuel line column index count : ℕ} {gap : Gap}
    (hrun : ∀ c tail, c :: tail <:+ run → ∀ rest, startsBlank rest = true →
      endsPlain false (c :: (tail ++ rest)) = false)
    (hne : run ≠ []) (hhash : run.head? ≠ some '#') (hpos : 0 < count) (hrest : StartsInk rest)
    (hcolumn : 0 < column) (hindent : indent ≤ column) :
    readPlain? false indent (fuel + 1) read gap
        ⟨run ++ (List.replicate count ' ' ++ rest), line, column, index⟩ =
      readPlain? false indent fuel (run.reverse ++ (gap.folded ++ read))
        ⟨List.replicate count ' ', [], [], false⟩
        ⟨rest, line, column + run.length + count, index + run.length + count⟩ := by
  have hblank := startsBlank_replicate hpos rest
  have hspaces : List.replicate count ' ' ++ rest ≠ [] := by
    simp [Nat.ne_of_gt hpos]
  have hless : count < (List.replicate count ' ' ++ rest).length + 1 := by
    simp only [List.length_append, List.length_replicate]
    omega
  have hnot : ¬ column + run.length + count < indent := by omega
  rw [readPlain?_gap (fun c tail htail => hrun c tail htail _ hblank) hne hhash hblank hspaces
    hcolumn, Gap.none, Gap.read?_spaces count hrest hless]
  simp only [Option.bind_some, hnot, if_false, List.append_nil, List.append_assoc]

/-- A text is read to the end of its line, the spaces in it too. -/
theorem readPlain?_line {before : Char} (h : IsPlainAfter before text) (htail : StartsInk tail)
    (hnext : next < indent) {fuel column : ℕ} (gap : Gap) (read : List Char) (line index : ℕ)
    (hfuel : text.length < fuel) (hcolumn : indent ≤ column) :
    ∃ line' index', readPlain? false indent fuel read gap
        ⟨text ++ '\n' :: (List.replicate next ' ' ++ tail), line, column, index⟩ =
      some (text.reverse ++ (gap.folded ++ read), ⟨tail, line', next, index'⟩, true) := by
  -- The induction goes run by run: what follows a run and its spaces is again such a text.
  induction hlength : text.length using Nat.strong_induction_on
    generalizing text before gap read fuel column index with
  | h n ih =>
    obtain ⟨fuel, rfl⟩ := Nat.exists_eq_add_of_lt hfuel
    obtain ⟨c, run, more, count, rfl, hink, hmore, hcount⟩ := h.exists_run
    have hhash : (c :: run).head? ≠ some '#' := by simpa using h.noHash
    have hpos : 0 < column := by omega
    cases count with
    | zero =>
        obtain rfl := hcount rfl
        have hrun := h.endsPlain_run rfl hink
        rw [List.replicate_zero, List.nil_append, List.append_nil]
        exact readPlain?_break hrun (List.cons_ne_nil c run) hhash htail hnext hpos line index
    | succ count =>
        have hspaces := Nat.succ_pos count
        have hrun := h.endsPlain_run (startsBlank_replicate hspaces more) hink
        have hrest := h.after_spaces hmore
        have hstart : StartsInk (more ++ '\n' :: (List.replicate next ' ' ++ tail)) := by
          obtain ⟨b, more, rfl⟩ := List.exists_cons_of_ne_nil hrest.ne_nil
          exact startsInk_cons.mpr (startsInk_cons.mp hrest.startsInk)
        have hshorter : more.length < n := by
          simp only [List.length_append, List.length_cons] at hlength
          omega
        have hless : more.length <
            (c :: run ++ (List.replicate (count + 1) ' ' ++ more)).length + fuel := by
          omega
        have hcolumn' : indent ≤ column + (c :: run).length + (count + 1) := by omega
        obtain ⟨line', index', hread⟩ := ih more.length hshorter hrest
          ⟨List.replicate (count + 1) ' ', [], [], false⟩
          ((c :: run).reverse ++ (gap.folded ++ read))
          (index + (c :: run).length + (count + 1)) hless hcolumn' rfl
        refine ⟨line', index', ?_⟩
        rw [List.append_assoc, List.append_assoc,
          readPlain?_spaces hrun (List.cons_ne_nil c run) hhash hspaces hstart hpos hcolumn, hread]
        simp [Gap.folded]

end Lines

end Dashboard.Yaml
