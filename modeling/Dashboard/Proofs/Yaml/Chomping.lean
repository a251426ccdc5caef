import Dashboard.Proofs.Yaml.Literal
import Mathlib.Tactic.IntervalCases

/-! # Headers of literal scalars

The header of a literal is read as it was written, and with it the breaks at the end are those of
the text: all of them, one, or none. -/

namespace Dashboard.Yaml

/-! ## Marks -/

/-- The mark of a chomping in a header. -/
def chompingMark : Chomping → List Char
  | .strip => ['-']
  | .clip => []
  | .keep => ['+']

/-- The mark of an explicit indentation; zero stands for none. -/
def incrementMark (increment : ℕ) : List Char :=
  if increment = 0 then [] else (toString increment).toList

/-- Chomping that keeps the breaks at the end of a text. -/
def chompingOf (text : List Char) : Chomping :=
  match text.reverse with
  | last :: before =>
    if !isBreak last then .strip
    else if before.isEmpty || before.head?.any isBreak then .keep
    else .clip
  | [] => .strip

/-- Indentation that a text needs in its header. -/
def incrementOf (step : ℕ) (text : List Char) : ℕ :=
  if text.head?.any fun c => c = ' ' || isBreak c then step else 0

section Headers

variable {text rest : List Char} {step increment row column index : ℕ}

theorem literalHeader_eq (hstep : 0 < step) (text : List Char) :
    literalHeader step text =
      '|' :: (incrementMark (incrementOf step text) ++ chompingMark (chompingOf text)) := by
  have hincrement : incrementMark (incrementOf step text) =
      if text.head?.any fun c => c = ' ' || isBreak c then (toString step).toList else [] := by
    rw [incrementOf]
    split
    · rw [incrementMark, if_neg (by omega)]
    · rfl
  rw [literalHeader, hincrement, chompingOf]
  cases text.reverse with
  | nil => simp [chompingMark]
  | cons last before =>
      have hmark : chompingMark (if !isBreak last then .strip
          else if before.isEmpty || before.head?.any isBreak then .keep else .clip) =
          if !isBreak last then ['-']
          else if before.isEmpty || before.head?.any isBreak then ['+'] else [] := by
        split
        · rfl
        · split <;> rfl
      dsimp only
      rw [hmark]
      rfl

theorem readBlockHeader?_marks (chomping : Chomping) (h : increment < 10) (rest : List Char)
    (row column index : ℕ) :
    ∃ column' index', readBlockHeader?
        ⟨incrementMark increment ++ (chompingMark chomping ++ '\n' :: rest), row, column, index⟩ =
      some (chomping, increment, ⟨'\n' :: rest, row, column', index'⟩) := by
  interval_cases increment <;> cases chomping <;> exact ⟨_, _, rfl⟩

end Headers

/-! ## Breaks at the end -/

/-- Breaks after the last line of a literal that a chomping keeps, last first. -/
def Chomping.kept (chomping : Chomping) (lineBreak breaks : List Char) : List Char :=
  match chomping with
  | .strip => []
  | .clip => lineBreak
  | .keep => breaks ++ lineBreak

/-- A text with a line break at its end, its own or another one. -/
def closed (text : List Char) : List Char :=
  text ++ if text.getLast?.any isBreak then [] else ['\n']

section Breaks

variable {text lead body final : List Char} {c : Char}

theorem isWritable_closed (h : ∀ c ∈ text, isWritable c = true) :
    ∀ c ∈ closed text, isWritable c = true := by
  intro c hc
  rcases List.mem_append.mp hc with hc | hc
  · exact h c hc
  · split at hc
    · exact absurd hc List.not_mem_nil
    · rw [List.mem_singleton.mp hc]
      rfl

theorem isBreak_getLast?_closed : ∀ c ∈ (closed text).getLast?, isBreak c = true := by
  intro c hc
  rw [closed] at hc
  split at hc
  · next hbreak =>
    rw [List.append_nil] at hc
    rwa [hc] at hbreak
  · rw [List.getLast?_append, List.getLast?_singleton, Option.some_or] at hc
    rw [← Option.some.inj hc]
    rfl

/-- Of the breaks at the end as many are kept as the text has. -/
theorem kept_chompingOf (h : closed text = lead ++ (body ++ c :: final))
    (hbody : ∃ front last, body = front ++ [last] ∧ isBreak last = false)
    (hfinal : ∀ b ∈ c :: final, isBreak b = true) :
    (chompingOf text).kept [c] final.reverse ++ (body.reverse ++ lead.reverse) = text.reverse := by
  obtain ⟨front, last, rfl, hlast⟩ := hbody
  have hreverse : (closed text).reverse =
      final.reverse ++ c :: last :: (front.reverse ++ lead.reverse) := by
    rw [h]
    simp
  have hfinal' (b) (hb : b ∈ c :: final.reverse) : isBreak b = true :=
    hfinal b (by simpa using hb)
  -- The break after the last line is the text's own, or the one that closes it.
  by_cases hbreak : text.getLast?.any isBreak = true
  · rw [closed, if_pos hbreak, List.append_nil] at hreverse
    rw [chompingOf, hreverse]
    cases hbreaks : final.reverse with
    | nil => simp [hfinal' c, hlast, Chomping.kept]
    | cons b breaks =>
        rw [hbreaks] at hfinal'
        have hnext : isBreak (breaks.head?.getD c) = true := by
          cases breaks with
          | nil => simp [hfinal' c]
          | cons d breaks => simp [hfinal' d]
        simp [hfinal' b, hnext, Chomping.kept]
  · rw [closed, if_neg hbreak, List.reverse_append, List.reverse_singleton,
      List.singleton_append] at hreverse
    cases hbreaks : final.reverse with
    | nil =>
        rw [hbreaks, List.nil_append] at hreverse
        have htext := (List.cons.inj hreverse).2
        rw [chompingOf, htext]
        simp [hlast, Chomping.kept]
    | cons b breaks =>
        rw [hbreaks] at hreverse hfinal'
        have htext := (List.cons.inj hreverse).2
        refine absurd ?_ hbreak
        rw [List.getLast?_eq_head?_reverse, htext]
        cases breaks with
        | nil => simp [hfinal' c]
        | cons d breaks => simp [hfinal' d]

end Breaks

/-! ## Blocks -/

/-- What is read of a literal after its header. -/
def readLines? (chomping : Chomping) (parent : ℤ) (given : ℕ) (cursor : Cursor) :
    Option (List Char × Cursor) := do
  let (longest, breaks, cursor) ← readBlockBreaks? given (cursor.rest.length + 1) 0 [] cursor
  let indent := if given = 0 then max longest (max (parent + 1) 1).toNat else given
  let (text, lineBreak, breaks, cursor) ←
    readBlockLines? false indent (cursor.rest.length + 1) [] [] breaks false cursor
  return (chomping.kept lineBreak breaks ++ text, cursor)

theorem readBlock?_marks (chomping : Chomping) {increment : ℕ} (h : increment < 10) (parent : ℤ)
    (rest : List Char) (row column index : ℕ) :
    ∃ index', readBlock? false parent
        ⟨incrementMark increment ++ (chompingMark chomping ++ '\n' :: rest), row, column, index⟩ =
      readLines? chomping parent (if increment = 0 then 0 else (max parent 0).toNat + increment)
        ⟨rest, row + 1, 0, index'⟩ := by
  obtain ⟨column', index', hheader⟩ := readBlockHeader?_marks chomping h rest row column index
  refine ⟨index' + 1, ?_⟩
  have hskip : (⟨'\n' :: rest, row, column', index'⟩ : Cursor).skipWhile isBlank =
      ⟨'\n' :: rest, row, column', index'⟩ := rfl
  have hcomment : (⟨'\n' :: rest, row, column', index'⟩ : Cursor).startsWith '#' = false := rfl
  rw [readBlock?, hheader]
  simp only [bind, Option.bind_some, hskip, hcomment]
  cases chomping <;> rfl

section Blocks

variable {text tail : List Char} {parent step next : ℕ}

/-- Lines whose indentation has been found are read to the end of the literal. -/
theorem readLines?_filled {indent given : ℕ} {body final written lead rest : List Char}
    {c : Char} (hfilled : Filled indent body c final written) (htail : StartsInk tail)
    (hnext : next < indent) (chomping : Chomping) (longest row row' index index' : ℕ)
    (hbreaks : readBlockBreaks? given (rest.length + 1) 0 [] ⟨rest, row, 0, index⟩ =
      some (longest, lead.reverse,
        ⟨written ++ (List.replicate next ' ' ++ tail), row', indent, index'⟩))
    (hindent : (if given = 0 then max longest (max ((parent : ℤ) + 1) 1).toNat else given) =
      indent) :
    ∃ row'' index'', readLines? chomping parent given ⟨rest, row, 0, index⟩ =
      some (chomping.kept [c] final.reverse ++ (body.reverse ++ lead.reverse),
        ⟨tail, row'', next, index''⟩) := by
  have hless : written.length < (written ++ (List.replicate next ' ' ++ tail)).length + 1 := by
    rw [List.length_append]
    omega
  obtain ⟨row'', index'', hlines⟩ :=
    readBlockLines?_filled hfilled htail hnext [] [] lead.reverse false row' index' hless
  refine ⟨row'', index'', ?_⟩
  rw [readLines?, hbreaks]
  simp only [bind, Option.bind_some, hindent, hlines]
  simp

/-- Where the indentation is given, lines are read after breaks of any number. -/
theorem readLines?_given {indent : ℕ} {body final written lead : List Char} {c : Char}
    (hlead : ∀ b ∈ lead, IsShownBreak b) (hfilled : Filled indent body c final written)
    (htail : StartsInk tail) (hnext : next < indent) (chomping : Chomping) (parent row index : ℕ) :
    ∃ row' index', readLines? chomping parent indent
        ⟨lead ++ (List.replicate indent ' ' ++ written) ++ (List.replicate next ' ' ++ tail),
          row, 0, index⟩ =
      some (chomping.kept [c] final.reverse ++ (body.reverse ++ lead.reverse),
        ⟨tail, row', next, index'⟩) := by
  obtain ⟨first, hfirst, -, more, rfl⟩ := hfilled.exists_cons
  refine readLines?_filled hfilled htail hnext chomping indent row (row + lead.length) index
    (index + lead.length + indent) ?_ (if_neg (by omega))
  have hlength : (lead ++ (List.replicate indent ' ' ++ first :: more) ++
        (List.replicate next ' ' ++ tail)).length + 1 =
      indent + more.length + next + tail.length + 1 + 1 + lead.length := by
    simp only [List.length_append, List.length_cons, List.length_replicate]
    omega
  rw [hlength, List.append_assoc, List.append_assoc, List.cons_append,
    readBlockBreaks?_breaks hlead, readBlockBreaks?_line (by omega) hfirst, Nat.zero_max,
    List.append_nil]

/-- Where it is not, the first line shows the indentation if it starts with ink. -/
theorem readLines?_shown {indent : ℕ} {body final written : List Char} {c : Char}
    (hfilled : Filled indent body c final written) (hink : StartsInk body)
    (htail : StartsInk tail) (hnext : next < indent) (chomping : Chomping)
    (hparent : parent < indent) (row index : ℕ) :
    ∃ row' index', readLines? chomping parent 0
        ⟨List.replicate indent ' ' ++ written ++ (List.replicate next ' ' ++ tail), row, 0, index⟩ =
      some (chomping.kept [c] final.reverse ++ (body.reverse ++ [].reverse),
        ⟨tail, row', next, index'⟩) := by
  obtain ⟨first, -, ⟨start, rfl⟩, more, rfl⟩ := hfilled.exists_cons
  have hindent : (if (0 : ℕ) = 0 then max indent (max ((parent : ℤ) + 1) 1).toNat else 0) =
      indent := by
    rw [if_pos rfl]
    omega
  refine readLines?_filled hfilled htail hnext chomping indent row row index (index + indent) ?_
    hindent
  rw [List.append_assoc, List.cons_append, readBlockBreaks?_first (startsInk_cons.mp hink),
    Nat.zero_max, List.reverse_nil]

/-- Breaks alone are all kept. -/
theorem readLines?_breaks {indent : ℕ} {lead : List Char} (hlead : ∀ b ∈ lead, IsShownBreak b)
    (htail : StartsInk tail) (hnext : next < indent) (parent : ℤ) (row index : ℕ) :
    ∃ row' index', readLines? .keep parent indent
        ⟨lead ++ (List.replicate next ' ' ++ tail), row, 0, index⟩ =
      some (lead.reverse, ⟨tail, row', next, index'⟩) := by
  have hlength : (lead ++ (List.replicate next ' ' ++ tail)).length + 1 =
      next + tail.length + 1 + lead.length := by
    simp only [List.length_append, List.length_replicate]
    omega
  refine ⟨row + lead.length, index + lead.length + next, ?_⟩
  rw [readLines?, hlength, readBlockBreaks?_breaks hlead, readBlockBreaks?_end htail hnext]
  simp only [bind, Option.bind_some, if_neg (show indent ≠ 0 by omega)]
  rw [readBlockLines?_end hnext]
  simp [Chomping.kept]

theorem indentLines_lead (indent : ℕ) {lead : List Char} (h : ∀ c ∈ lead, isBreak c = true)
    (rest : List Char) :
    indentLines indent true (lead ++ rest) = lead ++ indentLines indent true rest := by
  cases lead with
  | nil => rfl
  | cons c lead =>
      exact indentLines_breaks indent (h c List.mem_cons_self)
        (fun b hb => h b (List.mem_cons_of_mem c hb)) true rest

theorem chompingOf_breaks (hne : text ≠ []) (h : ∀ c ∈ text, isBreak c = true) :
    chompingOf text = .keep := by
  rw [chompingOf]
  cases hreverse : text.reverse with
  | nil => exact absurd (List.reverse_eq_nil_iff.mp hreverse) hne
  | cons last before =>
      have hall (c) (hc : c ∈ last :: before) : isBreak c = true :=
        h c (by rwa [← List.mem_reverse, hreverse])
      cases before with
      | nil => simp [hall last]
      | cons c before => simp [hall last, hall c]

/-- The indentation that a header gives for a text. -/
def givenIndent (parent step : ℕ) (text : List Char) : ℕ :=
  if incrementOf step text = 0 then 0 else parent + incrementOf step text

/-- A text of breaks is read back. -/
theorem readLines?_onlyBreaks {lead : List Char} (hne : lead ≠ [])
    (hlead : ∀ b ∈ lead, IsShownBreak b) (hstep : 0 < step) (hnext : next ≤ parent)
    (htail : StartsInk tail) (row index : ℕ) :
    ∃ row' index', readLines? (chompingOf lead) parent (givenIndent parent step lead)
        ⟨indentLines (parent + step) true (closed lead) ++ (List.replicate next ' ' ++ tail),
          row, 0, index⟩ =
      some (lead.reverse, ⟨tail, row', next, index'⟩) := by
  have hbreaks (b) (hb : b ∈ lead) : isBreak b = true := (hlead b hb).isBreak
  have hlast : lead.getLast?.any isBreak = true := by
    simp [List.getLast?_eq_some_getLast hne, hbreaks]
  have hclosed : closed lead = lead := by
    rw [closed, if_pos hlast, List.append_nil]
  have hlines : indentLines (parent + step) true lead = lead := by
    simpa [indentLines] using indentLines_lead (parent + step) hbreaks []
  have hgiven : givenIndent parent step lead = parent + step := by
    obtain ⟨c, lead, rfl⟩ := List.exists_cons_of_ne_nil hne
    simp [givenIndent, incrementOf, hbreaks c, Nat.ne_of_gt hstep]
  rw [hclosed, hlines, hgiven, chompingOf_breaks hne hbreaks]
  exact readLines?_breaks hlead htail (by omega) parent row index

/-- Breaks and then lines are read back. -/
theorem readLines?_lines {lead core : List Char} {d : Char} (hlead : ∀ b ∈ lead, IsShownBreak b)
    (hd : isBreak d = false) (hwritable : ∀ c ∈ d :: core, isWritable c = true) (hstep : 0 < step)
    (hnext : next ≤ parent) (htail : StartsInk tail) (row index : ℕ) :
    ∃ row' index', readLines? (chompingOf (lead ++ d :: core)) parent
        (givenIndent parent step (lead ++ d :: core))
        ⟨indentLines (parent + step) true (closed (lead ++ d :: core)) ++
          (List.replicate next ' ' ++ tail), row, 0, index⟩ =
      some ((lead ++ d :: core).reverse, ⟨tail, row', next, index'⟩) := by
  have hbreaks (b) (hb : b ∈ lead) : isBreak b = true := (hlead b hb).isBreak
  have hindent : next < parent + step := by omega
  have hlast : (lead ++ d :: core).getLast? = (d :: core).getLast? := by
    rw [List.getLast?_append, List.getLast?_cons, Option.some_or]
  have hclosed : closed (lead ++ d :: core) = lead ++ closed (d :: core) := by
    rw [closed, closed, hlast, List.append_assoc]
  obtain ⟨body, c, final, written, hcore, hfilled, hwritten⟩ :=
    exists_filled (parent + step) (isWritable_closed hwritable) (by simp [closed])
      (by simpa [closed] using hd) isBreak_getLast?_closed
  have hkept := kept_chompingOf (hclosed.trans (congrArg (lead ++ ·) hcore))
    hfilled.exists_last fun b hb => (hfilled.isShownBreak b hb).isBreak
  rw [hclosed, indentLines_lead _ hbreaks, hwritten, ← hkept]
  -- The header gives the indentation if the first line cannot show it.
  by_cases hfirst : (lead ++ d :: core).head?.any fun c => c = ' ' || isBreak c
  · have hgiven : givenIndent parent step (lead ++ d :: core) = parent + step := by
      rw [givenIndent, incrementOf, if_pos hfirst, if_neg (Nat.ne_of_gt hstep)]
    rw [hgiven]
    exact readLines?_given hlead hfilled htail hindent _ parent row index
  · have hgiven : givenIndent parent step (lead ++ d :: core) = 0 := by
      rw [givenIndent, incrementOf, if_neg hfirst, if_pos rfl]
    obtain rfl : lead = [] := by
      cases lead with
      | nil => rfl
      | cons c lead => simp [hbreaks c] at hfirst
    have hspace : d ≠ ' ' := by
      rintro rfl
      simp at hfirst
    have hink : StartsInk body := by
      obtain ⟨first, -, ⟨start, rfl⟩, -⟩ := hfilled.exists_cons
      obtain rfl : d = first := (List.cons.inj hcore).1
      exact startsInk_cons.mpr (isInk_of_isWritable (hwritable d List.mem_cons_self) hspace hd)
    rw [hgiven]
    exact readLines?_shown hfilled hink htail hindent _ (Nat.lt_add_of_pos_right hstep) row index

/-- A text of several lines is read back from a literal. -/
theorem readBlock?_literal (hne : text ≠ []) (hwritable : ∀ c ∈ text, isWritable c = true)
    (hstep : 0 < step) (hdigit : step < 10) (hnext : next ≤ parent) (htail : StartsInk tail)
    (row column index : ℕ) :
    ∃ row' index', readBlock? false parent
        ⟨incrementMark (incrementOf step text) ++ (chompingMark (chompingOf text) ++
          '\n' :: (indentLines (parent + step) true (closed text) ++
            (List.replicate next ' ' ++ tail))), row, column, index⟩ =
      some (text.reverse, ⟨tail, row', next, index'⟩) := by
  obtain ⟨lead, core, rfl, hlead, hcore⟩ := exists_run isBreak text
  have hincrement : incrementOf step (lead ++ core) < 10 := by
    rw [incrementOf]
    split <;> omega
  have hparent : (max (parent : ℤ) 0).toNat = parent := by omega
  have hshown (c) (hc : c ∈ lead) : IsShownBreak c :=
    ⟨hlead c hc, hwritable c (List.mem_append_left core hc)⟩
  obtain ⟨index', hblock⟩ := readBlock?_marks (chompingOf (lead ++ core)) hincrement parent
    (indentLines (parent + step) true (closed (lead ++ core)) ++ (List.replicate next ' ' ++ tail))
    row column index
  rw [hparent, ← givenIndent] at hblock
  rw [hblock]
  cases core with
  | nil =>
      rw [List.append_nil] at hne ⊢
      exact readLines?_onlyBreaks hne hshown hstep hnext htail (row + 1) index'
  | cons d core =>
      exact readLines?_lines hshown (hcore d rfl)
        (fun c hc => hwritable c (List.mem_append_right lead hc)) hstep hnext htail (row + 1) index'

end Blocks

end Dashboard.Yaml
