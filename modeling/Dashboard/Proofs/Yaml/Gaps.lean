import Dashboard.Yaml.ScalarText
import Dashboard.Yaml.ScalarToken
import Mathlib.Data.Nat.Notation
import Mathlib.Tactic.Common

/-! # Gaps in scalars

Between two runs of a scalar stand spaces, or line breaks and the spaces that indent the next
line. Spaces are read as themselves; of breaks nothing is lost but the indentation. -/

namespace Dashboard.Yaml

/-! ## Characters -/

/-- A line break that is written as it is. -/
structure IsShownBreak (c : Char) : Prop where
  isBreak : isBreak c = true
  isWritable : isWritable c = true

/-- Neither a blank nor a line break. -/
structure IsInk (c : Char) : Prop where
  isBlank : isBlank c = false
  isBreak : isBreak c = false

theorem IsInk.ne_space {c : Char} (h : IsInk c) : c ≠ ' ' := by
  rintro rfl
  exact absurd h.isBlank (by decide)

theorem IsInk.ne_tab {c : Char} (h : IsInk c) : c ≠ '\t' := by
  rintro rfl
  exact absurd h.isBlank (by decide)

/-- No blank and no line break comes next. -/
def StartsInk (text : List Char) : Prop :=
  ∀ c ∈ text.head?, IsInk c

@[simp] theorem startsInk_nil : StartsInk [] := by
  simp [StartsInk]

@[simp] theorem startsInk_cons {c : Char} {text : List Char} : StartsInk (c :: text) ↔ IsInk c := by
  simp [StartsInk]

theorem startsBlank_eq_false {c : Char} (rest : List Char) (h : IsInk c) :
    startsBlank (c :: rest) = false := by
  simp [startsBlank, h.isBlank, h.isBreak]

theorem startsBlank_replicate {count : ℕ} (h : 0 < count) (rest : List Char) :
    startsBlank (List.replicate count ' ' ++ rest) = true := by
  obtain ⟨count, rfl⟩ := Nat.exists_eq_add_of_lt h
  simp [List.replicate_succ, startsBlank, isBlank]

theorem startsBlank_of_isBreak {c : Char} (h : isBreak c = true) (rest : List Char) :
    startsBlank (c :: rest) = true := by
  simp [startsBlank, h]

theorem isBreak_iff {c : Char} :
    isBreak c = true ↔ c = '\n' ∨ c = '\r' ∨ c = '\u0085' ∨ c = '\u2028' ∨ c = '\u2029' := by
  simp [isBreak, or_assoc]

theorem IsShownBreak.cases {c : Char} (h : IsShownBreak c) :
    c = '\n' ∨ c = '\u2028' ∨ c = '\u2029' := by
  have hwritable := h.isWritable
  rcases isBreak_iff.mp h.isBreak with rfl | rfl | rfl | rfl | rfl
  · exact .inl rfl
  · exact absurd hwritable (by decide)
  · exact absurd hwritable (by decide)
  · exact .inr (.inl rfl)
  · exact .inr (.inr rfl)

theorem isBlank_eq_false_of_isBreak {c : Char} (h : isBreak c = true) : isBlank c = false := by
  rcases isBreak_iff.mp h with rfl | rfl | rfl | rfl | rfl <;> rfl

/-- Every writable character is a space, a break or ink. -/
theorem isInk_of_isWritable {c : Char} (h : isWritable c = true) (hspace : c ≠ ' ')
    (hbreak : isBreak c = false) : IsInk c := by
  have htab : c ≠ '\t' := by
    rintro rfl
    exact absurd h (by decide)
  exact ⟨by simp [isBlank, hspace, htab], hbreak⟩

/-! ## Positions -/

namespace Cursor

variable {rest : List Char} {line column index : ℕ}

@[simp] theorem skip_append (text : List Char) :
    (⟨text ++ rest, line, column, index⟩ : Cursor).skip text.length =
      ⟨rest, line, column + text.length, index + text.length⟩ := by
  simp [skip]

@[simp] theorem skip_one (c : Char) :
    (⟨c :: rest, line, column, index⟩ : Cursor).skip 1 = ⟨rest, line, column + 1, index + 1⟩ := rfl

theorem skip_spaces (count : ℕ) :
    (⟨List.replicate count ' ' ++ rest, line, column, index⟩ : Cursor).skip count =
      ⟨rest, line, column + count, index + count⟩ := by
  simp [skip]

theorem skipBreak_of_isShownBreak {c : Char} (h : IsShownBreak c) :
    (⟨c :: rest, line, column, index⟩ : Cursor).skipBreak = ⟨rest, line + 1, 0, index + 1⟩ := by
  rcases h.cases with rfl | rfl | rfl <;> rfl

theorem breakText_of_isShownBreak {c : Char} (h : IsShownBreak c) :
    (⟨c :: rest, line, column, index⟩ : Cursor).breakText = [c] := by
  rcases h.cases with rfl | rfl | rfl <;> rfl

theorem atDocumentIndicator_eq_false (h : 0 < column) :
    (⟨rest, line, column, index⟩ : Cursor).atDocumentIndicator = false := by
  simp [atDocumentIndicator, Nat.ne_of_gt h]

end Cursor

/-! ## Reading gaps -/

namespace Gap

variable {indent fuel line column index : ℕ} {rest blanks : List Char}

theorem read?_ink (gap : Gap) (h : StartsInk rest) :
    read? indent (fuel + 1) gap ⟨rest, line, column, index⟩ =
      some (gap, ⟨rest, line, column, index⟩) := by
  cases rest with
  | nil => rfl
  | cons c rest =>
      have hink := startsInk_cons.mp h
      simp [read?, Cursor.head?, hink.isBlank, hink.isBreak]

/-- Spaces before any line break are kept. -/
theorem read?_spaces (count : ℕ) (h : StartsInk rest) (hfuel : count < fuel) :
    read? indent fuel ⟨blanks, [], [], false⟩
        ⟨List.replicate count ' ' ++ rest, line, column, index⟩ =
      some (⟨List.replicate count ' ' ++ blanks, [], [], false⟩,
        ⟨rest, line, column + count, index + count⟩) := by
  induction count generalizing fuel blanks column index with
  | zero =>
      obtain ⟨fuel, rfl⟩ := Nat.exists_eq_add_of_lt hfuel
      simpa using read?_ink _ h
  | succ count ih =>
      obtain ⟨fuel, rfl⟩ := Nat.exists_eq_add_of_lt hfuel
      have hread : read? indent (count + 1 + fuel) ⟨' ' :: blanks, [], [], false⟩
          ⟨List.replicate count ' ' ++ rest, line, column + 1, index + 1⟩ = _ := ih (by omega)
      have hblanks : List.replicate (count + 1) ' ' ++ blanks =
          List.replicate count ' ' ++ ' ' :: blanks := by
        rw [List.replicate_succ', List.append_assoc, List.singleton_append]
      rw [hblanks, List.replicate_succ, List.cons_append, read?]
      simpa [Cursor.head?, isBlank, Nat.add_assoc, Nat.add_comm 1] using hread

/-- Spaces after a line break are its indentation. -/
theorem read?_indentation (count : ℕ) {gap : Gap} (hgap : gap.isLineEnd = true)
    (h : StartsInk rest) (hfuel : count < fuel) :
    read? indent fuel gap ⟨List.replicate count ' ' ++ rest, line, column, index⟩ =
      some (gap, ⟨rest, line, column + count, index + count⟩) := by
  induction count generalizing fuel column index with
  | zero =>
      obtain ⟨fuel, rfl⟩ := Nat.exists_eq_add_of_lt hfuel
      simpa using read?_ink _ h
  | succ count ih =>
      obtain ⟨fuel, rfl⟩ := Nat.exists_eq_add_of_lt hfuel
      have hread : read? indent (count + 1 + fuel) gap
          ⟨List.replicate count ' ' ++ rest, line, column + 1, index + 1⟩ = _ := ih (by omega)
      rw [List.replicate_succ, List.cons_append, read?]
      simpa [Cursor.head?, isBlank, hgap, Nat.add_assoc, Nat.add_comm 1] using hread

/-- Line breaks after the first one are kept one by one. -/
theorem read?_furtherBreaks (indent count : ℕ) {breaks : List Char}
    (hbreaks : ∀ c ∈ breaks, IsShownBreak c) (h : StartsInk rest) (blanks first further : List Char)
    (line index : ℕ) (hfuel : breaks.length + count < fuel) :
    ∃ line' index', read? indent fuel ⟨blanks, first, further, true⟩
        ⟨breaks ++ (List.replicate count ' ' ++ rest), line, 0, index⟩ =
      some (⟨blanks, first, breaks.reverse ++ further, true⟩, ⟨rest, line', count, index'⟩) := by
  induction breaks generalizing fuel further line index with
  | nil =>
      have hread : read? indent fuel ⟨blanks, first, further, true⟩
          ⟨List.replicate count ' ' ++ rest, line, 0, index⟩ = _ :=
        read?_indentation count rfl h (by simpa using hfuel)
      rw [Nat.zero_add] at hread
      exact ⟨line, index + count, hread⟩
  | cons c breaks ih =>
      obtain ⟨fuel, rfl⟩ := Nat.exists_eq_add_of_lt hfuel
      have hc := hbreaks c List.mem_cons_self
      have hless : breaks.length + count < (c :: breaks).length + count + fuel := by
        rw [List.length_cons]
        omega
      obtain ⟨line', index', hread⟩ := ih (fun b hb => hbreaks b (List.mem_cons_of_mem _ hb))
        (c :: further) (line + 1) (index + 1) hless
      refine ⟨line', index', ?_⟩
      rw [List.cons_append, read?]
      simpa [Cursor.head?, isBlank_eq_false_of_isBreak hc.isBreak, hc.isBreak,
        Cursor.breakText_of_isShownBreak hc, Cursor.skipBreak_of_isShownBreak hc] using hread

/-- After line breaks the next line is read from its first character that is no space. -/
theorem read?_breaks (indent count : ℕ) {c : Char} {breaks : List Char} (hc : IsShownBreak c)
    (hbreaks : ∀ c ∈ breaks, IsShownBreak c) (h : StartsInk rest) (line column index : ℕ) :
    ∃ line' index', read? indent
        ((c :: (breaks ++ (List.replicate count ' ' ++ rest))).length + 1) Gap.none
        ⟨c :: (breaks ++ (List.replicate count ' ' ++ rest)), line, column, index⟩ =
      some (⟨[], [c], breaks.reverse, true⟩, ⟨rest, line', count, index'⟩) := by
  have hless : breaks.length + count <
      (c :: (breaks ++ (List.replicate count ' ' ++ rest))).length := by
    simp only [List.length_append, List.length_cons, List.length_replicate]
    omega
  obtain ⟨line', index', hread⟩ :=
    read?_furtherBreaks indent count hbreaks h [] [c] [] (line + 1) (index + 1) hless
  refine ⟨line', index', ?_⟩
  rw [read?]
  simpa [Cursor.head?, Gap.none, isBlank_eq_false_of_isBreak hc.isBreak, hc.isBreak,
    Cursor.breakText_of_isShownBreak hc, Cursor.skipBreak_of_isShownBreak hc] using hread

@[simp] theorem folded_none : Gap.none.folded = [] := rfl

theorem folded_of_ne {c : Char} (hne : c ≠ '\n') (breaks : List Char) :
    (⟨[], [c], breaks.reverse, true⟩ : Gap).folded = (c :: breaks).reverse := by
  simp [folded, hne]

end Gap

end Dashboard.Yaml
