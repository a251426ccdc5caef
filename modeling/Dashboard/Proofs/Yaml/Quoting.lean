import Dashboard.Proofs.Yaml.Escapes
import Mathlib.Data.List.TakeWhile

/-! # Texts between quotes

Double quotes hold a text on one line. Single quotes hold it on as many lines as it has,
each further one indented; they are used only if no space touches a line break, so nothing is
taken for indentation that is not. -/

namespace Dashboard.Yaml

/-! ## Splitting texts -/

theorem exists_run (p : Char → Bool) (text : List Char) :
    ∃ run rest, text = run ++ rest ∧ (∀ c ∈ run, p c = true) ∧ ∀ c ∈ rest.head?, p c = false := by
  refine ⟨text.takeWhile p, text.dropWhile p, List.takeWhile_append_dropWhile.symm,
    fun c hc => List.mem_takeWhile_imp hc, ?_⟩
  intro c hc
  have hhead := List.head?_dropWhile_not p text
  rwa [hc] at hhead

theorem exists_spaces (text : List Char) :
    ∃ count rest, text = List.replicate count ' ' ++ rest ∧ ∀ c ∈ rest.head?, c ≠ ' ' := by
  obtain ⟨spaces, rest, htext, hspaces, hrest⟩ := exists_run (· == ' ') text
  refine ⟨spaces.length, rest, ?_, fun c hc => by simpa using hrest c hc⟩
  rwa [← List.eq_replicate_of_mem fun c hc => by simpa using hspaces c hc]

theorem flatMap_spaces {write : Char → List Char} (h : write ' ' = [' ']) (count : ℕ) :
    (List.replicate count ' ').flatMap write = List.replicate count ' ' := by
  induction count with
  | zero => rfl
  | succ count ih => rw [List.replicate_succ, List.flatMap_cons, h, ih, List.singleton_append]

/-- A pair that is not in a text is in no end of it. -/
theorem hasPair_of_append {p q : Char → Bool} {a b : List Char}
    (h : hasPair p q (a ++ b) = false) : hasPair p q b = false := by
  induction a with
  | nil => exact h
  | cons x a ih =>
      apply ih
      cases hrest : a ++ b with
      | nil => rfl
      | cons y rest =>
          rw [List.cons_append, hrest, hasPair, Bool.or_eq_false_iff] at h
          exact h.2

/-- What follows a run of the first kind is not of the second. -/
theorem not_of_hasPair {p q : Char → Bool} {a run b : List Char}
    (h : hasPair p q (a ++ (run ++ b)) = false) (hne : run ≠ [])
    (hrun : ∀ x ∈ run, p x = true) : ∀ y ∈ b.head?, q y = false := by
  intro y hy
  obtain ⟨rest, rfl⟩ := List.head?_eq_some_iff.mp hy
  obtain ⟨before, x, rfl⟩ := List.eq_nil_or_concat run |>.resolve_left hne
  have hx := hrun x (by simp)
  have htext : a ++ (before.concat x ++ y :: rest) = (a ++ before) ++ x :: y :: rest := by simp
  rw [htext] at h
  have hpair := hasPair_of_append h
  rw [hasPair, Bool.or_eq_false_iff, hx, Bool.true_and] at hpair
  exact hpair.1

/-! ## Double quotes -/

theorem laid_escaped (indent : ℕ) (text : List Char) :
    Laid false escapedChar indent text (text.flatMap escapedChar) := by
  induction hlength : text.length using Nat.strong_induction_on generalizing text with
  | h n ih =>
    obtain ⟨ink, rest, rfl, hink, hrest⟩ := exists_run (· != ' ') text
    have hstands (c) (hc : c ∈ ink) : StandsForChar false (escapedChar c) c :=
      standsForChar_escapedChar (by simpa using hink c hc)
    obtain ⟨count, tail, rfl, htail⟩ := exists_spaces rest
    rcases count.eq_zero_or_pos with rfl | hpos
    · cases tail with
      | nil => simpa using Laid.run hstands
      | cons c tail => exact absurd (hrest c rfl) (by simpa using htail c rfl)
    · have hstart : StartsInk (tail.flatMap escapedChar) := by
        cases tail with
        | nil => simp
        | cons c tail =>
            have hc := standsForChar_escapedChar (htail c rfl)
            obtain ⟨first, written, hwritten⟩ := List.exists_cons_of_ne_nil hc.ne_nil
            have hfirst := hc.startsInk
            rw [hwritten, startsInk_cons] at hfirst
            simpa [hwritten] using hfirst
      have hlaid := Laid.spaces hstands hpos hstart
        (ih tail.length (by simp at hlength; omega) tail rfl)
      rwa [List.flatMap_append, List.flatMap_append, flatMap_spaces rfl]

/-! ## Single quotes -/

/-- A character between single quotes. -/
def singleChar (c : Char) : List Char :=
  if c = '\'' then ['\'', '\''] else [c]

/-- What stands between single quotes. -/
def singleBody (indent : ℕ) (text : List Char) : List Char :=
  indentLines indent false (text.flatMap singleChar) ++
    if text.getLast?.any isBreak then List.replicate indent ' ' else []

theorem singleQuotedText_eq (indent : ℕ) (text : List Char) :
    singleQuotedText indent text = '\'' :: (singleBody indent text ++ ['\'']) := by
  rw [singleQuotedText, singleBody]
  simp only [List.cons_append]
  rfl

theorem singleChar_ne_nil (c : Char) : singleChar c ≠ [] := by
  rw [singleChar]
  split <;> simp

theorem standsForChar_singleChar {c : Char} (h : IsInk c) :
    StandsForChar true (singleChar c) c := by
  rw [singleChar]
  split
  · next hquote =>
    subst hquote
    exact {
      ne_nil := List.cons_ne_nil _ _
      startsInk := startsInk_cons.mpr h
      read := fun fuel text rest line column index => by
        conv_lhs => unfold readQuotedRun?
        rfl }
  · next hquote => exact standsForChar_self h hquote (fun hsingle => absurd hsingle (by decide))

section Lines

variable {indent : ℕ} {c : Char} {text : List Char}

theorem indentLines_run {run : List Char} (h : ∀ c ∈ run, isBreak c = false) (rest : List Char) :
    indentLines indent false (run ++ rest) = run ++ indentLines indent false rest := by
  induction run with
  | nil => rfl
  | cons c run ih =>
      have hc := h c List.mem_cons_self
      have hrun := ih fun b hb => h b (List.mem_cons_of_mem _ hb)
      simp [indentLines, hc, hrun]

theorem indentLines_breaks (indent : ℕ) {breaks : List Char} (hc : isBreak c = true)
    (h : ∀ c ∈ breaks, isBreak c = true) (atStart : Bool) (rest : List Char) :
    indentLines indent atStart (c :: (breaks ++ rest)) =
      c :: (breaks ++ indentLines indent true rest) := by
  induction breaks generalizing c atStart with
  | nil => simp [indentLines, hc]
  | cons b breaks ih =>
      have hb := h b List.mem_cons_self
      rw [List.cons_append, indentLines, if_pos hc,
        ih hb (fun b hb => h b (List.mem_cons_of_mem _ hb)), List.cons_append]

theorem indentLines_start (hc : isBreak c = false) (rest : List Char) :
    indentLines indent true (c :: rest) =
      List.replicate indent ' ' ++ indentLines indent false (c :: rest) := by
  simp [indentLines, hc]

theorem indentLines_line {line : List Char} (hne : line ≠ [])
    (h : ∀ c ∈ line, isBreak c = false) (rest : List Char) :
    indentLines indent true (line ++ rest) =
      List.replicate indent ' ' ++ (line ++ indentLines indent false rest) := by
  obtain ⟨c, line, rfl⟩ := List.exists_cons_of_ne_nil hne
  rw [List.cons_append, indentLines_start (h c List.mem_cons_self), ← List.cons_append,
    indentLines_run h]

theorem singleChar_of_isBreak (hc : isBreak c = true) : singleChar c = [c] := by
  rw [singleChar, if_neg]
  rintro rfl
  exact absurd hc (by decide)

theorem flatMap_singleChar_breaks {breaks : List Char} (h : ∀ c ∈ breaks, isBreak c = true) :
    breaks.flatMap singleChar = breaks := by
  induction breaks with
  | nil => rfl
  | cons b breaks ih =>
      have hrest := ih fun c hc => h c (List.mem_cons_of_mem _ hc)
      rw [List.flatMap_cons, singleChar_of_isBreak (h b List.mem_cons_self), hrest,
        List.singleton_append]

theorem isBreak_of_mem_flatMap {run : List Char} (h : ∀ c ∈ run, isBreak c = false) :
    ∀ c ∈ run.flatMap singleChar, isBreak c = false := by
  intro c hc
  obtain ⟨b, hb, hc⟩ := List.mem_flatMap.mp hc
  rw [singleChar] at hc
  split at hc
  · have hquote : c = '\'' := by simpa using hc
    rw [hquote]
    rfl
  · rw [List.mem_singleton.mp hc]
    exact h b hb

/-- Nothing before the first break of a text is indented. -/
theorem singleBody_append {run : List Char} (h : ∀ c ∈ run, isBreak c = false) (indent : ℕ)
    (text : List Char) :
    singleBody indent (run ++ text) = run.flatMap singleChar ++ singleBody indent text := by
  have hlast : (run ++ text).getLast?.any isBreak = text.getLast?.any isBreak := by
    rw [List.getLast?_append]
    cases htext : text.getLast? with
    | some c => rfl
    | none =>
        cases hrun : run.getLast? with
        | none => rfl
        | some c => simp [h c (List.mem_of_getLast? hrun)]
  rw [singleBody, singleBody, List.flatMap_append, indentLines_run (isBreak_of_mem_flatMap h),
    hlast, List.append_assoc]

/-- A line after breaks is indented, an empty one at the end too. -/
theorem singleBody_breaks {breaks : List Char} (hc : isBreak c = true)
    (h : ∀ c ∈ breaks, isBreak c = true) (htext : ∀ c ∈ text.head?, isBreak c = false) :
    singleBody indent (c :: (breaks ++ text)) =
      c :: (breaks ++ (List.replicate indent ' ' ++ singleBody indent text)) := by
  have hlines := indentLines_breaks indent hc h false (text.flatMap singleChar)
  rw [singleBody, List.flatMap_cons, List.flatMap_append, singleChar_of_isBreak hc,
    flatMap_singleChar_breaks h, List.singleton_append, hlines]
  cases text with
  | nil =>
      have hlast : (c :: (breaks ++ [])).getLast?.any isBreak = true := by
        rw [List.append_nil, List.getLast?_cons]
        cases hbreaks : breaks.getLast? with
        | none => simpa using hc
        | some b => simpa using h b (List.mem_of_getLast? hbreaks)
      rw [hlast]
      simp [singleBody, indentLines]
  | cons b text =>
      have hb := htext b rfl
      obtain ⟨first, written, hwritten⟩ :=
        List.exists_cons_of_ne_nil (singleChar_ne_nil b)
      have hrun : ∀ c ∈ [b], isBreak c = false := by simpa using hb
      have hfirst : isBreak first = false :=
        isBreak_of_mem_flatMap hrun first (by simp [hwritten])
      have hlast : (c :: (breaks ++ b :: text)).getLast? = (b :: text).getLast? := by
        rw [← List.cons_append, List.getLast?_append, List.getLast?_cons, Option.some_or]
      rw [hlast, singleBody, List.flatMap_cons, hwritten]
      simp only [List.cons_append, indentLines_start hfirst, List.append_assoc]

theorem startsInk_singleBody (h : StartsInk text) : StartsInk (singleBody indent text) := by
  cases text with
  | nil => exact startsInk_nil
  | cons c text =>
      have hc := startsInk_cons.mp h
      have hrun : ∀ b ∈ [c], isBreak b = false := by simpa using hc.isBreak
      have hbody := singleBody_append hrun indent text
      rw [List.singleton_append, List.flatMap_singleton] at hbody
      rw [hbody, singleChar]
      split
      · next hquote =>
        subst hquote
        exact startsInk_cons.mpr hc
      · exact startsInk_cons.mpr hc

end Lines

/-- A text that single quotes can hold: everything in it is shown, and no space touches a line
break. -/
structure FitsSingleQuotes (text : List Char) : Prop where
  isWritable : ∀ c ∈ text, isWritable c = true
  noFeed : '\n' ∉ text
  noBreakSpace : hasPair isBreak (· == ' ') text = false
  noSpaceBreak : hasPair (· == ' ') isBreak text = false

theorem FitsSingleQuotes.of_append {a b : List Char} (h : FitsSingleQuotes (a ++ b)) :
    FitsSingleQuotes b where
  isWritable c hc := h.isWritable c (List.mem_append_right a hc)
  noFeed hfeed := h.noFeed (List.mem_append_right a hfeed)
  noBreakSpace := hasPair_of_append h.noBreakSpace
  noSpaceBreak := hasPair_of_append h.noSpaceBreak

theorem FitsSingleQuotes.startsInk {a run b : List Char} (h : FitsSingleQuotes (a ++ (run ++ b)))
    (hspace : ∀ c ∈ b.head?, c ≠ ' ') (hbreak : ∀ c ∈ b.head?, isBreak c = false) :
    StartsInk b := by
  intro c hc
  refine isInk_of_isWritable (h.isWritable c ?_) (hspace c hc) (hbreak c hc)
  exact List.mem_append_right a (List.mem_append_right run (List.mem_of_head? hc))

section Layouts

variable {indent : ℕ} {ink breaks tail : List Char} {c : Char}

theorem laid_singleBody_ink (hink : ∀ c ∈ ink, IsInk c) :
    Laid true singleChar indent ink (singleBody indent ink) := by
  have hbody := singleBody_append (fun c hc => (hink c hc).isBreak) indent []
  have hlaid : Laid true singleChar indent ink (ink.flatMap singleChar) :=
    .run fun c hc => standsForChar_singleChar (hink c hc)
  rw [List.append_nil] at hbody
  rw [hbody]
  simpa [singleBody, indentLines] using hlaid

theorem laid_singleBody_breaks (h : FitsSingleQuotes (ink ++ (c :: breaks ++ tail)))
    (hink : ∀ c ∈ ink, IsInk c) (hbreaks : ∀ b ∈ c :: breaks, isBreak b = true)
    (htail : ∀ c ∈ tail.head?, isBreak c = false)
    (rest : Laid true singleChar indent tail (singleBody indent tail)) :
    Laid true singleChar indent (ink ++ (c :: breaks ++ tail))
      (singleBody indent (ink ++ (c :: breaks ++ tail))) := by
  have hspace := not_of_hasPair h.noBreakSpace (List.cons_ne_nil c breaks) hbreaks
  have hstart : StartsInk tail := h.startsInk (fun d hd => by simpa using hspace d hd) htail
  have hshown (b) (hb : b ∈ c :: breaks) : IsShownBreak b :=
    ⟨hbreaks b hb, h.isWritable b (List.mem_append_right ink (List.mem_append_left tail hb))⟩
  have hfeed : c ≠ '\n' := by
    rintro rfl
    exact h.noFeed (by simp)
  rw [singleBody_append fun c hc => (hink c hc).isBreak, List.cons_append,
    singleBody_breaks (hbreaks c List.mem_cons_self)
      (fun b hb => hbreaks b (List.mem_cons_of_mem c hb)) htail]
  exact .breaks (fun c hc => standsForChar_singleChar (hink c hc)) (hshown c List.mem_cons_self)
    hfeed (fun b hb => hshown b (List.mem_cons_of_mem c hb)) (startsInk_singleBody hstart) rest

theorem laid_singleBody_spaces {count : ℕ}
    (h : FitsSingleQuotes (ink ++ (List.replicate count ' ' ++ tail))) (hpos : 0 < count)
    (hink : ∀ c ∈ ink, IsInk c) (htail : ∀ c ∈ tail.head?, c ≠ ' ')
    (rest : Laid true singleChar indent tail (singleBody indent tail)) :
    Laid true singleChar indent (ink ++ (List.replicate count ' ' ++ tail))
      (singleBody indent (ink ++ (List.replicate count ' ' ++ tail))) := by
  have hne : List.replicate count ' ' ≠ [] := by simpa using Nat.ne_of_gt hpos
  have hbreak := not_of_hasPair h.noSpaceBreak hne (by simp)
  have hstart : StartsInk tail := h.startsInk htail hbreak
  rw [singleBody_append fun c hc => (hink c hc).isBreak, singleBody_append (by simp [isBreak]),
    flatMap_spaces rfl]
  exact .spaces (fun c hc => standsForChar_singleChar (hink c hc)) hpos
    (startsInk_singleBody hstart) rest

/-- A text that fits is laid out between single quotes, run by run. -/
theorem laid_singleBody {text : List Char} (indent : ℕ) (h : FitsSingleQuotes text) :
    Laid true singleChar indent text (singleBody indent text) := by
  induction hlength : text.length using Nat.strong_induction_on generalizing text with
  | h n ih =>
    obtain ⟨ink, rest, rfl, hink, hrest⟩ := exists_run (fun c => !isBlank c && !isBreak c) text
    have hink (c) (hc : c ∈ ink) : IsInk c := by
      have h := hink c hc
      simp only [Bool.and_eq_true, Bool.not_eq_true'] at h
      exact ⟨h.1, h.2⟩
    cases rest with
    | nil =>
        rw [List.append_nil]
        exact laid_singleBody_ink hink
    | cons c rest =>
        -- What stops the run is a break, or a space: nothing else that is shown is no ink.
        by_cases hbreak : isBreak c = true
        · obtain ⟨breaks, tail, rfl, hbreaks, htail⟩ := exists_run isBreak rest
          have hall : ∀ b ∈ c :: breaks, isBreak b = true := by simpa [hbreak] using hbreaks
          rw [← List.cons_append] at h hlength ⊢
          have hless : tail.length < n := by
            simp only [List.length_append, List.length_cons] at hlength
            omega
          exact laid_singleBody_breaks h hink hall htail
            (ih tail.length hless h.of_append.of_append rfl)
        · have hspace : c = ' ' := by
            by_contra hne
            have hc := isInk_of_isWritable (h.isWritable c (by simp)) hne (by simpa using hbreak)
            exact absurd (hrest c rfl) (by simp [hc.isBlank, hc.isBreak])
          subst hspace
          obtain ⟨count, tail, rfl, htail⟩ := exists_spaces rest
          rw [← List.cons_append, ← List.replicate_succ] at h hlength ⊢
          have hless : tail.length < n := by
            simp only [List.length_append, List.length_replicate] at hlength
            omega
          exact laid_singleBody_spaces h (Nat.succ_pos count) hink htail
            (ih tail.length hless h.of_append.of_append rfl)

end Layouts

end Dashboard.Yaml
