import Dashboard.Text.Lowercase
import Mathlib.Data.Int.Notation
import Mathlib.Data.List.Basic
import Mathlib.Data.List.Induction
import Mathlib.Data.List.TakeWhile
import Mathlib.Data.Nat.Notation

/-! # Forms of sigma

Only the capital sigma is lower-cased by what is around it. A part of a text therefore has
the lower-case form that it has on its own, unless a sigma in it changes form: one that only
characters without a say in case keep from an end of the part. -/

namespace Dashboard.Text

/-! ## Case context -/

/-- Whether case context looks through a character. -/
def isCaseIgnorable (c : Char) : Bool :=
  inRanges caseIgnorableRanges c

theorem meetsCase_of_all {text : List Char} (h : text.all isCaseIgnorable = true) :
    meetsCase text = false := by
  have hnone : text.dropWhile (inRanges caseIgnorableRanges) = [] :=
    List.dropWhile_eq_nil_iff.mpr (List.all_eq_true.mp h)
  rw [meetsCase, hnone]

/-- The first character with a say in case decides. -/
theorem meetsCase_append (text more : List Char) :
    meetsCase (text ++ more) =
      if text.all isCaseIgnorable then meetsCase more else meetsCase text := by
  induction text with
  | nil => rfl
  | cons c rest ih =>
      cases hc : isCaseIgnorable c with
      | true =>
          have hskip : ∀ others, meetsCase (c :: others) = meetsCase others := by
            intro others
            rw [meetsCase, List.dropWhile_cons_of_pos (by exact hc), ← meetsCase]
          rw [List.cons_append, hskip, hskip, ih, List.all_cons, hc, Bool.true_and]
      | false =>
          have hstop : ∀ others, meetsCase (c :: others) = inRanges casedRanges c := by
            intro others
            rw [meetsCase, List.dropWhile_cons_of_neg (by rw [← isCaseIgnorable, hc]; decide)]
          rw [List.cons_append, hstop, hstop, List.all_cons, hc]
          rfl

/-- Whether a sigma between `before`, nearest character first, and `after` ends a word. -/
def endsWord (before after : List Char) : Bool :=
  meetsCase before && !meetsCase after

/-! ## Parts of a text -/

/-- Lower-case form of a text between `before`, nearest character first, and `after`. -/
def lowerBetween (before : List Char) : List Char → List Char → List Char
  | [], _ => []
  | c :: rest, after =>
    lowerInContext before c (rest ++ after) ++ lowerBetween (c :: before) rest after

theorem lowerAfter_append (before text after : List Char) :
    lowerAfter before (text ++ after) =
      lowerBetween before text after ++ lowerAfter (text.reverse ++ before) after := by
  induction text generalizing before with
  | nil => rfl
  | cons c rest ih =>
      rw [List.cons_append, lowerAfter, ih, lowerBetween, List.append_assoc, List.reverse_cons,
        List.append_assoc, List.singleton_append]

theorem lowerBetween_nil (before text : List Char) :
    lowerBetween before text [] = lowerAfter before text := by
  have hsplit := lowerAfter_append before text []
  rwa [List.append_nil, lowerAfter, List.append_nil, eq_comm] at hsplit

theorem length_lowerInContext (before before' after after' : List Char) (c : Char) :
    (lowerInContext before c after).length = (lowerInContext before' c after').length := by
  unfold lowerInContext
  split
  · rfl
  · split <;> rfl

theorem length_lowerBetween (before before' text after after' : List Char) :
    (lowerBetween before text after).length = (lowerBetween before' text after').length := by
  induction text generalizing before before' with
  | nil => rfl
  | cons c rest ih =>
      rw [lowerBetween, lowerBetween, List.length_append, List.length_append, ih,
        length_lowerInContext]

theorem lowerInContext_ne_nil (before after : List Char) (c : Char) :
    lowerInContext before c after ≠ [] := by
  unfold lowerInContext
  split
  · simp
  · split <;> simp

theorem lowerInContext_eq_iff (before before' after after' : List Char) (c : Char) :
    lowerInContext before c after = lowerInContext before' c after' ↔
      (c = 'Σ' → endsWord before after = endsWord before' after') := by
  by_cases hsigma : c = 'Σ'
  · have hforms : ∀ final final' : Bool,
        ([if final then 'ς' else 'σ'] = [if final' then 'ς' else 'σ']) ↔ final = final' := by
      decide
    simp only [lowerInContext, hsigma, if_pos, true_implies]
    exact hforms _ _
  · simp [lowerInContext, hsigma]

/-- A sigma splits a text that begins with `c` at that character or later. -/
theorem forall_sigma_cons {c : Char} {rest : List Char} {P : List Char → List Char → Prop} :
    (∀ front back, c :: rest = front ++ 'Σ' :: back → P front back) ↔
      (c = 'Σ' → P [] rest) ∧
        ∀ front back, rest = front ++ 'Σ' :: back → P (c :: front) back := by
  constructor
  · intro h
    refine ⟨fun hc => h [] rest (by rw [hc]; rfl), fun front back hrest => ?_⟩
    exact h (c :: front) back (by rw [hrest]; rfl)
  · rintro ⟨hfirst, hlater⟩ front back h
    cases front with
    | nil =>
        obtain ⟨hc, rfl⟩ := List.cons_eq_cons.mp h
        exact hfirst hc
    | cons d front =>
        obtain ⟨rfl, hrest⟩ := List.cons_eq_cons.mp h
        exact hlater front back hrest

/-- Whether the sigmas of a text between `before`, nearest character first, and `after` have
the forms they have in the text on its own. -/
def KeepsForms (before text after : List Char) : Prop :=
  ∀ front back, text = front ++ 'Σ' :: back →
    endsWord (front.reverse ++ before) (back ++ after) = endsWord front.reverse back

theorem lowerBetween_append_eq_iff (before own text after : List Char) :
    lowerBetween (own ++ before) text after = lowerBetween own text [] ↔
      ∀ front back, text = front ++ 'Σ' :: back →
        endsWord (front.reverse ++ own ++ before) (back ++ after) =
          endsWord (front.reverse ++ own) back := by
  induction text generalizing own with
  | nil => simp [lowerBetween]
  | cons c rest ih =>
      have hrest := ih (c :: own)
      rw [List.cons_append] at hrest
      rw [lowerBetween, lowerBetween, List.append_nil, forall_sigma_cons]
      simp only [List.reverse_cons, List.append_assoc, List.singleton_append, List.reverse_nil,
        List.nil_append] at hrest ⊢
      rw [← lowerInContext_eq_iff, ← hrest]
      constructor
      · exact fun h => List.append_inj h (length_lowerInContext ..)
      · rintro ⟨hfirst, hlater⟩
        rw [hfirst, hlater]

/-- A part of a text is lower-cased as on its own exactly if its sigmas keep their forms. -/
theorem lowerBetween_eq_iff (before text after : List Char) :
    lowerBetween before text after = lowerAfter [] text ↔ KeepsForms before text after := by
  rw [← lowerBetween_nil]
  simpa [KeepsForms] using lowerBetween_append_eq_iff before [] text after

/-! ## Sigmas at an end -/

/-- A sigma whose form hangs on what is around the text. Either nothing before it has a say in
case and no letter with case comes next, or such a letter comes before it and nothing after it
has a say. -/
def SigmaAtEnd (text : List Char) : Prop :=
  ∃ front back, text = front ++ 'Σ' :: back ∧
    (front.all isCaseIgnorable = true ∧ meetsCase back = false ∨
      meetsCase front.reverse = true ∧ back.all isCaseIgnorable = true)

theorem keepsForms_of_not_sigmaAtEnd {text : List Char} (h : ¬ SigmaAtEnd text)
    (before after : List Char) : KeepsForms before text after := by
  intro front back htext
  obtain ⟨hfirst, hlast⟩ := not_or.mp fun hend => h ⟨front, back, htext, hend⟩
  have hback : meetsCase back = true → back.all isCaseIgnorable = false := by
    intro hmeets
    by_contra hall
    rw [meetsCase_of_all (eq_true_of_ne_false hall)] at hmeets
    exact Bool.false_ne_true hmeets
  rw [endsWord, endsWord, meetsCase_append, meetsCase_append, List.all_reverse]
  cases hfront : front.all isCaseIgnorable with
  | true =>
      -- A letter after the sigma keeps it from ending a word in any context.
      have hmeets : meetsCase back = true :=
        eq_true_of_ne_false fun hnone => hfirst ⟨hfront, hnone⟩
      simp [hmeets, hback hmeets, meetsCase_of_all, hfront]
  | false =>
      cases hcase : meetsCase front.reverse with
      | false => rfl
      | true =>
          have hall : back.all isCaseIgnorable = false :=
            eq_false_of_ne_true fun hall => hlast ⟨hcase, hall⟩
          simp [hall]

theorem meetsCase_letter : meetsCase ['a'] = true := by
  decide +kernel

/-- A letter on one side changes the form of a sigma at that end. -/
theorem not_keepsForms_of_sigmaAtEnd {text : List Char} (h : SigmaAtEnd text) :
    (∃ c front, text = c :: front ∧ (c = 'Σ' ∨ isCaseIgnorable c = true) ∧
        ¬ KeepsForms ['a'] text []) ∨
      ∃ c front, text = front ++ [c] ∧ (c = 'Σ' ∨ isCaseIgnorable c = true) ∧
        ¬ KeepsForms [] text ['a'] := by
  obtain ⟨front, back, rfl, ⟨hall, hback⟩ | ⟨hfront, hall⟩⟩ := h
  · left
    have hchanges : ¬ KeepsForms ['a'] (front ++ 'Σ' :: back) [] := by
      intro hkeeps
      have hforms := hkeeps front back rfl
      have hall' : front.reverse.all isCaseIgnorable = true := by rwa [List.all_reverse]
      rw [endsWord, endsWord, meetsCase_append, if_pos hall', meetsCase_letter,
        List.append_nil, hback, meetsCase_of_all hall'] at hforms
      exact absurd hforms (by decide)
    cases front with
    | nil => exact ⟨_, _, rfl, .inl rfl, hchanges⟩
    | cons c front => exact ⟨_, _, rfl, .inr (List.all_eq_true.mp hall c (by simp)), hchanges⟩
  · right
    have hchanges : ¬ KeepsForms [] (front ++ 'Σ' :: back) ['a'] := by
      intro hkeeps
      have hforms := hkeeps front back rfl
      rw [endsWord, endsWord, List.append_nil, meetsCase_append, if_pos hall, meetsCase_letter,
        hfront, meetsCase_of_all hall] at hforms
      exact absurd hforms (by decide)
    cases back using List.reverseRecOn with
    | nil => exact ⟨_, _, rfl, .inl rfl, hchanges⟩
    | append_singleton back c =>
        refine ⟨c, front ++ 'Σ' :: back, by simp, .inr ?_, hchanges⟩
        exact List.all_eq_true.mp hall c (by simp)

/-! ## The letter a -/

theorem toNat_ofNat_eq {n m : ℕ} (hm : m ≠ 0) (h : (Char.ofNat n).toNat = m) : n = m := by
  by_cases hvalid : n.isValidChar
  · rwa [Char.ofNat, dif_pos hvalid] at h
  · rw [Char.ofNat, dif_neg hvalid] at h
    exact absurd h.symm hm

/-- Only two characters are lower-cased to an a. -/
theorem eq_of_lowerChar_eq {c : Char} (h : lowerChar c = 'a') : c = 'a' ∨ c = 'A' := by
  rw [lowerChar] at h
  split at h
  · next run hfind =>
    right
    have hruns : ∀ run ∈ lowerRuns, (run.first : ℤ) ≤ 97 - run.distance →
        97 - run.distance ≤ run.last → run.distance = 32 := by
      decide +kernel
    have hrange := List.find?_some hfind
    have hcode := toNat_ofNat_eq (by decide) (congrArg Char.toNat h)
    simp only [Bool.and_eq_true, decide_eq_true_eq] at hrange
    have hletter : 'a'.toNat = 97 := rfl
    have hdistance := hruns run (List.mem_of_find?_eq_some hfind) (by omega) (by omega)
    have hcapital : c.toNat = 'A'.toNat := by
      have : 'A'.toNat = 65 := rfl
      omega
    exact Char.toNat_inj.mp hcapital
  · exact .inl h

section Letter

variable {c : Char} (h : c = 'Σ' ∨ isCaseIgnorable c = true)

include h

/-- What case context looks through is never lower-cased to an a, and neither is a sigma. -/
theorem letter_notMem_lowerInContext (before after : List Char) :
    'a' ∉ lowerInContext before c after := by
  rw [lowerInContext]
  split
  · split <;> decide
  · next hsigma =>
    have hignorable := h.resolve_left hsigma
    split
    · decide
    · intro hmem
      rcases eq_of_lowerChar_eq (List.mem_singleton.mp hmem).symm with rfl | rfl
      · exact absurd hignorable (by decide +kernel)
      · exact absurd hignorable (by decide +kernel)

theorem letter_notMem_head? (rest : List Char) : 'a' ∉ (lowerAfter [] (c :: rest)).head? := by
  rw [lowerAfter, List.head?_append_of_ne_nil _ (lowerInContext_ne_nil _ _ _)]
  exact fun hhead => letter_notMem_lowerInContext h _ _ (List.mem_of_mem_head? hhead)

theorem letter_notMem_getLast? (front : List Char) :
    'a' ∉ (lowerAfter [] (front ++ [c])).getLast? := by
  rw [lowerAfter_append, lowerAfter, lowerAfter, List.append_nil,
    List.getLast?_append_of_ne_nil _ (lowerInContext_ne_nil _ _ _)]
  exact fun hlast => letter_notMem_lowerInContext h _ _ (List.mem_of_getLast? hlast)

end Letter

end Dashboard.Text
