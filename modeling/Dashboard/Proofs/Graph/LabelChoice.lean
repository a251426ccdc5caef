import Dashboard.Proofs.Graph.Layering

/-! # Choice of labels

The labels of an overlay are taken in the order of their columns. A label is centred on its
marker and moved inwards at the edges, so labels of different lengths need not start in the
order of their columns. It is written unless it has no place or comes too close to the label
written last. -/

namespace Dashboard.Graph

/-! ## Order of columns -/

/-- Texts with their columns, brought into order of columns; texts of one column stay in the
order in which they are listed. -/
structure IsColumnOrder (listed ordered : List (ℕ × String)) : Prop where
  ascending : ordered.Pairwise fun a b => a.1 ≤ b.1
  stable : ∀ column, ordered.filter (fun text => text.1 = column) =
    listed.filter fun text => text.1 = column

theorem isColumnOrder_mergeSort (listed : List (ℕ × String)) :
    IsColumnOrder listed (listed.mergeSort fun a b => decide (a.1 ≤ b.1)) := by
  have htrans : ∀ a b c : ℕ × String, decide (a.1 ≤ b.1) = true → decide (b.1 ≤ c.1) = true →
      decide (a.1 ≤ c.1) = true := by
    intro a b c hab hbc
    simp only [decide_eq_true_eq] at hab hbc ⊢
    exact hab.trans hbc
  have htotal : ∀ a b : ℕ × String, (decide (a.1 ≤ b.1) || decide (b.1 ≤ a.1)) = true := by
    intro a b
    simp only [Bool.or_eq_true, decide_eq_true_eq]
    exact le_total _ _
  constructor
  · exact (List.pairwise_mergeSort htrans htotal listed).imp of_decide_eq_true
  · intro column
    have hsame : (listed.filter fun text => text.1 = column).Pairwise
        fun a b => decide (a.1 ≤ b.1) = true := by
      apply List.pairwise_of_forall_mem_list
      intro a ha b hb
      simp only [List.mem_filter, decide_eq_true_eq] at ha hb ⊢
      omega
    have hkept := (List.sublist_mergeSort htrans htotal hsame List.filter_sublist).filter
      fun text => text.1 = column
    simp only [List.filter_filter, Bool.and_self] at hkept
    refine (hkept.eq_of_length ?_).symm
    exact ((List.mergeSort_perm listed _).filter _).length_eq.symm

namespace IsColumnOrder

variable {listed ordered other : List (ℕ × String)}

theorem mem_iff (h : IsColumnOrder listed ordered) (text : ℕ × String) :
    text ∈ ordered ↔ text ∈ listed := by
  have hmem : text ∈ ordered.filter (fun other => other.1 = text.1) ↔
      text ∈ listed.filter fun other => other.1 = text.1 := by
    rw [h.stable]
  simpa using hmem

theorem filter (h : IsColumnOrder listed ordered) (kept : ℕ × String → Bool) :
    IsColumnOrder (listed.filter kept) (ordered.filter kept) where
  ascending := h.ascending.filter kept
  stable := by
    intro column
    have hcommute : ∀ texts : List (ℕ × String),
        (texts.filter kept).filter (fun text => text.1 = column) =
          (texts.filter fun text => text.1 = column).filter kept := by
      intro texts
      simp only [List.filter_filter, Bool.and_comm]
    rw [hcommute, h.stable, hcommute]

theorem eq_of_ascending (h : IsColumnOrder listed ordered)
    (hlisted : listed.Pairwise fun a b => a.1 ≤ b.1) : ordered = listed := by
  induction ordered generalizing listed with
  | nil =>
      cases listed with
      | nil => rfl
      | cons head listed => simpa using h.mem_iff head
  | cons first ordered ih =>
      cases listed with
      | nil => simpa using h.mem_iff first
      | cons head listed =>
          have hcolumn : first.1 = head.1 := by
            apply le_antisymm
            · rcases List.mem_cons.mp ((h.mem_iff head).mpr List.mem_cons_self) with heq | hmem
              · exact (congrArg Prod.fst heq).ge
              · exact List.rel_of_pairwise_cons h.ascending hmem
            · rcases List.mem_cons.mp ((h.mem_iff first).mp List.mem_cons_self) with heq | hmem
              · exact (congrArg Prod.fst heq).ge
              · exact List.rel_of_pairwise_cons hlisted hmem
          have hfirst := h.stable first.1
          rw [List.filter_cons_of_pos (by simp), List.filter_cons_of_pos (by simp [hcolumn])]
            at hfirst
          obtain ⟨rfl, -⟩ := List.cons.inj hfirst
          refine congrArg (first :: ·) (ih ⟨h.ascending.tail, fun column => ?_⟩ hlisted.tail)
          have hrest := h.stable column
          rw [List.filter_cons, List.filter_cons] at hrest
          split at hrest
          · exact (List.cons.inj hrest).2
          · exact hrest

/-- There is only one such order. -/
theorem eq (h : IsColumnOrder listed ordered) (hother : IsColumnOrder listed other) :
    ordered = other :=
  eq_of_ascending ⟨h.ascending, fun column => (h.stable column).trans (hother.stable column).symm⟩
    hother.ascending

end IsColumnOrder

namespace Label

/-- The label of a text whose marker stands in a column of a chart. -/
def place (width : ℕ) (text : ℕ × String) : Label :=
  ⟨min (text.1 - Text.textColumns text.2 / 2) (width - Text.textColumns text.2), text.2⟩

/-- Whether a text is left out: it takes no column, does not fit into the chart, or starts no
later than the column behind the label written last. -/
def Suppressed (width : ℕ) (chosen : List Label) (text : ℕ × String) : Prop :=
  (place width text).columns = 0 ∨ width < (place width text).columns ∨
    ∃ last, chosen.getLast? = some last ∧ (place width text).start ≤ last.stop

/-- The labels chosen from texts one by one: each is placed unless it is left out for the
labels chosen before. -/
inductive Greedy (width : ℕ) : List (ℕ × String) → List Label → Prop
  | nil : Greedy width [] []
  | suppress {texts chosen text} : Greedy width texts chosen → Suppressed width chosen text →
      Greedy width (texts ++ [text]) chosen
  | accept {texts chosen text} : Greedy width texts chosen → ¬ Suppressed width chosen text →
      Greedy width (texts ++ [text]) (chosen ++ [place width text])

theorem centred?_eq (width : ℕ) (text : ℕ × String) :
    centred? width text.1 text.2 =
      if (place width text).columns = 0 ∨ width < (place width text).columns then none
      else some (place width text) :=
  rfl

/-- The first column that labels leave free for the next one, if `free` is the first one that
is free without them. -/
def freeAfter (free : ℕ) (chosen : List Label) : ℕ :=
  chosen.getLast?.elim free fun last => last.stop + 1

theorem freeAfter_cons (free : ℕ) (first : Label) (chosen : List Label) :
    freeAfter free (first :: chosen) = freeAfter (first.stop + 1) chosen := by
  rw [freeAfter, freeAfter, List.getLast?_cons]
  cases chosen.getLast? with
  | none => rfl
  | some last => rfl

theorem spaced_concat (free : ℕ) (labels : List Label) (label : Label) :
    spaced free (labels ++ [label]) =
      if label.start < freeAfter free (spaced free labels) then spaced free labels
      else spaced free labels ++ [label] := by
  induction labels generalizing free with
  | nil => rfl
  | cons first labels ih =>
      rw [List.cons_append]
      by_cases hearly : first.start < free
      · have hskip : ∀ rest, spaced free (first :: rest) = spaced free rest := by
          intro rest
          rw [spaced, if_pos hearly]
        rw [hskip, hskip, ih]
      · have htake : ∀ rest, spaced free (first :: rest) =
            first :: spaced (first.stop + 1) rest := by
          intro rest
          rw [spaced, if_neg hearly]
        rw [htake, htake, ih, freeAfter_cons]
        split
        · rfl
        · rfl

theorem lt_freeAfter_zero_iff (chosen : List Label) (start : ℕ) :
    start < freeAfter 0 chosen ↔ ∃ last, chosen.getLast? = some last ∧ start ≤ last.stop := by
  unfold freeAfter
  cases chosen.getLast? with
  | none => simp only [Option.elim_none, Nat.not_lt_zero, reduceCtorEq, false_and, exists_false]
  | some last =>
      simp only [Option.elim_some, Option.some.injEq, exists_eq_left']
      exact Nat.lt_succ_iff

theorem greedy_spaced (width : ℕ) (texts : List (ℕ × String)) :
    Greedy width texts (spaced 0 (texts.filterMap fun text => centred? width text.1 text.2)) := by
  induction texts using List.reverseRecOn with
  | nil => exact .nil
  | append_singleton texts text ih =>
      rw [List.filterMap_append]
      by_cases hfit : (place width text).columns = 0 ∨ width < (place width text).columns
      · rw [List.filterMap_cons_none (by rw [centred?_eq, if_pos hfit]), List.filterMap_nil,
          List.append_nil]
        exact .suppress ih (hfit.imp_right .inl)
      · rw [List.filterMap_cons_some (by rw [centred?_eq, if_neg hfit]), List.filterMap_nil,
          spaced_concat]
        split
        · next hclose =>
          exact .suppress ih (.inr (.inr ((lt_freeAfter_zero_iff _ _).mp hclose)))
        · next hfree =>
          refine .accept ih ?_
          rintro (hnone | hwide | hclose)
          · exact hfit (.inl hnone)
          · exact hfit (.inr hwide)
          · exact hfree ((lt_freeAfter_zero_iff _ _).mpr hclose)

theorem columns_pos_of_centred? {width column : ℕ} {text : String} {label : Label}
    (h : centred? width column text = some label) : 0 < label.columns := by
  rw [centred?_eq width (column, text)] at h
  split at h
  · cases h
  · next hfit =>
    obtain rfl := Option.some.inj h
    omega

end Label

namespace Overlay

/-- The labels of markers, as they are listed, with the columns of the markers. -/
def listed (markers : List Marker) (width : ℕ) : List (ℕ × String) :=
  markers.filterMap fun marker =>
    match marker.column? width, marker.label with
    | some column, some text => some (column, text)
    | _, _ => none

theorem mem_listed_iff {markers : List Marker} {width column : ℕ} {text : String} :
    (column, text) ∈ listed markers width ↔
      ∃ marker ∈ markers, marker.column? width = some column ∧ marker.label = some text := by
  rw [listed, List.mem_filterMap]
  refine exists_congr fun marker => and_congr_right fun _ => ?_
  cases marker.column? width <;> cases marker.label <;> simp

theorem labelTexts_eq_filter {markers : List Marker} {width : ℕ} {ordered : List (ℕ × String)}
    (h : IsColumnOrder (listed markers width) ordered) :
    labelTexts markers width = ordered.filter fun text => !text.2.isEmpty := by
  have hlisted : (listed markers width).filter (fun text => !text.2.isEmpty) =
      markers.filterMap fun marker =>
        match marker.column? width, marker.label with
        | some column, some text => if text.isEmpty then none else some (column, text)
        | _, _ => none := by
    rw [listed, List.filter_filterMap]
    congr 1
    funext marker
    cases marker.column? width with
    | none => rfl
    | some column =>
        cases marker.label with
        | none => rfl
        | some text =>
            rw [Option.filter_some]
            dsimp only
            cases text.isEmpty with
            | true => rfl
            | false => rfl
  have hordered := h.filter fun text => !text.2.isEmpty
  rw [hlisted] at hordered
  exact (isColumnOrder_mergeSort _).eq hordered

/-- Empty texts make no difference: they take no column. -/
theorem labels_eq_spaced {markers : List Marker} {width : ℕ} {ordered : List (ℕ × String)}
    (h : IsColumnOrder (listed markers width) ordered) :
    labels markers width =
      Label.spaced 0 (ordered.filterMap fun text => Label.centred? width text.1 text.2) := by
  have hempty : ∀ text : ℕ × String, text.2.isEmpty = true →
      Label.centred? width text.1 text.2 = none := by
    intro text hempty
    rw [String.isEmpty_iff] at hempty
    rw [hempty]
    rfl
  rw [labels, labelTexts_eq_filter h, List.filterMap_filter]
  congr 2
  funext text
  cases htext : text.2.isEmpty with
  | true => simp [hempty text htext]
  | false => simp

/-- In a chart that has a column the labels are listed whose markers stand at a finite
position, and no others. Of those, in order of columns, the labels of an overlay are chosen
one by one: a label is left out exactly if it takes no column, does not fit, or starts no later
than the column behind the one chosen last. All chosen labels lie in the chart, from left to
right, and between two of them a column is free. -/
theorem greedy_labels (markers : List Marker) (width : ℕ) :
    (∀ marker ∈ markers, ∀ text, marker.label = some text → 0 < width →
      marker.position.isFinite = true →
        ∃ column, marker.column? width = some column ∧ (column, text) ∈ listed markers width) ∧
    (∀ column text, (column, text) ∈ listed markers width →
      ∃ marker ∈ markers, marker.column? width = some column ∧ marker.label = some text ∧
        marker.position.isFinite = true) ∧
    ∃ ordered, IsColumnOrder (listed markers width) ordered ∧
      Label.Greedy width ordered (labels markers width) ∧
      (∀ label ∈ labels markers width, label.start < label.stop ∧ label.stop ≤ width) ∧
      (labels markers width).Pairwise fun left right => left.stop < right.start := by
  have horder := isColumnOrder_mergeSort (listed markers width)
  refine ⟨?_, ?_, _, horder, ?_, ?_, Label.pairwise_spaced 0 _⟩
  · intro marker hmem text hlabel hwidth hfinite
    obtain ⟨column, hcolumn⟩ := exists_column? hfinite hwidth
    exact ⟨column, hcolumn, mem_listed_iff.mpr ⟨marker, hmem, hcolumn, hlabel⟩⟩
  · intro column text hlisted
    obtain ⟨marker, hmem, hcolumn, hlabel⟩ := mem_listed_iff.mp hlisted
    exact ⟨marker, hmem, hcolumn, hlabel, isFinite_of_column? hcolumn⟩
  · rw [labels_eq_spaced horder]
    exact Label.greedy_spaced width _
  · intro label hmem
    obtain ⟨text, -, hcentred⟩ := List.mem_filterMap.mp (Label.mem_of_mem_spaced hmem).1
    exact ⟨Nat.lt_add_of_pos_right (Label.columns_pos_of_centred? hcentred),
      Label.stop_le_of_centred? hcentred⟩

end Overlay

end Dashboard.Graph
