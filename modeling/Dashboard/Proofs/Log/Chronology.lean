import Dashboard.Log.Backfill
import Mathlib.Data.Int.Order.Basic
import Mathlib.Data.List.Pairwise

/-! # Order of an answer

An answer is brought into order of time by a stable sort, after a list that
comes newest first has been turned round. -/

namespace Dashboard.Log

/-- Entries in order of time. -/
def Ascending (entries : List Entry) : Prop :=
  entries.Pairwise fun a b => a.timestamp ≤ b.timestamp

instance (entries : List Entry) : Decidable (Ascending entries) :=
  inferInstanceAs (Decidable (entries.Pairwise fun a b => a.timestamp ≤ b.timestamp))

/-- Times never increase along a list, and somewhere they drop. -/
structure NewestFirst (entries : List Entry) : Prop where
  descending : entries.Pairwise fun a b => b.timestamp ≤ a.timestamp
  drops : ∃ a ∈ entries, ∃ b ∈ entries, b.timestamp < a.timestamp

/-! ## Detecting the direction -/

theorem isDescending_iff (entries : List Entry) :
    isDescending entries = true ↔ entries.Pairwise fun a b => b.timestamp ≤ a.timestamp := by
  fun_induction isDescending entries with
  | case1 a b rest ih =>
      simp only [Bool.and_eq_true, decide_eq_true_eq, ih]
      constructor
      · rintro ⟨hab, hrest⟩
        refine List.pairwise_cons.mpr ⟨?_, hrest⟩
        intro c hc
        rcases List.mem_cons.mp hc with rfl | hc
        · exact hab
        · exact le_trans (List.rel_of_pairwise_cons hrest hc) hab
      · intro h
        exact ⟨List.rel_of_pairwise_cons h (by simp), h.tail⟩
  | case2 entries hshort =>
      match entries, hshort with
      | [], _ => simp
      | [a], _ => simp
      | a :: b :: rest, hshort => exact (hshort a b rest rfl).elim

theorem timestamp_le_head {first : Entry} {rest : List Entry}
    (h : (first :: rest).Pairwise fun a b => b.timestamp ≤ a.timestamp) :
    ∀ a ∈ first :: rest, a.timestamp ≤ first.timestamp := by
  intro a ha
  rcases List.mem_cons.mp ha with rfl | ha
  · exact le_rfl
  · exact List.rel_of_pairwise_cons h ha

theorem timestamp_getLast_le {entries : List Entry} {last : Entry}
    (h : entries.Pairwise fun a b => b.timestamp ≤ a.timestamp)
    (hlast : entries.getLast? = some last) : ∀ a ∈ entries, last.timestamp ≤ a.timestamp := by
  obtain ⟨front, rfl⟩ := List.getLast?_eq_some_iff.mp hlast
  intro a ha
  rcases List.mem_append.mp ha with ha | ha
  · exact (List.pairwise_append.mp h).2.2 a ha last (by simp)
  · obtain rfl := List.mem_singleton.mp ha
    exact le_rfl

theorem isNewestFirst_iff (entries : List Entry) :
    isNewestFirst entries = true ↔ NewestFirst entries := by
  cases entries with
  | nil => exact ⟨fun h => by simp [isNewestFirst] at h, fun h => by simpa using h.drops⟩
  | cons first rest =>
      obtain ⟨last, hlast⟩ : ∃ last, (first :: rest).getLast? = some last :=
        ⟨_, List.getLast?_eq_some_getLast (List.cons_ne_nil _ _)⟩
      simp only [isNewestFirst, List.head?_cons, hlast, Bool.and_eq_true, decide_eq_true_eq,
        isDescending_iff]
      constructor
      · rintro ⟨hdesc, hlt⟩
        exact ⟨hdesc, first, by simp, last, List.mem_of_getLast? hlast, hlt⟩
      · rintro ⟨hdesc, a, ha, b, hb, hlt⟩
        refine ⟨hdesc, ?_⟩
        calc
          last.timestamp ≤ b.timestamp := timestamp_getLast_le hdesc hlast b hb
          _ < a.timestamp := hlt
          _ ≤ first.timestamp := timestamp_le_head hdesc a ha

instance (entries : List Entry) : Decidable (NewestFirst entries) :=
  decidable_of_iff _ (isNewestFirst_iff entries)

theorem Ascending.not_newestFirst {entries : List Entry} (h : Ascending entries) :
    ¬ NewestFirst entries := by
  rintro ⟨hdesc, a, ha, b, hb, hlt⟩
  have : Std.Symm fun x y : Entry => x.timestamp = y.timestamp := ⟨fun _ _ hxy => hxy.symm⟩
  have hsame : entries.Pairwise fun x y => x.timestamp = y.timestamp :=
    (h.and hdesc).imp fun hxy => le_antisymm hxy.1 hxy.2
  have hba : b.timestamp = a.timestamp :=
    List.Pairwise.forall_of_forall (R := fun x y : Entry => x.timestamp = y.timestamp)
      (fun _ _ => rfl) hsame hb ha
  exact ne_of_lt hlt hba

/-- A list of non-increasing times that does not come newest first has one time
only, so it is in order of time as well. -/
theorem ascending_of_not_newestFirst {entries : List Entry}
    (hdesc : entries.Pairwise fun a b => b.timestamp ≤ a.timestamp)
    (h : ¬ NewestFirst entries) : Ascending entries := by
  refine hdesc.imp_of_mem ?_
  intro a b ha hb _
  by_contra hlt
  exact h ⟨hdesc, a, ha, b, hb, lt_of_not_ge hlt⟩

/-! ## Sorting -/

theorem chronological_perm (entries : List Entry) :
    (chronological entries).Perm entries := by
  unfold chronological
  refine (List.mergeSort_perm _ _).trans ?_
  split
  · exact List.reverse_perm entries
  · exact List.Perm.refl entries

theorem ascending_chronological (entries : List Entry) : Ascending (chronological entries) := by
  unfold chronological
  refine (List.pairwise_mergeSort ?_ ?_ _).imp of_decide_eq_true
  · intro a b c hab hbc
    simp only [decide_eq_true_eq] at hab hbc ⊢
    exact le_trans hab hbc
  · intro a b
    simp only [Bool.or_eq_true, decide_eq_true_eq]
    exact le_total _ _

@[simp] theorem length_chronological (entries : List Entry) :
    (chronological entries).length = entries.length :=
  (chronological_perm entries).length_eq

theorem Ascending.chronological_eq {entries : List Entry} (h : Ascending entries) :
    chronological entries = entries := by
  have hdir : ¬ isNewestFirst entries = true := fun hn =>
    h.not_newestFirst ((isNewestFirst_iff entries).mp hn)
  simp only [chronological, hdir, Bool.false_eq_true, if_false]
  exact List.mergeSort_of_pairwise (by simpa [Ascending] using h)

theorem NewestFirst.ascending_reverse {entries : List Entry} (h : NewestFirst entries) :
    Ascending entries.reverse :=
  List.pairwise_reverse.mpr h.descending

theorem NewestFirst.chronological_eq {entries : List Entry} (h : NewestFirst entries) :
    chronological entries = entries.reverse := by
  simp only [chronological, (isNewestFirst_iff entries).mpr h, if_true]
  exact List.mergeSort_of_pairwise (by simpa [Ascending] using h.ascending_reverse)

end Dashboard.Log
