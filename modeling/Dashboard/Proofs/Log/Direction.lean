import Dashboard.Proofs.Log.Chronology
import Dashboard.Proofs.Log.Run
import Dashboard.Proofs.Retention

/-! # Direction of an answer

An answer that comes newest first should be merged as if it had come oldest
first. The direction is detected on what scope and watermark let through, so it
goes unnoticed when all that is left is of one second. -/

namespace Dashboard.Log.View

/-- Entries of an answer that scope and watermark let through. -/
def candidates (view : View) (found : List Entry) : List Entry :=
  found.filter fun entry => view.scope.contains entry.entity && view.isBeforeStream entry

theorem candidates_reverse (view : View) (found : List Entry) :
    view.candidates found.reverse = (view.candidates found).reverse :=
  List.filter_reverse

theorem accepted_entries (view : View) (found : List Entry) :
    view.accepted (.entries found) = newest view.limit (chronological (view.candidates found)) := by
  simp only [accepted, candidates, Answer.found, List.filter_filter, Bool.and_comm]

/-- Free places for merged entries: the limit and the streamed entries both
narrow them. -/
def room (view : View) : ℕ :=
  min view.limit (view.retained.capacity - view.entries.length)

theorem length_entries_le (view : View) : view.entries.length ≤ view.retained.capacity :=
  view.retained.length_toList_le

/-- After a merge, what fits of the ordered candidates is shown in front of the
entries held before. -/
theorem entries_resolve_eq_room (view : View) {ticket : Ticket} (h : view.state = .pending ticket)
    (found : List Entry) :
    (view.resolve ticket (.entries found)).1.entries =
      newest view.room (chronological (view.candidates found)) ++ view.entries := by
  rw [view.entries_resolve h, accepted_entries, newest_append,
    newest_of_length_le view.length_entries_le, newest_newest, Nat.min_comm]
  rfl

/-- The candidates of a reversed answer that came newest first are in order of
time already, ties included. -/
theorem chronological_candidates_reverse (view : View) {found : List Entry}
    (h : NewestFirst found) :
    chronological (view.candidates found.reverse) = (view.candidates found).reverse := by
  have hdesc := h.descending.filter fun entry =>
    view.scope.contains entry.entity && view.isBeforeStream entry
  rw [candidates_reverse]
  exact Ascending.chronological_eq (List.pairwise_reverse.mpr hdesc)

/-- Merging the reversed answer keeps the candidates in their original order.
The answer as it came is merged the same way exactly if its candidates still come
newest first, or if those that fit read the same from both ends. The number of
merged entries always agrees. -/
theorem resolve_reverse_iff (view : View) {ticket : Ticket} (hstate : view.state = .pending ticket)
    {found : List Entry} (hfound : NewestFirst found) :
    let delivered := view.resolve ticket (.entries found)
    let turned := view.resolve ticket (.entries found.reverse)
    delivered.2 = turned.2 ∧
    turned.1.entries = newest view.room (view.candidates found).reverse ++ view.entries ∧
    (delivered.1.entries = turned.1.entries ↔
      NewestFirst (view.candidates found) ∨
        newest view.room (view.candidates found) =
          ((view.candidates found).take view.room).reverse) := by
  intro delivered turned
  have hturned : turned.1.entries =
      newest view.room (view.candidates found).reverse ++ view.entries := by
    rw [view.entries_resolve_eq_room hstate, view.chronological_candidates_reverse hfound]
  refine ⟨?_, hturned, ?_⟩
  · simp only [delivered, turned, view.merged_resolve hstate, accepted_entries,
      candidates_reverse, length_newest, length_chronological, List.length_reverse]
  · rw [hturned, view.entries_resolve_eq_room hstate, List.append_left_inj]
    by_cases hdir : NewestFirst (view.candidates found)
    · simp [hdir.chronological_eq, hdir]
    · -- What is left is of one second, so the stable sort keeps it as it came.
      have hdesc := hfound.descending.filter fun entry =>
        view.scope.contains entry.entity && view.isBeforeStream entry
      have hasc : Ascending (view.candidates found) := ascending_of_not_newestFirst hdesc hdir
      rw [hasc.chronological_eq, newest_reverse]
      simp [hdir]

/-- The view of `web`, waiting for its first answer after a line at a time. -/
def waitingSince (timestamp : ℤ) : View :=
  webView.run [.activate ⟨0⟩, .push (webLine timestamp "live")]

/-- Two seconds are left of this answer, so its direction is seen. -/
theorem resolve_reverse_of_two_seconds :
    let found := [webLine 200 "dup", webLine 150 "b", webLine 150 "a", webLine 100 "first"]
    (waitingSince 200).state = .pending ⟨0⟩ ∧ NewestFirst found ∧
      ((waitingSince 200).resolve ⟨0⟩ (.entries found)).1.entries =
        ((waitingSince 200).resolve ⟨0⟩ (.entries found.reverse)).1.entries := by
  intro found
  have hstate : (waitingSince 200).state = .pending ⟨0⟩ := by decide
  have hfound : NewestFirst found := by decide
  have hleft : NewestFirst ((waitingSince 200).candidates found) := by decide
  exact ⟨hstate, hfound, (resolve_reverse_iff _ hstate hfound).2.2.mpr (.inl hleft)⟩

/-- Only one second is left of this answer, and its two lines change places. -/
theorem exists_resolve_reverse_ne :
    ¬ ∀ (view : View) (ticket : Ticket) (found : List Entry),
      view.state = .pending ticket → NewestFirst found →
        (view.resolve ticket (.entries found)).1.entries =
          (view.resolve ticket (.entries found.reverse)).1.entries ∧
        (view.resolve ticket (.entries found)).2 =
          (view.resolve ticket (.entries found.reverse)).2 := by
  intro h
  let found := [webLine 5 "dup", webLine 4 "second", webLine 4 "first"]
  have hstate : (waitingSince 5).state = .pending ⟨0⟩ := by decide
  have hfound : NewestFirst found := by decide
  have hdelivered : ((waitingSince 5).resolve ⟨0⟩ (.entries found)).1.entries =
      [webLine 4 "second", webLine 4 "first", webLine 5 "live"] := by
    rw [entries_resolve_eq_room _ hstate, Ascending.chronological_eq (by decide)]
    decide
  have hturned : ((waitingSince 5).resolve ⟨0⟩ (.entries found.reverse)).1.entries =
      [webLine 4 "first", webLine 4 "second", webLine 5 "live"] := by
    rw [entries_resolve_eq_room _ hstate, Ascending.chronological_eq (by decide)]
    decide
  have heq := (h (waitingSince 5) ⟨0⟩ found hstate hfound).1
  rw [hdelivered, hturned] at heq
  exact absurd heq (by decide)

end Dashboard.Log.View
