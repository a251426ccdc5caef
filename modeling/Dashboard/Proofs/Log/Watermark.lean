import Dashboard.Proofs.Log.Reconciliation

/-! # The watermark

An answer is compared with the stream once, when it arrives. Every merged entry is
older than the lines streamed before that; lines streamed later are not compared
with it, so they can be as old as a merged entry, or be one. -/

namespace Dashboard.Log.View

variable {scope : Scope} {capacity limit : ℕ} {window : Duration} {before after : List Op}
  {ticket : Ticket}

theorem timestamp_lt_of_mem_accepted {view : View} {stream : List Entry}
    (h : view.watermark = oldest stream) {answer : Answer} {entry : Entry}
    (hentry : entry ∈ view.accepted answer) :
    ∀ other ∈ stream, entry.timestamp < other.timestamp := by
  rw [accepted_eq h] at hentry
  have hmem := (chronological_perm _).mem_iff.mp ((newest_sublist _ _).mem hentry)
  simpa using (Bool.and_eq_true_iff.mp (List.mem_filter.mp hmem).2).2

/-- A view shows the merged entries in front of the stream. They are older than
every line streamed before the answer came, so no such line is shown more often
than it was streamed. They are older than the whole stream exactly as long as no
line of their age or older is streamed afterwards. -/
theorem merged_lt_watermark_iff
    (hopen : ((View.empty scope capacity window limit).run before).state = .pending ticket)
    (hafter : .reset ∉ after) (answer : Answer) :
    let waiting := (View.empty scope capacity window limit).run before
    let view := waiting.run (.resolve ticket answer :: after)
    let merged := waiting.accepted answer
    let early := streamed scope (sinceReset before)
    let late := streamed scope after
    view.entries = newest capacity (merged ++ (early ++ late)) ∧
    (∀ entry ∈ merged, ∀ other ∈ early, entry.timestamp < other.timestamp) ∧
    (∀ line ∈ early, view.entries.count line ≤ (early ++ late).count line) ∧
    ((∀ entry ∈ merged, ∀ time ∈ view.watermark, entry.timestamp < time) ↔
      ∀ entry ∈ merged, ∀ other ∈ late, entry.timestamp < other.timestamp) := by
  intro waiting view merged early late
  obtain ⟨history, hwaiting⟩ := exists_reconciles scope capacity window limit before
  -- Nothing had been merged while the view was waiting, so all of it is from this answer.
  have hmerge := hwaiting.resolve_of_awaits ((hwaiting.pending_iff ticket).mp hopen) answer
  have h : Reconciles scope capacity limit
      ((sinceReset before ++ [.resolve ticket answer]) ++ after) merged view :=
    hmerge.run_of_done (by simp [resolve, hopen]) hafter
  have hstream : streamed scope ((sinceReset before ++ [.resolve ticket answer]) ++ after) =
      early ++ late := by
    rw [streamed_append, streamed_concat_of_eq_nil rfl]
  have hentries : view.entries = newest capacity (merged ++ (early ++ late)) := by
    rw [← hstream]
    exact h.entries_eq
  have hearly : ∀ entry ∈ merged, ∀ other ∈ early, entry.timestamp < other.timestamp := by
    intro entry hentry
    exact timestamp_lt_of_mem_accepted hwaiting.watermark_eq hentry
  refine ⟨hentries, hearly, ?_, ?_⟩
  · intro line hline
    have hnone : line ∉ merged := fun hmem => lt_irrefl _ (hearly line hmem line hline)
    calc
      view.entries.count line ≤ (merged ++ (early ++ late)).count line := by
        rw [hentries]
        exact (newest_sublist _ _).count_le line
      _ = (early ++ late).count line := by
        rw [List.count_append, List.count_eq_zero_of_not_mem hnone, Nat.zero_add]
  · have hmark : view.watermark = oldest (early ++ late) := by
      rw [← hstream]
      exact h.watermark_eq
    simp only [hmark, lt_oldest_iff, List.mem_append]
    constructor
    · intro hall entry hentry other hother
      exact hall entry hentry other (.inr hother)
    · intro hall entry hentry other hother
      rcases hother with hother | hother
      · exact hearly entry hentry other hother
      · exact hall entry hentry other hother

/-- A line streamed after the answer that is older than the stream but newer than
the merged line moves the watermark, and the merged line stays older. -/
theorem merged_lt_watermark_of_late_line :
    let before := [.activate ⟨0⟩, .push (webLine 100 "live")]
    let after := [.push (webLine 95 "late")]
    let answer := .entries [webLine 100 "live", webLine 90 "old"]
    (webView.run before).state = .pending ⟨0⟩ ∧ .reset ∉ after ∧
      (webView.run before).accepted answer = [webLine 90 "old"] ∧
      ∀ entry ∈ (webView.run before).accepted answer,
        ∀ time ∈ ((webView.run before).run (.resolve ⟨0⟩ answer :: after)).watermark,
          entry.timestamp < time := by
  intro before after answer
  have hopen : (webView.run before).state = .pending ⟨0⟩ := by decide
  have hafter : .reset ∉ after := by decide
  have hmerged : (webView.run before).accepted answer = [webLine 90 "old"] := by cbv
  refine ⟨hopen, hafter, hmerged, (merged_lt_watermark_iff hopen hafter answer).2.2.2.mpr ?_⟩
  intro entry hentry other hother
  have hmem : entry ∈ [webLine 90 "old"] := hmerged ▸ hentry
  obtain rfl := List.mem_singleton.mp hmem
  obtain rfl : other = webLine 95 "late" := List.mem_singleton.mp hother
  decide

/-- A line that is merged first and streamed afterwards is as new as the
watermark, and is shown twice. -/
theorem line_shown_twice :
    let line := webLine 100 "live"
    let waiting := webView.run [.activate ⟨0⟩]
    let view := waiting.run [.resolve ⟨0⟩ (.entries [line]), .push line]
    waiting.state = .pending ⟨0⟩ ∧
      (¬ ∀ entry ∈ waiting.accepted (.entries [line]), ∀ time ∈ view.watermark,
        entry.timestamp < time) ∧
      view.entries = [line, line] := by
  intro line waiting view
  have hmerged : waiting.accepted (.entries [line]) = [line] := by cbv
  have hmark : view.watermark = some line.timestamp := by cbv
  have hentries : view.entries = [line, line] := by cbv
  refine ⟨by decide, ?_, hentries⟩
  intro h
  exact lt_irrefl _ (h line (by simp [hmerged]) line.timestamp hmark)

end Dashboard.Log.View
