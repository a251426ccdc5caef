import Dashboard.Proofs.Log.Chronology
import Dashboard.Proofs.Log.Run
import Dashboard.Proofs.Retention

/-! # Reconciliation of stream and history

What a view shows is the end of one list: the history merged from the answer of
its query, followed by everything streamed to it. The view itself never holds
that list; it is read off the operations. -/

namespace Dashboard.Log.View

/-- Entries of an answer that may be merged next to streamed ones: those in scope
and strictly older than each of them. -/
def eligible (scope : Scope) (stream : List Entry) (answer : Answer) : List Entry :=
  answer.found.filter fun entry =>
    scope.contains entry.entity && stream.all fun other => entry.timestamp < other.timestamp

/-- What operations without a reset merge: nothing, if no answer arrives while it
is awaited, and otherwise the newest `limit` eligible entries of that answer. -/
inductive Merges (scope : Scope) (limit : ℕ) (ops : List Op) : List Entry → Prop where
  | nothing
      (unanswered : ∀ before ticket answer after,
        ops = before ++ .resolve ticket answer :: after → ¬ Awaits before ticket) :
      Merges scope limit ops []
  | answered {before after ticket answer ordered}
      (split : ops = before ++ .resolve ticket answer :: after)
      (awaits : Awaits before ticket)
      (perm : ordered.Perm (eligible scope (streamed scope before) answer))
      (ascending : Ascending ordered) :
      Merges scope limit ops (newest limit ordered)

/-! ## The watermark -/

/-- The watermark of streamed entries. -/
def oldest (stream : List Entry) : Option ℤ :=
  (stream.map Entry.timestamp).min?

theorem oldest_concat (stream : List Entry) (entry : Entry) :
    oldest (stream ++ [entry]) = some (earliest entry.timestamp (oldest stream)) := by
  cases stream with
  | nil => rfl
  | cons first rest =>
      simp only [oldest, List.cons_append, List.map_cons, List.map_append, List.map_nil,
        List.min?_cons', List.foldl_append, List.foldl_cons, List.foldl_nil, earliest]

/-- A time is before the watermark if it is before each streamed entry. -/
theorem lt_oldest_iff (stream : List Entry) (time : ℤ) :
    (∀ first ∈ oldest stream, time < first) ↔ ∀ other ∈ stream, time < other.timestamp := by
  cases hmin : oldest stream with
  | none =>
      have hnil : stream = [] := by simpa [oldest] using hmin
      simp [hnil]
  | some first =>
      obtain ⟨hmem, hle⟩ := List.min?_eq_some_iff.mp hmin
      obtain ⟨entry, hentry, rfl⟩ := List.mem_map.mp hmem
      simp only [Option.mem_some_iff, forall_eq']
      constructor
      · intro hlt other hother
        exact lt_of_lt_of_le hlt (hle _ (List.mem_map_of_mem hother))
      · intro hall
        exact hall entry hentry

theorem isBeforeStream_eq_true (view : View) (entry : Entry) :
    view.isBeforeStream entry = true ↔ ∀ first ∈ view.watermark, entry.timestamp < first := by
  cases hmark : view.watermark <;> simp [isBeforeStream, hmark]

theorem isBeforeStream_iff {view : View} {stream : List Entry}
    (h : view.watermark = oldest stream) (entry : Entry) :
    view.isBeforeStream entry = true ↔ ∀ other ∈ stream, entry.timestamp < other.timestamp := by
  rw [isBeforeStream_eq_true, h, lt_oldest_iff]

/-- The entries a view accepts from an answer, before the cut to the limit. -/
theorem accepted_eq {view : View} {stream : List Entry} (h : view.watermark = oldest stream)
    (answer : Answer) :
    view.accepted answer =
      newest view.limit (chronological (eligible view.scope stream answer)) := by
  have hfilter : (fun entry => view.isBeforeStream entry && view.scope.contains entry.entity) =
      fun entry => view.scope.contains entry.entity &&
        stream.all fun other => entry.timestamp < other.timestamp := by
    funext entry
    rw [Bool.and_comm, Bool.eq_iff_iff, Bool.and_eq_true, Bool.and_eq_true,
      isBeforeStream_iff h]
    simp
  simp only [accepted, eligible, List.filter_filter, hfilter]

/-! ## One step -/

/-- A fresh view after operations without a reset that merge `history`. -/
structure Reconciles (scope : Scope) (capacity limit : ℕ) (ops : List Op) (history : List Entry)
    (view : View) : Prop where
  scope_eq : view.scope = scope
  capacity_eq : view.retained.capacity = capacity
  limit_eq : view.limit = limit
  entries_eq : view.entries = newest capacity (history ++ streamed scope ops)
  watermark_eq : view.watermark = oldest (streamed scope ops)
  idle_iff : view.state = .idle ↔ ∀ ticket, .activate ticket ∉ ops
  pending_iff : ∀ ticket, view.state = .pending ticket ↔ Awaits ops ticket
  merges : Merges scope limit ops history
  unmerged : view.state ≠ .done → history = []

theorem reconciles_empty (scope : Scope) (capacity : ℕ) (window : Duration) (limit : ℕ) :
    Reconciles scope capacity limit [] [] (View.empty scope capacity window limit) where
  scope_eq := rfl
  capacity_eq := rfl
  limit_eq := rfl
  entries_eq := by simp [entries, View.empty]
  watermark_eq := rfl
  idle_iff := by simp [View.empty]
  pending_iff ticket := by simp [View.empty, not_awaits_nil]
  merges := .nothing (by simp)
  unmerged _ := rfl

theorem Merges.concat {scope : Scope} {limit : ℕ} {ops : List Op} {history : List Entry}
    (h : Merges scope limit ops history) {op : Op}
    (hop : ∀ ticket answer, op = .resolve ticket answer → ¬ Awaits ops ticket) :
    Merges scope limit (ops ++ [op]) history := by
  cases h with
  | nothing unanswered =>
      refine .nothing ?_
      intro before ticket answer after hsplit
      rcases concat_eq_append_cons.mp hsplit with ⟨rfl, hlast, rfl⟩ | ⟨rest, rfl, hrest⟩
      · exact hop ticket answer hlast
      · exact unanswered before ticket answer rest hrest
  | @answered before after ticket answer ordered split awaits perm ascending =>
      have hsplit : ops ++ [op] = before ++ .resolve ticket answer :: (after ++ [op]) := by
        simp [split]
      exact .answered hsplit awaits perm ascending

section Step

variable {scope : Scope} {capacity limit : ℕ} {ops : List Op} {history : List Entry} {view : View}

/-- An operation that streams nothing in scope, starts no query and answers none
leaves everything as it is. -/
theorem Reconciles.concat (h : Reconciles scope capacity limit ops history view) {op : Op}
    (hstream : streamed scope [op] = [])
    (hactivate : ∀ ticket, op = .activate ticket → view.state ≠ .idle)
    (hresolve : ∀ ticket answer, op = .resolve ticket answer → ¬ Awaits ops ticket) :
    Reconciles scope capacity limit (ops ++ [op]) history view where
  scope_eq := h.scope_eq
  capacity_eq := h.capacity_eq
  limit_eq := h.limit_eq
  entries_eq := by rw [streamed_concat_of_eq_nil hstream, h.entries_eq]
  watermark_eq := by rw [streamed_concat_of_eq_nil hstream, h.watermark_eq]
  idle_iff := by
    constructor
    · intro hidle ticket hmem
      rcases List.mem_append.mp hmem with hmem | hmem
      · exact h.idle_iff.mp hidle ticket hmem
      · exact hactivate ticket (List.mem_singleton.mp hmem).symm hidle
    · intro hnone
      refine h.idle_iff.mpr fun ticket hmem => hnone ticket (List.mem_append_left _ hmem)
  pending_iff ticket := by
    rw [h.pending_iff, awaits_concat]
    constructor
    · intro hopen
      exact .inl ⟨hopen, fun answer hop => hresolve ticket answer hop hopen⟩
    · rintro (⟨hopen, -⟩ | ⟨hop, hfirst⟩)
      · exact hopen
      · exact absurd (h.idle_iff.mpr hfirst) (hactivate ticket hop)
  merges := h.merges.concat hresolve
  unmerged := h.unmerged

theorem Reconciles.activate (h : Reconciles scope capacity limit ops history view)
    (ticket : Ticket) :
    Reconciles scope capacity limit (ops ++ [.activate ticket]) history
      (view.activate ticket).1 := by
  by_cases hidle : view.state = .idle
  · have hfirst := h.idle_iff.mp hidle
    have hstream : streamed scope (ops ++ [.activate ticket]) = streamed scope ops :=
      streamed_concat_of_eq_nil rfl ops
    simp only [View.activate, hidle, if_true]
    refine ⟨h.scope_eq, h.capacity_eq, h.limit_eq, ?_, ?_, ?_, ?_, h.merges.concat (by simp), ?_⟩
    · rw [hstream]
      exact h.entries_eq
    · rw [hstream]
      exact h.watermark_eq
    · simp only [reduceCtorEq, false_iff, not_forall]
      exact ⟨ticket, by simp⟩
    · intro other
      have hother : ¬ Awaits ops other := by simp [← h.pending_iff, hidle]
      simp [awaits_concat, hother, hfirst]
    · intro _
      exact h.unmerged (by simp [hidle])
  · simp only [View.activate, hidle, if_false]
    exact h.concat rfl (fun _ _ => hidle) (by simp)

theorem Reconciles.push (h : Reconciles scope capacity limit ops history view) (entry : Entry) :
    Reconciles scope capacity limit (ops ++ [.push entry]) history (view.push entry).1 := by
  by_cases hscope : view.scope.contains entry.entity
  · have hstream : streamed scope (ops ++ [.push entry]) = streamed scope ops ++ [entry] := by
      rw [streamed_append, streamed_push, if_pos (h.scope_eq ▸ hscope)]
    simp only [View.push, hscope, if_true]
    refine ⟨h.scope_eq, by simpa using h.capacity_eq, h.limit_eq, ?_, ?_, ?_, ?_,
      h.merges.concat (by simp), h.unmerged⟩
    · calc
        (view.retained.push entry).toList = newest capacity (view.entries ++ [entry]) := by
          rw [Ring.toList_push, h.capacity_eq]
          rfl
        _ = newest capacity (history ++ streamed scope (ops ++ [.push entry])) := by
          rw [h.entries_eq, newest_newest_append, List.append_assoc, hstream]
    · rw [hstream, oldest_concat, h.watermark_eq]
    · simpa using h.idle_iff
    · intro ticket
      simpa [awaits_concat] using h.pending_iff ticket
  · simp only [View.push, hscope, Bool.false_eq_true, if_false]
    refine h.concat ?_ (by simp) (by simp)
    rw [streamed_push, if_neg (h.scope_eq ▸ hscope)]

/-- An awaited answer puts its eligible entries in front of the streamed ones. -/
theorem Reconciles.resolve_of_awaits (h : Reconciles scope capacity limit ops history view)
    {ticket : Ticket} (hopen : Awaits ops ticket) (answer : Answer) :
    Reconciles scope capacity limit (ops ++ [.resolve ticket answer]) (view.accepted answer)
      (view.resolve ticket answer).1 := by
  have hpending := (h.pending_iff ticket).mpr hopen
  have hnone : history = [] := h.unmerged (by simp [hpending])
  have hstream : streamed scope (ops ++ [.resolve ticket answer]) = streamed scope ops :=
    streamed_concat_of_eq_nil rfl ops
  have haccepted := accepted_eq h.watermark_eq answer
  rw [h.scope_eq, h.limit_eq] at haccepted
  have hentries : (view.resolve ticket answer).1.entries = newest capacity
      (view.accepted answer ++ streamed scope (ops ++ [.resolve ticket answer])) := by
    rw [view.entries_resolve hpending, h.capacity_eq, h.entries_eq, hnone, List.nil_append,
      newest_append_newest, hstream]
  simp only [View.resolve, hpending, if_true] at hentries ⊢
  refine ⟨h.scope_eq, by simpa using h.capacity_eq, h.limit_eq, hentries, ?_, ?_, ?_, ?_, ?_⟩
  · rw [hstream]
    exact h.watermark_eq
  · have hsome : ¬ ∀ other, .activate other ∉ ops := by simp [← h.idle_iff, hpending]
    simpa using hsome
  · intro other
    simp only [reduceCtorEq, false_iff, awaits_concat, false_and, or_false]
    rintro ⟨hother, hanswer⟩
    obtain rfl : ticket = other := by simpa [hpending] using (h.pending_iff other).mpr hother
    exact hanswer answer rfl
  · rw [haccepted]
    exact .answered rfl hopen (chronological_perm _) (ascending_chronological _)
  · simp

/-- An operation that neither resets nor delivers an awaited answer keeps the
merged history. -/
theorem Reconciles.step_of_not_awaits (h : Reconciles scope capacity limit ops history view)
    {op : Op} (hop : op ≠ .reset)
    (hanswer : ∀ ticket answer, op = .resolve ticket answer → ¬ Awaits ops ticket) :
    Reconciles scope capacity limit (ops ++ [op]) history (view.step op) := by
  cases op with
  | activate ticket => exact h.activate ticket
  | push entry => exact h.push entry
  | resolve ticket answer =>
      have hstate : view.state ≠ .pending ticket := fun hpending =>
        hanswer ticket answer rfl ((h.pending_iff ticket).mp hpending)
      simp only [View.step, view.resolve_of_not_pending hstate answer]
      exact h.concat rfl (by simp) hanswer
  | reset => exact absurd rfl hop

theorem Reconciles.step (h : Reconciles scope capacity limit ops history view) {op : Op}
    (hop : op ≠ .reset) :
    ∃ merged, Reconciles scope capacity limit (ops ++ [op]) merged (view.step op) := by
  by_cases hanswer : ∀ ticket answer, op = .resolve ticket answer → ¬ Awaits ops ticket
  · exact ⟨history, h.step_of_not_awaits hop hanswer⟩
  · push Not at hanswer
    obtain ⟨ticket, answer, rfl, hopen⟩ := hanswer
    exact ⟨view.accepted answer, h.resolve_of_awaits hopen answer⟩

theorem Reconciles.run_of_done (h : Reconciles scope capacity limit ops history view)
    (hdone : view.state = .done) {more : List Op} (hmore : .reset ∉ more) :
    Reconciles scope capacity limit (ops ++ more) history (view.run more) := by
  induction more generalizing ops view with
  | nil => simpa using h
  | cons op more ih =>
      simp only [List.mem_cons, not_or] at hmore
      have hstep : Reconciles scope capacity limit (ops ++ [op]) history (view.step op) :=
        h.step_of_not_awaits (Ne.symm hmore.1) fun ticket _ _ => by
          simp [← h.pending_iff, hdone]
      have hstate : (view.step op).state = .done :=
        state_step_of_done view hdone (Ne.symm hmore.1)
      simpa using ih hstep hstate hmore.2

end Step

/-! ## Whole runs -/

theorem exists_reconciles_of_reset_notMem (scope : Scope) (capacity : ℕ) (window : Duration)
    (limit : ℕ) (ops : List Op) (h : .reset ∉ ops) :
    ∃ history, Reconciles scope capacity limit ops history
      ((View.empty scope capacity window limit).run ops) := by
  induction ops using List.reverseRecOn with
  | nil => exact ⟨[], reconciles_empty scope capacity window limit⟩
  | append_singleton ops op ih =>
      obtain ⟨history, hrec⟩ := ih fun hmem => h (List.mem_append_left _ hmem)
      have hop : op ≠ .reset := by
        rintro rfl
        exact h (by simp)
      rw [run_append]
      exact hrec.step hop

/-- Every run reconciles the operations since its last reset. -/
theorem exists_reconciles (scope : Scope) (capacity : ℕ) (window : Duration) (limit : ℕ)
    (ops : List Op) :
    ∃ history, Reconciles scope capacity limit (sinceReset ops) history
      ((View.empty scope capacity window limit).run ops) := by
  rw [← run_sinceReset]
  exact exists_reconciles_of_reset_notMem scope capacity window limit _
    (reset_notMem_sinceReset ops)

/-- After any run, a view shows the newest of the merged history followed by
everything streamed since the last reset, evicted entries included. Its watermark
is the earliest streamed time, and operations that do not concern it change
nothing. -/
theorem entries_run (scope : Scope) (capacity : ℕ) (window : Duration) (limit : ℕ)
    (ops : List Op) :
    let view := (View.empty scope capacity window limit).run ops
    let recent := sinceReset ops
    (∃ history, Merges scope limit recent history ∧
      view.entries = newest capacity (history ++ streamed scope recent)) ∧
    view.watermark = oldest (streamed scope recent) ∧
    (∀ ticket, view.state = .pending ticket ↔ Awaits recent ticket) ∧
    (∀ ticket answer, (view.resolve ticket answer).2.isSome = true ↔ Awaits recent ticket) ∧
    (∀ entry, scope.contains entry.entity = false → view.push entry = (view, false)) ∧
    ∀ ticket answer, ¬ Awaits recent ticket → view.resolve ticket answer = (view, none) := by
  intro view recent
  obtain ⟨history, h⟩ := exists_reconciles scope capacity window limit ops
  refine ⟨⟨history, h.merges, h.entries_eq⟩, h.watermark_eq, h.pending_iff, ?_, ?_, ?_⟩
  · intro ticket answer
    exact (isSome_resolve view ticket answer).trans (h.pending_iff ticket)
  · intro entry hscope
    exact view.push_of_foreign (h.scope_eq.symm ▸ hscope)
  · intro ticket answer hopen
    exact view.resolve_of_not_pending (fun hpending => hopen ((h.pending_iff ticket).mp hpending))
      answer

end Dashboard.Log.View
