import Dashboard.Proofs.Log.Reconciliation
import Mathlib.Data.List.Permutation

/-! # Arrival of the answer

Lines newer than everything an answer brings do not care whether they are streamed
before it or after it: the watermark they leave lets the same entries through, and
what is evicted in between would have been evicted anyway. -/

namespace Dashboard.Log.View

/-! ## Streaming several lines -/

/-- A view after several streamed lines. -/
def stream (view : View) (lines : List Entry) : View :=
  view.run (lines.map .push)

/-- Those of some lines that belong to a view. -/
def inScope (view : View) (lines : List Entry) : List Entry :=
  lines.filter fun line => view.scope.contains line.entity

/-- A watermark after several lines. -/
def lowered (mark : Option ℤ) (lines : List Entry) : Option ℤ :=
  lines.foldl (fun mark line => some (earliest line.timestamp mark)) mark

theorem stream_append (view : View) (front back : List Entry) :
    view.stream (front ++ back) = (view.stream front).stream back := by
  simp [stream]

/-- Streaming lowers the watermark and extends the ring by the lines in scope;
nothing else changes. -/
theorem stream_eq (view : View) (lines : List Entry) :
    view.stream lines =
      { view with
        watermark := lowered view.watermark (view.inScope lines)
        retained := view.retained.extend (view.inScope lines) } := by
  induction lines generalizing view with
  | nil => rfl
  | cons line lines ih =>
      have hstep : view.stream (line :: lines) = (view.push line).1.stream lines := rfl
      rw [hstep, ih]
      cases hscope : view.scope.contains line.entity with
      | true => simp [push, inScope, hscope, lowered, Ring.extend]
      | false => simp [push, inScope, hscope]

theorem entries_stream (view : View) (lines : List Entry) :
    (view.stream lines).entries =
      newest view.retained.capacity (view.entries ++ view.inScope lines) := by
  rw [stream_eq]
  exact view.retained.toList_extend _

theorem state_stream (view : View) (lines : List Entry) :
    (view.stream lines).state = view.state := by
  rw [stream_eq]

theorem capacity_stream (view : View) (lines : List Entry) :
    (view.stream lines).retained.capacity = view.retained.capacity := by
  rw [stream_eq]
  exact Ring.capacity_extend _ _

/-! ## The watermark of newer lines -/

/-- Lines newer than an entry do not tell whether it is before the watermark. -/
theorem lt_lowered_iff {time : ℤ} {lines : List Entry}
    (h : ∀ line ∈ lines, time < line.timestamp) (mark : Option ℤ) :
    (∀ first ∈ lowered mark lines, time < first) ↔ ∀ first ∈ mark, time < first := by
  induction lines generalizing mark with
  | nil => rfl
  | cons line lines ih =>
      -- Lowering to a newer line leaves `time` on the side it is on.
      have hline : time < line.timestamp := h line List.mem_cons_self
      have hrest := ih (fun other hother => h other (List.mem_cons_of_mem _ hother))
        (some (earliest line.timestamp mark))
      refine hrest.trans ?_
      cases mark with
      | none => simp [earliest, hline]
      | some first =>
          simp only [Option.mem_some_iff, forall_eq', earliest]
          omega

/-- A view accepts the same entries of an answer before and after lines that are
newer than all of them. -/
theorem accepted_stream (view : View) (answer : Answer) {lines : List Entry}
    (h : ∀ line ∈ view.inScope lines, ∀ old ∈ view.inScope answer.found,
      old.timestamp < line.timestamp) :
    (view.stream lines).accepted answer = view.accepted answer := by
  have hscope : (view.stream lines).scope = view.scope := by rw [stream_eq]
  have hlimit : (view.stream lines).limit = view.limit := by rw [stream_eq]
  have hmark : (view.stream lines).watermark = lowered view.watermark (view.inScope lines) := by
    rw [stream_eq]
  have hsame : (view.inScope answer.found).filter (view.stream lines).isBeforeStream =
      (view.inScope answer.found).filter view.isBeforeStream := by
    refine List.filter_congr fun old hold => ?_
    rw [Bool.eq_iff_iff, isBeforeStream_eq_true, isBeforeStream_eq_true, hmark]
    exact lt_lowered_iff (fun line hline => h line hline old hold) view.watermark
  simp only [inScope] at hsame
  simp only [accepted, hscope, hlimit, hsame]

/-! ## The answer between lines -/

theorem watermark_resolve (view : View) (ticket : Ticket) (answer : Answer) :
    (view.resolve ticket answer).1.watermark = view.watermark := by
  simp only [resolve]
  split <;> rfl

theorem inScope_resolve (view : View) (ticket : Ticket) (answer : Answer) (lines : List Entry) :
    (view.resolve ticket answer).1.inScope lines = view.inScope lines := by
  simp only [inScope, resolve]
  split <;> rfl

theorem capacity_resolve (view : View) (ticket : Ticket) (answer : Answer) :
    (view.resolve ticket answer).1.retained.capacity = view.retained.capacity := by
  simp only [resolve]
  split
  · simp
  · rfl

theorem state_resolve (view : View) {ticket : Ticket} (h : view.state = .pending ticket)
    (answer : Answer) : (view.resolve ticket answer).1.state = .done := by
  simp [resolve, h]

/-- An answer that comes before some newer lines is merged just as if it had come
after them. -/
theorem resolve_stream (view : View) {ticket : Ticket} (hstate : view.state = .pending ticket)
    (answer : Answer) {lines : List Entry}
    (h : ∀ line ∈ view.inScope lines, ∀ old ∈ view.inScope answer.found,
      old.timestamp < line.timestamp) :
    let early := view.resolve ticket answer
    let late := (view.stream lines).resolve ticket answer
    (early.1.stream lines).entries = late.1.entries ∧
      (early.1.stream lines).watermark = late.1.watermark ∧
      (early.1.stream lines).state = .done ∧ late.1.state = .done ∧
      early.2 = some (view.accepted answer).length ∧ late.2 = early.2 := by
  intro early late
  have hwaiting : (view.stream lines).state = .pending ticket := by rw [state_stream, hstate]
  have haccepted := view.accepted_stream answer h
  refine ⟨?_, ?_, ?_, (view.stream lines).state_resolve hwaiting answer,
    view.merged_resolve hstate answer, ?_⟩
  · calc
      (early.1.stream lines).entries =
          newest view.retained.capacity
            (newest view.retained.capacity (view.accepted answer ++ view.entries) ++
              view.inScope lines) := by
        rw [entries_stream, inScope_resolve, capacity_resolve, view.entries_resolve hstate]
      _ = newest view.retained.capacity
            (view.accepted answer ++
              newest view.retained.capacity (view.entries ++ view.inScope lines)) := by
        rw [newest_newest_append, newest_append_newest, List.append_assoc]
      _ = late.1.entries := by
        rw [(view.stream lines).entries_resolve hwaiting, haccepted, entries_stream,
          capacity_stream]
  · simp only [early, late, watermark_resolve, stream_eq, inScope_resolve]
  · rw [state_stream]
    exact view.state_resolve hstate answer
  · rw [(view.stream lines).merged_resolve hwaiting, view.merged_resolve hstate, haccepted]

/-- When an answer arrives among lines does not matter, as long as those that come
after it are newer than it: pushing some lines, merging the answer and pushing the
newer ones shows the same as pushing all of them and merging last. -/
theorem resolve_between_eq_last (view : View) {ticket : Ticket}
    (hstate : view.state = .pending ticket) (answer : Answer) (front back : List Entry)
    (hnewer : ∀ line ∈ back, view.scope.contains line.entity = true →
      ∀ old ∈ answer.found, view.scope.contains old.entity = true →
        old.timestamp < line.timestamp) :
    let between := (view.stream front).resolve ticket answer
    let last := (view.stream (front ++ back)).resolve ticket answer
    (between.1.stream back).entries = last.1.entries ∧
      (between.1.stream back).watermark = last.1.watermark ∧
      ((between.1.stream back).state = .done ∧ last.1.state = .done) ∧
      ∃ merged, between.2 = some merged ∧ last.2 = some merged := by
  intro between last
  have hwaiting : (view.stream front).state = .pending ticket := by rw [state_stream, hstate]
  have hback : ∀ line ∈ (view.stream front).inScope back,
      ∀ old ∈ (view.stream front).inScope answer.found, old.timestamp < line.timestamp := by
    have hscope : (view.stream front).scope = view.scope := by rw [stream_eq]
    simp only [inScope, hscope, List.mem_filter, and_imp]
    intro line hline hin old hold hown
    exact hnewer line hline hin old hold hown
  obtain ⟨hentries, hmark, hdone, hlast, hcount, hsame⟩ :=
    (view.stream front).resolve_stream hwaiting answer hback
  rw [← stream_append] at hentries hmark hlast hsame
  exact ⟨hentries, hmark, ⟨hdone, hlast⟩, _, hcount, hsame.trans hcount⟩

/-- The newer lines set the watermark of a small view and leave room for one line. Either way the
answer counts both its entries, and the later one is shown. -/
theorem resolve_between_eq_last_of_full :
    let view := (View.empty (.entity ⟨"web"⟩) 4 Duration.zero 100).run [.activate ⟨0⟩]
    let answer := .entries [webLine 6 "second", webLine 5 "first"]
    let back := [webLine 8 "a", webLine 7 "b", webLine 9 "c"]
    let between := view.resolve ⟨0⟩ answer
    let last := (view.stream back).resolve ⟨0⟩ answer
    view.state = .pending ⟨0⟩ ∧
      (∀ line ∈ back, view.scope.contains line.entity = true →
        ∀ old ∈ answer.found, view.scope.contains old.entity = true →
          old.timestamp < line.timestamp) ∧
      (between.1.stream back).entries = last.1.entries ∧
      last.1.entries = [webLine 6 "second", webLine 8 "a", webLine 7 "b", webLine 9 "c"] ∧
      between.2 = some 2 ∧ last.2 = some 2 := by
  intro view answer back between last
  have hstate : view.state = .pending ⟨0⟩ := by decide
  have hnewer : ∀ line ∈ back, view.scope.contains line.entity = true →
      ∀ old ∈ answer.found, view.scope.contains old.entity = true →
        old.timestamp < line.timestamp := by decide
  have hshown : last.1.entries =
      [webLine 6 "second", webLine 8 "a", webLine 7 "b", webLine 9 "c"] := by cbv
  have hcount : last.2 = some 2 := by cbv
  obtain ⟨hentries, -, -, merged, hbetween, hlast⟩ :=
    resolve_between_eq_last view hstate answer [] back hnewer
  exact ⟨hstate, hnewer, hentries, hshown, hbetween.trans (hlast.symm.trans hcount), hcount⟩

end Dashboard.Log.View
