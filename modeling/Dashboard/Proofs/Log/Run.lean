import Dashboard.Log.View
import Dashboard.Proofs.Retention

/-! # Runs of a view

A run is a list of operations. What a run has streamed, and which answer it
leaves the view waiting for, is read off that list alone. -/

namespace Dashboard.Log.View

/-! ## Operations -/

theorem push_of_foreign (view : View) {entry : Entry}
    (h : view.scope.contains entry.entity = false) : view.push entry = (view, false) := by
  simp [push, h]

theorem resolve_of_not_pending (view : View) {ticket : Ticket} (h : view.state ≠ .pending ticket)
    (answer : Answer) : view.resolve ticket answer = (view, none) := by
  simp [resolve, h]

theorem isSome_resolve (view : View) (ticket : Ticket) (answer : Answer) :
    (view.resolve ticket answer).2.isSome = true ↔ view.state = .pending ticket := by
  simp only [resolve]
  split <;> simp [*]

theorem merged_resolve (view : View) {ticket : Ticket} (h : view.state = .pending ticket)
    (answer : Answer) :
    (view.resolve ticket answer).2 = some (view.accepted answer).length := by
  simp [resolve, h]

/-- Merging puts the accepted entries in front of the entries a view holds. -/
theorem entries_resolve (view : View) {ticket : Ticket} (h : view.state = .pending ticket)
    (answer : Answer) :
    (view.resolve ticket answer).1.entries =
      newest view.retained.capacity (view.accepted answer ++ view.entries) := by
  calc
    (view.resolve ticket answer).1.entries =
        (((Ring.empty view.retained.capacity).extend (view.accepted answer)).extend
          view.entries).toList := by
      simp [resolve, h, entries]
    _ = newest view.retained.capacity
          (newest view.retained.capacity (view.accepted answer) ++ view.entries) := by
      simp only [Ring.toList_extend, Ring.capacity_extend, Ring.capacity_empty,
        Ring.toList_empty, List.nil_append]
    _ = newest view.retained.capacity (view.accepted answer ++ view.entries) :=
      newest_newest_append _ _ _

/-- Something that happens to a view. -/
inductive Op where
  | activate (ticket : Ticket)
  | push (entry : Entry)
  | resolve (ticket : Ticket) (answer : Answer)
  | reset
deriving DecidableEq

/-- A view after one operation. -/
def step (view : View) : Op → View
  | .activate ticket => (view.activate ticket).1
  | .push entry => (view.push entry).1
  | .resolve ticket answer => (view.resolve ticket answer).1
  | .reset => view.reset

/-- A view after several operations, first to last. -/
def run (view : View) (ops : List Op) : View :=
  ops.foldl step view

@[simp] theorem run_nil (view : View) : view.run [] = view := rfl

@[simp] theorem run_cons (view : View) (op : Op) (ops : List Op) :
    view.run (op :: ops) = (view.step op).run ops := rfl

@[simp] theorem run_append (view : View) (front back : List Op) :
    view.run (front ++ back) = (view.run front).run back :=
  List.foldl_append

theorem concat_eq_append_cons {α : Type*} {xs front back : List α} {last x : α} :
    xs ++ [last] = front ++ x :: back ↔
      (xs = front ∧ last = x ∧ back = []) ∨
        ∃ rest, back = rest ++ [last] ∧ xs = front ++ x :: rest := by
  constructor
  · intro h
    rcases List.eq_nil_or_concat back with rfl | ⟨rest, y, rfl⟩
    · obtain ⟨hxs, hlast⟩ := List.append_inj' h rfl
      exact .inl ⟨hxs, by simpa using hlast, rfl⟩
    · have hcut : xs ++ [last] = (front ++ x :: rest) ++ [y] := by simpa using h
      obtain ⟨hxs, hlast⟩ := List.append_inj' hcut rfl
      exact .inr ⟨rest, by simpa using hlast.symm, hxs⟩
  · rintro (⟨rfl, rfl, rfl⟩ | ⟨rest, rfl, rfl⟩)
    · rfl
    · simp

/-! ## Reading a run -/

/-- Operations since the last reset. -/
def sinceReset (ops : List Op) : List Op :=
  ops.rtakeWhile fun op => op ≠ .reset

/-- The entry an operation streams, whatever its scope. -/
def Op.entry? : Op → Option Entry
  | .push entry => some entry
  | _ => none

/-- Entries in scope that are streamed by some operations, in order. -/
def streamed (scope : Scope) (ops : List Op) : List Entry :=
  (ops.filterMap Op.entry?).filter fun entry => scope.contains entry.entity

/-- Operations leave a view waiting for the answer to a ticket: the first
activation among them carries it, and no answer to it follows. -/
def Awaits (ops : List Op) (ticket : Ticket) : Prop :=
  ∃ before after, ops = before ++ .activate ticket :: after ∧
    (∀ other, .activate other ∉ before) ∧ ∀ answer, .resolve ticket answer ∉ after

@[simp] theorem streamed_nil (scope : Scope) : streamed scope [] = [] := rfl

@[simp] theorem streamed_append (scope : Scope) (front back : List Op) :
    streamed scope (front ++ back) = streamed scope front ++ streamed scope back := by
  simp [streamed]

theorem streamed_concat_of_eq_nil {scope : Scope} {op : Op} (h : streamed scope [op] = [])
    (ops : List Op) : streamed scope (ops ++ [op]) = streamed scope ops := by
  rw [streamed_append, h, List.append_nil]

theorem streamed_push (scope : Scope) (entry : Entry) :
    streamed scope [.push entry] = if scope.contains entry.entity then [entry] else [] := by
  simp [streamed, Op.entry?, List.filter_cons]

@[simp] theorem sinceReset_concat_reset (ops : List Op) : sinceReset (ops ++ [.reset]) = [] :=
  List.rtakeWhile_concat_neg _ _ _ (by simp)

theorem sinceReset_concat (ops : List Op) {op : Op} (h : op ≠ .reset) :
    sinceReset (ops ++ [op]) = sinceReset ops ++ [op] :=
  List.rtakeWhile_concat_pos _ _ _ (by simpa using h)

theorem reset_notMem_sinceReset (ops : List Op) : .reset ∉ sinceReset ops := by
  intro h
  simpa using List.mem_rtakeWhile_imp h

theorem not_awaits_nil (ticket : Ticket) : ¬ Awaits [] ticket := by
  rintro ⟨before, after, h, -⟩
  simp at h

/-- One more operation ends the wait by answering it, and starts one only as the
first activation. -/
theorem awaits_concat (ops : List Op) (op : Op) (ticket : Ticket) :
    Awaits (ops ++ [op]) ticket ↔
      (Awaits ops ticket ∧ ∀ answer, op ≠ .resolve ticket answer) ∨
        (op = .activate ticket ∧ ∀ other, .activate other ∉ ops) := by
  constructor
  · rintro ⟨before, after, hsplit, hfirst, hopen⟩
    rcases concat_eq_append_cons.mp hsplit with ⟨rfl, rfl, rfl⟩ | ⟨rest, rfl, rfl⟩
    · exact .inr ⟨rfl, hfirst⟩
    · refine .inl ⟨⟨before, rest, rfl, hfirst, ?_⟩, ?_⟩
      · intro answer hmem
        exact hopen answer (List.mem_append_left _ hmem)
      · rintro answer rfl
        exact hopen answer (by simp)
  · rintro (⟨⟨before, after, rfl, hfirst, hopen⟩, hop⟩ | ⟨rfl, hfirst⟩)
    · refine ⟨before, after ++ [op], by simp, hfirst, ?_⟩
      intro answer hmem
      rcases List.mem_append.mp hmem with hmem | hmem
      · exact hopen answer hmem
      · exact hop answer (List.mem_singleton.mp hmem).symm
    · exact ⟨ops, [], rfl, hfirst, by simp⟩

/-! ## Fresh views -/

theorem reset_eq_empty (view : View) :
    view.reset = View.empty view.scope view.retained.capacity view.window view.limit := rfl

/-- An operation keeps the scope, the capacity, the window and the limit. -/
theorem reset_step (view : View) (op : Op) : (view.step op).reset = view.reset := by
  cases op with
  | activate ticket =>
      simp only [step, activate]
      split <;> rfl
  | push entry =>
      simp only [step, push]
      split
      · simp [reset_eq_empty]
      · rfl
  | resolve ticket answer =>
      simp only [step, resolve]
      split
      · simp [reset_eq_empty]
      · rfl
  | reset => rfl

/-- A query that has been issued is not issued again until a reset. -/
theorem state_step_ne_idle (view : View) (h : view.state ≠ .idle) {op : Op} (hop : op ≠ .reset) :
    (view.step op).state ≠ .idle := by
  cases op with
  | activate ticket => simp [step, activate, h]
  | push entry =>
      simp only [step, push]
      split <;> exact h
  | resolve ticket answer =>
      simp only [step, resolve]
      split
      · simp
      · exact h
  | reset => exact absurd rfl hop

theorem state_step_of_done (view : View) (h : view.state = .done) {op : Op} (hop : op ≠ .reset) :
    (view.step op).state = .done := by
  cases op with
  | activate ticket => simp [step, activate, h]
  | push entry =>
      simp only [step, push]
      split <;> exact h
  | resolve ticket answer => simp [step, resolve, h]
  | reset => exact absurd rfl hop

theorem scope_step (view : View) (op : Op) : (view.step op).scope = view.scope := by
  change (view.step op).reset.scope = view.reset.scope
  rw [reset_step]

theorem reset_run (view : View) (ops : List Op) : (view.run ops).reset = view.reset := by
  induction ops generalizing view with
  | nil => rfl
  | cons op ops ih => rw [run_cons, ih, reset_step]

/-- A run from a fresh view depends on the operations since the last reset only. -/
theorem run_sinceReset (scope : Scope) (capacity : ℕ) (window : Duration) (limit : ℕ)
    (ops : List Op) :
    (View.empty scope capacity window limit).run (sinceReset ops) =
      (View.empty scope capacity window limit).run ops := by
  induction ops using List.reverseRecOn with
  | nil => rfl
  | append_singleton ops op ih =>
      by_cases hop : op = .reset
      · subst hop
        rw [sinceReset_concat_reset, run_append]
        exact (reset_run (View.empty scope capacity window limit) ops).symm
      · rw [sinceReset_concat ops hop, run_append, run_append, ih]

/-! ## A concrete view -/

/-- A line of the entity `web`. -/
def webLine (timestamp : ℤ) (message : String) : Entry :=
  ⟨timestamp, ⟨"web"⟩, .stdout, message⟩

/-- A fresh view of the entity `web`. -/
def webView : View :=
  View.empty (.entity ⟨"web"⟩) 10 Duration.zero 100

end Dashboard.Log.View
