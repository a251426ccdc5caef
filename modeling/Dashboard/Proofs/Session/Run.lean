import Dashboard.Proofs.Log.Run
import Dashboard.Session

/-! # Runs of a session

Operations on a session act on each view by itself: what happens to the view of
one scope is decided by that view, the operation and the next ticket. -/

namespace Dashboard.Session

/-- Something that happens to a session. -/
inductive Op where
  | activate (scope : Log.Scope)
  | deactivate (scope : Log.Scope)
  | pushLog (entry : Log.Entry)
  | resolve (scope : Log.Scope) (ticket : Log.Ticket) (answer : Log.Answer)
  | apply (now : ℕ) (event : Event)
  | pushSample (entity : EntityId) (metric : Metric) (value : Float) (now : ℕ)
  | sweep (now : ℕ) (maxIdle : Duration)

/-- A session after one operation. -/
def step (session : Session) : Op → Session
  | .activate scope => (session.activate scope).1
  | .deactivate scope => (session.deactivate scope).1
  | .pushLog entry => (session.pushLog entry).1
  | .resolve scope ticket answer => (session.resolve scope ticket answer).1
  | .apply now event => session.apply now event
  | .pushSample entity metric value now => session.pushSample entity metric value now
  | .sweep now maxIdle => (session.sweep now maxIdle).1

/-- A session after several operations, first to last. -/
def run (session : Session) (ops : List Op) : Session :=
  ops.foldl step session

@[simp] theorem run_nil (session : Session) : session.run [] = session := rfl

@[simp] theorem run_cons (session : Session) (op : Op) (ops : List Op) :
    session.run (op :: ops) = (session.step op).run ops := rfl

@[simp] theorem run_append (session : Session) (front back : List Op) :
    session.run (front ++ back) = (session.run front).run back :=
  List.foldl_append

/-! ## Operations on one view -/

/-- Whether an operation opens the view of a scope, if it is closed. -/
def Op.opens (scope : Log.Scope) : Op → Bool
  | .activate other => other = scope
  | _ => false

/-- Whether an operation closes the view of a scope. -/
def Op.closes (scope : Log.Scope) : Op → Bool
  | .deactivate other => other = scope
  | _ => false

/-- What an operation does to the open view of a scope. -/
def Op.onView? (scope : Log.Scope) (ticket : Log.Ticket) : Op → Option Log.View.Op
  | .activate other => if other = scope then some (.activate ticket) else none
  | .pushLog entry => some (.push entry)
  | .apply _ (.log entry) => some (.push entry)
  | .resolve other ticket answer => if other = scope then some (.resolve ticket answer) else none
  | .apply _ (.backfill ticket other answer) =>
    if other = scope then some (.resolve ticket answer) else none
  | _ => none

variable (session : Session) (scope : Log.Scope)

theorem getElem?_views : session.views[scope]? = session.view? scope := rfl

theorem view?_activate (other : Log.Scope) :
    (session.activate other).1.view? scope =
      if other = scope then
        some (((session.view? scope).getD (session.newView scope)).step
          (.activate ⟨session.nextTicket⟩))
      else session.view? scope := by
  simp only [activate, view?, Std.TreeMap.getElem?_insert, Std.compare_eq_iff_eq]
  split
  · next h =>
    subst h
    rfl
  · rfl

theorem view?_deactivate (other : Log.Scope) :
    (session.deactivate other).1.view? scope =
      if other = scope then none else session.view? scope := by
  simp only [deactivate, view?, Std.TreeMap.getElem?_erase, Std.compare_eq_iff_eq]

theorem view?_pushLog (entry : Log.Entry) :
    (session.pushLog entry).1.view? scope =
      (session.view? scope).map fun view => view.step (.push entry) := by
  simp only [pushLog, view?, Std.TreeMap.getElem?_map]
  rfl

theorem view?_resolve (other : Log.Scope) (ticket : Log.Ticket) (answer : Log.Answer) :
    (session.resolve other ticket answer).1.view? scope =
      if other = scope then
        (session.view? scope).map fun view => view.step (.resolve ticket answer)
      else session.view? scope := by
  simp only [resolve, view?]
  cases hview : session.views[other]? with
  | none =>
      simp only
      split
      · next h =>
        subst h
        simp [hview]
      · rfl
  | some view =>
      simp only [Std.TreeMap.getElem?_insert, Std.compare_eq_iff_eq]
      split
      · next h =>
        subst h
        simp [hview, Log.View.step]
      · rfl

/-! ## One step -/

variable {session scope} {op : Op} {view : Log.View}

theorem view?_step_of_closes (h : op.closes scope = true) :
    (session.step op).view? scope = none := by
  cases op with
  | deactivate other =>
      have hother : other = scope := by simpa [Op.closes] using h
      simp [step, view?_deactivate, hother]
  | _ => simp [Op.closes] at h

/-- A closed view is opened by its activation only, and asks for its history at
once. -/
theorem view?_step_of_none (h : session.view? scope = none) :
    (session.step op).view? scope =
      if op.opens scope then
        some ((session.newView scope).step (.activate ⟨session.nextTicket⟩))
      else none := by
  cases op with
  | activate other => simp [step, view?_activate, Op.opens, h]
  | deactivate other => simp [step, view?_deactivate, Op.opens, h]
  | pushLog entry => simp [step, view?_pushLog, Op.opens, h]
  | resolve other ticket answer => simp [step, view?_resolve, Op.opens, h]
  | apply now event =>
      cases event with
      | sample entity metric value => simpa [step, apply, pushSample, view?, Op.opens] using h
      | log entry => simp [step, apply, view?_pushLog, Op.opens, h]
      | backfill ticket other answer => simp [step, apply, view?_resolve, Op.opens, h]
  | pushSample entity metric value now => simpa [step, pushSample, view?, Op.opens] using h
  | sweep now maxIdle => simpa [step, sweep, view?, Op.opens] using h

/-- An open view sees the operations that concern it, and no others. -/
theorem view?_step_of_some (h : session.view? scope = some view)
    (hop : op.closes scope = false) :
    (session.step op).view? scope =
      some ((op.onView? scope ⟨session.nextTicket⟩).elim view view.step) := by
  cases op with
  | activate other =>
      simp only [step, view?_activate, Op.onView?, h]
      split <;> rfl
  | deactivate other =>
      have hother : other ≠ scope := by simpa [Op.closes] using hop
      simp [step, view?_deactivate, Op.onView?, h, hother]
  | pushLog entry => simp [step, view?_pushLog, Op.onView?, h]
  | resolve other ticket answer =>
      simp only [step, view?_resolve, Op.onView?, h]
      split <;> rfl
  | apply now event =>
      cases event with
      | sample entity metric value => exact h
      | log entry => simp [step, apply, view?_pushLog, Op.onView?, h]
      | backfill ticket other answer =>
          simp only [step, apply, view?_resolve, Op.onView?, h]
          split <;> rfl
  | pushSample entity metric value now => exact h
  | sweep now maxIdle => exact h

theorem onView?_ne_reset (ticket : Log.Ticket) : op.onView? scope ticket ≠ some .reset := by
  unfold Op.onView?
  split <;> (try split) <;> simp

/-- Open views are kept under their own scope, and have asked for their history. -/
def Filed (session : Session) : Prop :=
  ∀ scope view, session.view? scope = some view → view.scope = scope ∧ view.state ≠ .idle

theorem filed_start (config : SessionConfig) : (start config).Filed := by
  intro scope view h
  simp [start, view?] at h

theorem Filed.step (h : session.Filed) (op : Op) : (session.step op).Filed := by
  intro scope view hview
  cases hclose : op.closes scope with
  | true => simp [view?_step_of_closes hclose] at hview
  | false =>
      cases hbefore : session.view? scope with
      | none =>
          rw [view?_step_of_none hbefore] at hview
          split at hview
          · obtain rfl := Option.some.inj hview
            simp [newView, Log.View.step, Log.View.activate, Log.View.empty]
          · simp at hview
      | some before =>
          obtain ⟨hscope, hstate⟩ := h scope before hbefore
          rw [view?_step_of_some hbefore hclose] at hview
          obtain rfl := Option.some.inj hview
          cases hlocal : op.onView? scope ⟨session.nextTicket⟩ with
          | none => exact ⟨hscope, hstate⟩
          | some action =>
              have hreset : action ≠ .reset := by
                rintro rfl
                exact onView?_ne_reset _ hlocal
              exact ⟨(before.scope_step action).trans hscope,
                before.state_step_ne_idle hstate hreset⟩

theorem Filed.run (h : session.Filed) (ops : List Op) : (session.run ops).Filed := by
  induction ops generalizing session with
  | nil => exact h
  | cons op ops ih => exact ih (h.step op)

end Dashboard.Session
