import Dashboard.Proofs.Session.Run
import Mathlib.Data.List.Nodup

/-! # Tickets

Every request of a session carries a ticket of its own, and an answer is merged
only by the view that was issued its ticket. A view that is closed and opened
again is issued a new ticket, so an answer that comes late finds nobody. -/

namespace Dashboard.Session

/-! ## What a run issues and merges -/

/-- The answer an operation delivers, with the scope and the ticket it is for. -/
def Op.delivery? : Op → Option (Log.Scope × Log.Ticket × Log.Answer)
  | .resolve scope ticket answer => some (scope, ticket, answer)
  | .apply _ (.backfill ticket scope answer) => some (scope, ticket, answer)
  | _ => none

/-- Scope and ticket of the request an operation issues. -/
def issue? (session : Session) : Op → Option (Log.Scope × Log.Ticket)
  | .activate scope =>
    (session.activate scope).2.map fun request => (request.scope, request.ticket)
  | _ => none

/-- Scope and ticket of the answer an operation merges. -/
def merge? (session : Session) (op : Op) : Option (Log.Scope × Log.Ticket) :=
  match op.delivery? with
  | some (scope, ticket, answer) =>
    (session.resolve scope ticket answer).2.map fun _ => (scope, ticket)
  | none => none

/-- What is observed at the single steps of a run, in order. -/
def collect {β : Type*} (observe : Session → Op → Option β) : Session → List Op → List β
  | _, [] => []
  | session, op :: ops => (observe session op).toList ++ collect observe (session.step op) ops

/-- Scopes and tickets of the requests a run issues, in order. -/
def issued (session : Session) (ops : List Op) : List (Log.Scope × Log.Ticket) :=
  collect issue? session ops

/-- Scopes and tickets of the answers a run merges, in order. -/
def merged (session : Session) (ops : List Op) : List (Log.Scope × Log.Ticket) :=
  collect merge? session ops

/-- The tickets listed for one scope. -/
def ticketsFor (scope : Log.Scope) (log : List (Log.Scope × Log.Ticket)) : List Log.Ticket :=
  (log.filter fun item => item.1 = scope).map Prod.snd

/-- Operations up to the last one that closes the view of a scope. -/
def untilClosed (scope : Log.Scope) (ops : List Op) : List Op :=
  ops.rdropWhile fun op => !op.closes scope

/-- Operations after the last one that closes the view of a scope: those the
present view of the scope can have seen. -/
def sinceClosed (scope : Log.Scope) (ops : List Op) : List Op :=
  ops.rtakeWhile fun op => !op.closes scope

theorem collect_append {β : Type*} (observe : Session → Op → Option β) (session : Session)
    (front back : List Op) :
    collect observe session (front ++ back) =
      collect observe session front ++ collect observe (session.run front) back := by
  induction front generalizing session with
  | nil => rfl
  | cons op front ih => simp [collect, ih]

theorem collect_concat {β : Type*} (observe : Session → Op → Option β) (session : Session)
    (ops : List Op) (op : Op) :
    collect observe session (ops ++ [op]) =
      collect observe session ops ++ (observe (session.run ops) op).toList := by
  simp [collect_append, collect]

theorem ticketsFor_append (scope : Log.Scope) (front back : List (Log.Scope × Log.Ticket)) :
    ticketsFor scope (front ++ back) = ticketsFor scope front ++ ticketsFor scope back := by
  simp [ticketsFor]

theorem sinceClosed_concat_of_closes {scope : Log.Scope} {op : Op} (h : op.closes scope = true)
    (ops : List Op) : sinceClosed scope (ops ++ [op]) = [] :=
  List.rtakeWhile_concat_neg _ _ _ (by simp [h])

theorem sinceClosed_concat {scope : Log.Scope} {op : Op} (h : op.closes scope = false)
    (ops : List Op) : sinceClosed scope (ops ++ [op]) = sinceClosed scope ops ++ [op] :=
  List.rtakeWhile_concat_pos _ _ _ (by simp [h])

theorem untilClosed_concat {scope : Log.Scope} {op : Op} (h : op.closes scope = false)
    (ops : List Op) : untilClosed scope (ops ++ [op]) = untilClosed scope ops :=
  List.rdropWhile_concat_pos _ _ _ (by simp [h])

theorem mem_ticketsFor {scope : Log.Scope} {log : List (Log.Scope × Log.Ticket)}
    {ticket : Log.Ticket} : ticket ∈ ticketsFor scope log ↔ (scope, ticket) ∈ log := by
  simp [ticketsFor]

theorem untilClosed_append_sinceClosed (scope : Log.Scope) (ops : List Op) :
    untilClosed scope ops ++ sinceClosed scope ops = ops :=
  List.rdropWhile_append_rtakeWhile

theorem run_untilClosed_sinceClosed (session : Session) (scope : Log.Scope) (ops : List Op) :
    (session.run (untilClosed scope ops)).run (sinceClosed scope ops) = session.run ops := by
  rw [← run_append, untilClosed_append_sinceClosed]

theorem collect_sinceClosed_concat {β : Type*} {scope : Log.Scope} {op : Op}
    (h : op.closes scope = false) (observe : Session → Op → Option β) (session : Session)
    (ops : List Op) :
    collect observe (session.run (untilClosed scope (ops ++ [op])))
        (sinceClosed scope (ops ++ [op])) =
      collect observe (session.run (untilClosed scope ops)) (sinceClosed scope ops) ++
        (observe (session.run ops) op).toList := by
  rw [sinceClosed_concat h, untilClosed_concat h, collect_concat, run_untilClosed_sinceClosed]

theorem mem_collect_of_sinceClosed {β : Type*} {observe : Session → Op → Option β}
    {session : Session} {scope : Log.Scope} {ops : List Op} {item : β}
    (h : item ∈ collect observe (session.run (untilClosed scope ops)) (sinceClosed scope ops)) :
    item ∈ collect observe session ops := by
  rw [← untilClosed_append_sinceClosed scope ops, collect_append]
  exact List.mem_append_right _ h

/-- Tickets issued to the present view of a scope. -/
def issuedTo (session : Session) (scope : Log.Scope) (ops : List Op) : List Log.Ticket :=
  ticketsFor scope ((session.run (untilClosed scope ops)).issued (sinceClosed scope ops))

/-- Tickets of the answers merged by the present view of a scope. -/
def mergedBy (session : Session) (scope : Log.Scope) (ops : List Op) : List Log.Ticket :=
  ticketsFor scope ((session.run (untilClosed scope ops)).merged (sinceClosed scope ops))

/-! ## One step -/

/-- Where the query of an open view stands. -/
def query? (session : Session) (scope : Log.Scope) : Option Log.QueryState :=
  (session.view? scope).map fun view => view.state

/-- What an operation that does not close a view can do to its query, from state
to state, with what it issues and what it merges: it opens the view with the next
ticket, has the awaited answer merged, or does nothing to this view. -/
inductive Move (scope : Log.Scope) (next : Log.Ticket) :
    Option Log.QueryState → Option Log.QueryState → Option (Log.Scope × Log.Ticket) →
      Option (Log.Scope × Log.Ticket) → Prop where
  | opened : Move scope next none (some (.pending next)) (some (scope, next)) none
  | answered (ticket) :
      Move scope next (some (.pending ticket)) (some .done) none (some (scope, ticket))
  | kept {query issue merge} (unissued : ∀ ticket, issue ≠ some (scope, ticket))
      (unmerged : ∀ ticket, merge ≠ some (scope, ticket)) :
      Move scope next query query issue merge

theorem Move.of_pending {scope : Log.Scope} {next ticket : Log.Ticket}
    {before after : Option Log.QueryState} {issue merge : Option (Log.Scope × Log.Ticket)}
    (h : Move scope next before after issue merge) (hafter : after = some (.pending ticket)) :
    ticket = next ∨ (before = some (.pending ticket) ∧ merge ≠ some (scope, ticket)) := by
  cases h with
  | opened => exact .inl (by simpa using hafter.symm)
  | answered own => simp at hafter
  | kept unissued unmerged => exact .inr ⟨hafter, unmerged ticket⟩

variable {session : Session} {scope : Log.Scope}

theorem issue?_activate (h : session.Filed) (other : Log.Scope) :
    session.issue? (.activate other) =
      if session.query? other = none then some (other, ⟨session.nextTicket⟩) else none := by
  cases hview : session.view? other with
  | none =>
      simp [issue?, query?, activate, getElem?_views, hview, newView, Log.View.empty,
        Log.View.activate]
  | some view =>
      simp [issue?, query?, activate, getElem?_views, hview, Log.View.activate,
        (h other view hview).2]

theorem query?_activate_of_none (h : session.view? scope = none) :
    (session.step (.activate scope)).query? scope = some (.pending ⟨session.nextTicket⟩) := by
  rw [query?, view?_step_of_none h, if_pos (by simp [Op.opens])]
  rfl

theorem merge?_resolve (session : Session) (other : Log.Scope) (ticket : Log.Ticket)
    (answer : Log.Answer) :
    session.merge? (.resolve other ticket answer) =
      if session.query? other = some (.pending ticket) then some (other, ticket) else none := by
  cases hview : session.view? other with
  | none => simp [merge?, Op.delivery?, resolve, query?, getElem?_views, hview]
  | some view =>
      by_cases hstate : view.state = .pending ticket
      · simp [merge?, Op.delivery?, resolve, query?, getElem?_views, hview, Log.View.resolve,
          hstate]
      · simp [merge?, Op.delivery?, resolve, query?, getElem?_views, hview, Log.View.resolve,
          hstate]

theorem query?_step_resolve (session : Session) (other : Log.Scope) (ticket : Log.Ticket)
    (answer : Log.Answer) :
    (session.step (.resolve other ticket answer)).query? other =
      if session.query? other = some (.pending ticket) then some .done
      else session.query? other := by
  cases hview : session.view? other with
  | none => simp [query?, step, view?_resolve, hview]
  | some view =>
      by_cases hstate : view.state = .pending ticket
      · simp [query?, step, view?_resolve, hview, Log.View.step, Log.View.resolve, hstate]
      · simp [query?, step, view?_resolve, hview, Log.View.step, Log.View.resolve, hstate]

theorem move_activate (h : session.Filed) (other : Log.Scope) :
    Move scope ⟨session.nextTicket⟩ (session.query? scope)
      ((session.step (.activate other)).query? scope) (session.issue? (.activate other))
      (session.merge? (.activate other)) := by
  have hmerge : session.merge? (.activate other) = none := rfl
  rw [hmerge, issue?_activate h]
  by_cases hscope : other = scope
  · subst hscope
    cases hview : session.view? other with
    | none =>
        simp only [query?, step, view?_activate, hview]
        exact .opened
    | some view =>
        have hsame : view.step (.activate ⟨session.nextTicket⟩) = view := by
          simp [Log.View.step, Log.View.activate, (h other view hview).2]
        simp only [query?, step, view?_activate, hview, Option.getD_some, hsame]
        exact .kept (by simp) (by simp)
  · have hsame : (session.step (.activate other)).query? scope = session.query? scope := by
      simp [query?, step, view?_activate, hscope]
    rw [hsame]
    refine .kept ?_ (by simp)
    intro ticket
    split
    · simp [hscope]
    · simp

theorem move_pushLog (session : Session) (scope : Log.Scope) (entry : Log.Entry) :
    Move scope ⟨session.nextTicket⟩ (session.query? scope)
      ((session.step (.pushLog entry)).query? scope) (session.issue? (.pushLog entry))
      (session.merge? (.pushLog entry)) := by
  have hsame : (session.step (.pushLog entry)).query? scope = session.query? scope := by
    simp only [query?, step, view?_pushLog, Option.map_map]
    congr 1
    funext view
    simp only [Function.comp_apply, Log.View.step, Log.View.push]
    split <;> rfl
  rw [hsame]
  exact .kept (by simp [issue?]) (by simp [merge?, Op.delivery?])

theorem move_resolve (session : Session) (scope other : Log.Scope) (ticket : Log.Ticket)
    (answer : Log.Answer) :
    Move scope ⟨session.nextTicket⟩ (session.query? scope)
      ((session.step (.resolve other ticket answer)).query? scope)
      (session.issue? (.resolve other ticket answer))
      (session.merge? (.resolve other ticket answer)) := by
  have hissue : session.issue? (.resolve other ticket answer) = none := rfl
  rw [hissue, merge?_resolve]
  by_cases hscope : other = scope
  · subst hscope
    by_cases hpending : session.query? other = some (.pending ticket)
    · rw [if_pos hpending, query?_step_resolve, if_pos hpending, hpending]
      exact .answered ticket
    · rw [if_neg hpending, query?_step_resolve, if_neg hpending]
      exact .kept (by simp) (by simp)
  · have hsame : (session.step (.resolve other ticket answer)).query? scope =
        session.query? scope := by
      simp [query?, step, view?_resolve, hscope]
    rw [hsame]
    refine .kept (by simp) ?_
    intro own
    split
    · simp [hscope]
    · simp

/-- One step of a session moves the query of every view it does not close. -/
theorem move_step (h : session.Filed) {op : Op} (hop : op.closes scope = false) :
    Move scope ⟨session.nextTicket⟩ (session.query? scope) ((session.step op).query? scope)
      (session.issue? op) (session.merge? op) := by
  cases op with
  | activate other => exact move_activate h other
  | deactivate other =>
      have hother : other ≠ scope := by simpa [Op.closes] using hop
      have hsame : (session.step (.deactivate other)).query? scope = session.query? scope := by
        simp [query?, step, view?_deactivate, hother]
      rw [hsame]
      exact .kept (by simp [issue?]) (by simp [merge?, Op.delivery?])
  | pushLog entry => exact move_pushLog session scope entry
  | resolve other ticket answer => exact move_resolve session scope other ticket answer
  | apply now event =>
      cases event with
      | sample entity metric value =>
          exact .kept (by simp [issue?]) (by simp [merge?, Op.delivery?])
      | log entry => exact move_pushLog session scope entry
      | backfill ticket other answer => exact move_resolve session scope other ticket answer
  | pushSample entity metric value now =>
      exact .kept (by simp [issue?]) (by simp [merge?, Op.delivery?])
  | sweep now maxIdle => exact .kept (by simp [issue?]) (by simp [merge?, Op.delivery?])

/-! ## The present view of a scope -/

/-- Where a query stands, with the tickets issued to the present view and those of
the answers it has merged. -/
inductive Phase : Option Log.QueryState → List Log.Ticket → List Log.Ticket → Prop where
  | closed : Phase none [] []
  | waiting (ticket) : Phase (some (.pending ticket)) [ticket] []
  | answered (ticket) : Phase (some .done) [ticket] [ticket]

theorem Phase.move {next : Log.Ticket} {before after : Option Log.QueryState}
    {issue merge : Option (Log.Scope × Log.Ticket)} {tickets answers : List Log.Ticket}
    (h : Phase before tickets answers) (hmove : Move scope next before after issue merge) :
    Phase after (tickets ++ ticketsFor scope issue.toList)
      (answers ++ ticketsFor scope merge.toList) := by
  cases hmove with
  | opened =>
      cases h
      simpa [ticketsFor] using Phase.waiting next
  | answered ticket =>
      cases h
      simpa [ticketsFor] using Phase.answered ticket
  | kept unissued unmerged =>
      have hissue : ticketsFor scope issue.toList = [] := by
        refine List.eq_nil_iff_forall_not_mem.mpr fun ticket hmem => unissued ticket ?_
        simpa using mem_ticketsFor.mp hmem
      have hmerge : ticketsFor scope merge.toList = [] := by
        refine List.eq_nil_iff_forall_not_mem.mpr fun ticket hmem => unmerged ticket ?_
        simpa using mem_ticketsFor.mp hmem
      simpa [hissue, hmerge] using h

theorem phase_run (config : SessionConfig) (scope : Log.Scope) (ops : List Op) :
    Phase (((start config).run ops).query? scope) (issuedTo (start config) scope ops)
      (mergedBy (start config) scope ops) := by
  -- From the end, since the present view of a scope is found by looking back.
  induction ops using List.reverseRecOn with
  | nil =>
      have hclosed : (start config).query? scope = none := by simp [query?, view?, start]
      rw [run_nil, hclosed]
      exact .closed
  | append_singleton ops op ih =>
      cases hop : op.closes scope with
      | true =>
          have hclosed : ((start config).run (ops ++ [op])).query? scope = none := by
            simp [query?, view?_step_of_closes hop]
          simp only [hclosed, issuedTo, mergedBy, sinceClosed_concat_of_closes hop]
          exact .closed
      | false =>
          have hmove := move_step ((filed_start config).run ops) hop
          simpa only [issuedTo, mergedBy, issued, merged, collect_sinceClosed_concat hop,
            ticketsFor_append, run_append, run_cons, run_nil] using ih.move hmove

/-- A view waits for the ticket it was issued until its answer is merged. -/
theorem Phase.pending_iff {query : Option Log.QueryState} {tickets answers : List Log.Ticket}
    (h : Phase query tickets answers) (ticket : Log.Ticket) :
    query = some (.pending ticket) ↔
      query.isSome = true ∧ ticket ∈ tickets ∧ ticket ∉ answers := by
  cases h with
  | closed => simp
  | waiting own => simp [eq_comm]
  | answered own => simp

/-- An open view has been issued one ticket, a closed one none. -/
theorem Phase.length_eq {query : Option Log.QueryState} {tickets answers : List Log.Ticket}
    (h : Phase query tickets answers) : tickets.length = query.isSome.toNat := by
  cases h <;> rfl

/-! ## The numbering of tickets -/

theorem nextTicket_activate (session : Session) (scope : Log.Scope) :
    (session.step (.activate scope)).nextTicket =
      if (session.issue? (.activate scope)).isSome then session.nextTicket + 1
      else session.nextTicket := by
  simp [step, activate, issue?]

theorem nextTicket_resolve (session : Session) (scope : Log.Scope) (ticket : Log.Ticket)
    (answer : Log.Answer) :
    (session.resolve scope ticket answer).1.nextTicket = session.nextTicket := by
  simp only [resolve]
  split <;> rfl

/-- An issued ticket is the next one, and only issuing it uses it up. -/
theorem issue?_cases (h : session.Filed) (op : Op) :
    (session.issue? op = none ∧ (session.step op).nextTicket = session.nextTicket) ∨
      ∃ scope, session.issue? op = some (scope, ⟨session.nextTicket⟩) ∧
        (session.step op).nextTicket = session.nextTicket + 1 := by
  cases op with
  | activate scope =>
      have hnext := session.nextTicket_activate scope
      by_cases hclosed : session.query? scope = none
      · have hissue : session.issue? (.activate scope) = some (scope, ⟨session.nextTicket⟩) := by
          rw [issue?_activate h, if_pos hclosed]
        exact .inr ⟨scope, hissue, by simpa [hissue] using hnext⟩
      · have hissue : session.issue? (.activate scope) = none := by
          rw [issue?_activate h, if_neg hclosed]
        exact .inl ⟨hissue, by simpa [hissue] using hnext⟩
  | resolve scope ticket answer => exact .inl ⟨rfl, session.nextTicket_resolve scope ticket answer⟩
  | apply now event =>
      cases event with
      | sample entity metric value => exact .inl ⟨rfl, rfl⟩
      | log entry => exact .inl ⟨rfl, rfl⟩
      | backfill ticket scope answer =>
          exact .inl ⟨rfl, session.nextTicket_resolve scope ticket answer⟩
  | deactivate scope => exact .inl ⟨rfl, rfl⟩
  | pushLog entry => exact .inl ⟨rfl, rfl⟩
  | pushSample entity metric value now => exact .inl ⟨rfl, rfl⟩
  | sweep now maxIdle => exact .inl ⟨rfl, rfl⟩

/-- Tickets are numbered in the order they are issued. -/
theorem numbers_issued (config : SessionConfig) (ops : List Op) :
    ((start config).issued ops).map (fun item => item.2.number) =
      List.range ((start config).run ops).nextTicket := by
  induction ops using List.reverseRecOn with
  | nil => rfl
  | append_singleton ops op ih =>
      simp only [issued] at ih
      simp only [issued, collect_concat, List.map_append, ih, run_append, run_cons, run_nil]
      rcases issue?_cases ((filed_start config).run ops) op with
        ⟨hissue, hnext⟩ | ⟨scope, hissue, hnext⟩
      · simp [hissue, hnext]
      · simp [hissue, hnext, List.range_succ]

theorem length_issued (config : SessionConfig) (ops : List Op) :
    ((start config).issued ops).length = ((start config).run ops).nextTicket := by
  have hlength := congrArg List.length (numbers_issued config ops)
  rwa [List.length_map, List.length_range] at hlength

theorem tickets_nodup (config : SessionConfig) (ops : List Op) :
    (((start config).issued ops).map Prod.snd).Nodup := by
  have hnodup : (((start config).issued ops).map fun item => item.2.number).Nodup := by
    rw [numbers_issued]
    exact List.nodup_range
  refine List.Nodup.of_map Log.Ticket.number ?_
  rw [List.map_map]
  exact hnodup

theorem number_lt_nextTicket {config : SessionConfig} {ops : List Op} {scope : Log.Scope}
    {ticket : Log.Ticket} (h : (scope, ticket) ∈ (start config).issued ops) :
    ticket.number < ((start config).run ops).nextTicket := by
  have hmem := List.mem_map_of_mem (f := fun item : Log.Scope × Log.Ticket => item.2.number) h
  rw [numbers_issued] at hmem
  exact List.mem_range.mp hmem

theorem scope_eq_of_mem_issued {config : SessionConfig} {ops : List Op} {a b : Log.Scope}
    {ticket : Log.Ticket} (ha : (a, ticket) ∈ (start config).issued ops)
    (hb : (b, ticket) ∈ (start config).issued ops) : a = b :=
  congrArg Prod.fst (List.inj_on_of_nodup_map (tickets_nodup config ops) ha hb rfl)

theorem mem_issued_of_pending {config : SessionConfig} {ops : List Op} {scope : Log.Scope}
    {ticket : Log.Ticket}
    (h : ((start config).run ops).query? scope = some (.pending ticket)) :
    (scope, ticket) ∈ (start config).issued ops :=
  mem_collect_of_sinceClosed
    (mem_ticketsFor.mp (((phase_run config scope ops).pending_iff ticket).mp h).2.1)

end Dashboard.Session
