import Dashboard.Proofs.Session.Tickets

/-! # Answers

The answer to a ticket is merged at most once, and only by the very view the
ticket was issued to. Every other answer is dropped and changes nothing. -/

namespace Dashboard.Session

variable {session : Session} {scope : Log.Scope}

/-! ## Merging at most once -/

theorem pending_of_merge? {op : Op} {ticket : Log.Ticket}
    (h : session.merge? op = some (scope, ticket)) :
    session.query? scope = some (.pending ticket) := by
  unfold merge? at h
  split at h
  · next other own answer _ =>
    have hmerge : session.merge? (.resolve other own answer) = some (scope, ticket) := h
    rw [merge?_resolve] at hmerge
    split at hmerge
    · next hpending =>
      obtain ⟨rfl, rfl⟩ := Prod.mk.inj (Option.some.inj hmerge)
      exact hpending
    · simp at hmerge
  · simp at h

/-- A view that waits for an issued ticket after a step did so before, and the
step has not merged the answer. -/
theorem pending_of_pending_concat {config : SessionConfig} {ops : List Op} {op : Op}
    {owner scope : Log.Scope} {ticket : Log.Ticket}
    (howner : (owner, ticket) ∈ (start config).issued ops)
    (h : ((start config).run (ops ++ [op])).query? scope = some (.pending ticket)) :
    ((start config).run ops).query? scope = some (.pending ticket) ∧
      ((start config).run ops).merge? op ≠ some (scope, ticket) := by
  rw [run_append, run_cons, run_nil] at h
  cases hop : op.closes scope with
  | true => simp [query?, view?_step_of_closes hop] at h
  | false =>
      have hmove := move_step ((filed_start config).run ops) hop
      rcases hmove.of_pending h with hnext | hbefore
      · have hlt := number_lt_nextTicket howner
        simp [hnext] at hlt
      · exact hbefore

/-- A ticket whose answer was merged has been issued, and no view waits for it. -/
structure Spent (session : Session) (ops : List Op) (item : Log.Scope × Log.Ticket) : Prop where
  issued : item ∈ session.issued ops
  unawaited : ∀ scope, (session.run ops).query? scope ≠ some (.pending item.2)

theorem mem_issued_concat {ops : List Op} {item : Log.Scope × Log.Ticket}
    (h : item ∈ session.issued ops) (op : Op) : item ∈ session.issued (ops ++ [op]) := by
  simp only [issued, collect_concat]
  exact List.mem_append_left _ h

theorem Spent.concat {config : SessionConfig} {ops : List Op} {item : Log.Scope × Log.Ticket}
    (h : Spent (start config) ops item) (op : Op) : Spent (start config) (ops ++ [op]) item where
  issued := mem_issued_concat h.issued op
  unawaited scope hpending :=
    h.unawaited scope (pending_of_pending_concat h.issued hpending).1

theorem spent_of_merge? {config : SessionConfig} {ops : List Op} {op : Op} {scope : Log.Scope}
    {ticket : Log.Ticket} (h : ((start config).run ops).merge? op = some (scope, ticket)) :
    Spent (start config) (ops ++ [op]) (scope, ticket) := by
  have hissued := mem_issued_of_pending (pending_of_merge? h)
  refine ⟨mem_issued_concat hissued op, ?_⟩
  intro other hpending
  obtain ⟨hbefore, hmerge⟩ := pending_of_pending_concat hissued hpending
  obtain rfl : other = scope := scope_eq_of_mem_issued (mem_issued_of_pending hbefore) hissued
  exact hmerge h

/-- The tickets of merged answers are spent, and no two of them are the same. -/
theorem merged_spent (config : SessionConfig) (ops : List Op) :
    (∀ item ∈ (start config).merged ops, Spent (start config) ops item) ∧
      (((start config).merged ops).map Prod.snd).Nodup := by
  -- A spent ticket is awaited nowhere, which keeps the next merged one apart from it.
  induction ops using List.reverseRecOn with
  | nil => simp [merged, collect]
  | append_singleton ops op ih =>
      obtain ⟨hspent, hnodup⟩ := ih
      have hsplit : (start config).merged (ops ++ [op]) =
          (start config).merged ops ++ (((start config).run ops).merge? op).toList :=
        collect_concat _ _ _ _
      rw [hsplit]
      cases hmerge : ((start config).run ops).merge? op with
      | none =>
          simp only [Option.toList_none, List.append_nil]
          exact ⟨fun item hitem => (hspent item hitem).concat op, hnodup⟩
      | some item =>
          obtain ⟨scope, ticket⟩ := item
          simp only [Option.toList_some, List.map_append, List.map_cons, List.map_nil]
          constructor
          · intro item hitem
            rcases List.mem_append.mp hitem with hitem | hitem
            · exact (hspent item hitem).concat op
            · obtain rfl := List.mem_singleton.mp hitem
              exact spent_of_merge? hmerge
          · refine List.nodup_append.mpr ⟨hnodup, List.nodup_singleton _, ?_⟩
            intro old hold new hnew
            obtain ⟨item, hitem, rfl⟩ := List.mem_map.mp hold
            obtain rfl := List.mem_singleton.mp hnew
            rintro rfl
            exact (hspent item hitem).unawaited scope (pending_of_merge? hmerge)

/-! ## Answers -/

/-- The view of a scope is owed the answer to a ticket: it is open, this very view
was issued the ticket, and no answer to the ticket has been merged. -/
structure Owed (session : Session) (ops : List Op) (scope : Log.Scope) (ticket : Log.Ticket) :
    Prop where
  isOpen : ((session.run ops).view? scope).isSome = true
  issued : ticket ∈ issuedTo session scope ops
  unmerged : ticket ∉ (session.merged ops).map Prod.snd

/-- Nothing kept by a session is changed. -/
structure Unchanged (before after : Session) : Prop where
  config : after.config = before.config
  views : after.views.Equiv before.views
  metrics : after.metrics = before.metrics
  nextTicket : after.nextTicket = before.nextTicket

/-- A view waits for the answers it is owed. -/
theorem pending_iff_owed (config : SessionConfig) (ops : List Op) (scope : Log.Scope)
    (ticket : Log.Ticket) :
    ((start config).run ops).query? scope = some (.pending ticket) ↔
      Owed (start config) ops scope ticket := by
  have hphase := (phase_run config scope ops).pending_iff ticket
  constructor
  · intro hpending
    obtain ⟨hopen, hissued, -⟩ := hphase.mp hpending
    refine ⟨by simpa [query?] using hopen, hissued, ?_⟩
    intro hmerged
    obtain ⟨item, hitem, rfl⟩ := List.mem_map.mp hmerged
    exact ((merged_spent config ops).1 item hitem).unawaited scope hpending
  · intro howed
    refine hphase.mpr ⟨by simpa [query?] using howed.isOpen, howed.issued, ?_⟩
    intro hmerged
    exact howed.unmerged
      (List.mem_map_of_mem (mem_collect_of_sinceClosed (mem_ticketsFor.mp hmerged)))

/-- An answer acts the same whether it is handed over or posted as an event. -/
theorem eq_resolve_of_delivery? {op : Op} {ticket : Log.Ticket} {answer : Log.Answer}
    (h : op.delivery? = some (scope, ticket, answer)) (session : Session) :
    session.step op = session.step (.resolve scope ticket answer) ∧
      session.merge? op = session.merge? (.resolve scope ticket answer) := by
  unfold Op.delivery? at h
  split at h
  · obtain ⟨rfl, rfl, rfl⟩ : _ ∧ _ ∧ _ := by simpa using h
    exact ⟨rfl, rfl⟩
  · obtain ⟨rfl, rfl, rfl⟩ : _ ∧ _ ∧ _ := by simpa using h
    exact ⟨rfl, rfl⟩
  · simp at h

/-- An answer no view waits for is dropped. -/
theorem unchanged_resolve {ticket : Log.Ticket}
    (h : session.query? scope ≠ some (.pending ticket)) (answer : Log.Answer) :
    Unchanged session (session.step (.resolve scope ticket answer)) := by
  have hviews : ∀ other, (session.step (.resolve scope ticket answer)).view? other =
      session.view? other := by
    intro other
    simp only [step, view?_resolve]
    split
    · next hscope =>
      subst hscope
      cases hview : session.view? scope with
      | none => rfl
      | some view =>
          have hstate : view.state ≠ .pending ticket := by simpa [query?, hview] using h
          simp [Log.View.step, view.resolve_of_not_pending hstate]
    · rfl
  refine ⟨?_, Std.TreeMap.Equiv.of_forall_constGet?_eq hviews, ?_, ?_⟩
  all_goals
    simp only [step, resolve]
    split <;> rfl

/-- A stretch in which a view is not closed falls to one view. -/
theorem collect_sinceClosed_append {β : Type*} {life : List Op}
    (h : ∀ op ∈ life, op.closes scope = false) (observe : Session → Op → Option β)
    (session : Session) (before : List Op) :
    collect observe (session.run (untilClosed scope (before ++ life)))
        (sinceClosed scope (before ++ life)) =
      collect observe (session.run (untilClosed scope before)) (sinceClosed scope before) ++
        collect observe (session.run before) life := by
  induction life using List.reverseRecOn with
  | nil => simp [collect]
  | append_singleton life op ih =>
      have hlife := ih fun other hother => h other (List.mem_append_left _ hother)
      have hop := h op (by simp)
      rw [← List.append_assoc, collect_sinceClosed_concat hop, hlife, collect_concat, run_append,
        List.append_assoc]

theorem length_issuedTo_of_open {config : SessionConfig} {ops : List Op}
    (h : (((start config).run ops).view? scope).isSome = true) :
    (issuedTo (start config) scope ops).length = 1 := by
  rw [(phase_run config scope ops).length_eq, query?, Option.isSome_map, h]
  rfl

theorem length_ticketsFor_le_one (config : SessionConfig) (before : List Op) {life : List Op}
    (h : ∀ op ∈ life, op.closes scope = false) :
    (ticketsFor scope (((start config).run before).issued life)).length ≤ 1 := by
  have hview : (issuedTo (start config) scope (before ++ life)).length ≤ 1 := by
    rw [(phase_run config scope (before ++ life)).length_eq]
    exact Bool.toNat_le _
  rw [issuedTo, issued, collect_sinceClosed_append h, ticketsFor_append,
    List.length_append] at hview
  exact (Nat.le_add_left _ _).trans hview

/-- A ticket issued to a view that has been closed is not a ticket of the present
view. -/
theorem not_mem_issuedTo_of_untilClosed {config : SessionConfig} {ops : List Op}
    {ticket : Log.Ticket} (h : (scope, ticket) ∈ (start config).issued (untilClosed scope ops)) :
    ticket ∉ issuedTo (start config) scope ops := by
  intro hpresent
  have hnodup := tickets_nodup config ops
  rw [← untilClosed_append_sinceClosed scope ops, issued, collect_append, List.map_append] at hnodup
  exact List.disjoint_of_nodup_append hnodup (List.mem_map_of_mem h)
    (List.mem_map_of_mem (mem_ticketsFor.mp hpresent))

/-- Over a run, requests are numbered in order, so fewer than `2 ^ 64` of them carry
distinct 64-bit tickets. A view asks as soon as it is opened, and only once before it
is closed. An answer is merged exactly if it is owed, which happens once for a ticket
and never to a view opened after the one that asked; any other answer changes nothing. -/
structure TicketSpec (session : Session) (ops : List Op) : Prop where
  numbers : (session.issued ops).map (fun item => item.2.number) =
    List.range (session.issued ops).length
  issued_distinct : ((session.issued ops).map Prod.snd).Nodup
  asks : ∀ scope, (session.run ops).view? scope = none →
    let next : Log.Ticket := ⟨(session.issued ops).length⟩
    (session.run ops).issue? (.activate scope) = some (scope, next) ∧
      ((session.run ops).step (.activate scope)).query? scope = some (.pending next)
  issued_once : ∀ scope before life after, ops = before ++ life ++ after →
    (∀ op ∈ life, op.closes scope = false) →
      (ticketsFor scope ((session.run before).issued life)).length ≤ 1
  issued_open : ∀ scope, ((session.run ops).view? scope).isSome = true →
    (issuedTo session scope ops).length = 1
  merges_iff : ∀ op scope ticket answer, op.delivery? = some (scope, ticket, answer) →
    ((session.run ops).merge? op = some (scope, ticket) ↔ Owed session ops scope ticket)
  drops : ∀ op scope ticket answer, op.delivery? = some (scope, ticket, answer) →
    ¬ Owed session ops scope ticket →
      (session.run ops).merge? op = none ∧
        Unchanged (session.run ops) ((session.run ops).step op)
  merged_distinct : ((session.merged ops).map Prod.snd).Nodup
  late : ∀ scope ticket, (scope, ticket) ∈ session.issued (untilClosed scope ops) →
    ¬ Owed session ops scope ticket

/-- A session issues distinct tickets, one for each view it opens, and merges the
answer to a ticket once, into the view the ticket was issued to. -/
theorem ticketSpec_run (config : SessionConfig) (ops : List Op) :
    TicketSpec (start config) ops where
  numbers := by
    rw [numbers_issued, length_issued]
  issued_distinct := tickets_nodup config ops
  asks scope hclosed := by
    have hquery : ((start config).run ops).query? scope = none := by
      rw [query?, hclosed, Option.map_none]
    rw [length_issued, issue?_activate ((filed_start config).run ops), if_pos hquery]
    exact ⟨rfl, query?_activate_of_none hclosed⟩
  issued_once scope before life after _ hlife := length_ticketsFor_le_one config before hlife
  issued_open scope hopen := length_issuedTo_of_open hopen
  merges_iff op scope ticket answer hop := by
    rw [(eq_resolve_of_delivery? hop _).2, merge?_resolve, ← pending_iff_owed]
    split
    · next hpending => simp [hpending]
    · next hpending => simp [hpending]
  drops op scope ticket answer hop howed := by
    rw [← pending_iff_owed] at howed
    obtain ⟨hstep, hmerge⟩ := eq_resolve_of_delivery? hop ((start config).run ops)
    rw [hstep, hmerge]
    exact ⟨by rw [merge?_resolve, if_neg howed], unchanged_resolve howed answer⟩
  merged_distinct := (merged_spent config ops).2
  late scope ticket hissued howed := not_mem_issuedTo_of_untilClosed hissued howed.issued

/-- The late answer of a closed view is not merged into the view opened after it. -/
example :
    let web : Log.Scope := .entity ⟨"web"⟩
    let reopened := (start {}).run [.activate web, .deactivate web, .activate web]
    reopened.merge? (.resolve web ⟨0⟩ (.entries [])) = none ∧
      reopened.merge? (.resolve web ⟨1⟩ (.entries [])) = some (web, ⟨1⟩) := by
  cbv

end Dashboard.Session
