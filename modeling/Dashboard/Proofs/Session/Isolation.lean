import Dashboard.Proofs.Session.Tickets

/-! # Isolation of views

Views of one session do not disturb each other. What the view of a scope holds is
what a view of its own would hold, run on nothing but the operations that concern
it, however groups overlap and whatever the rest of the session does. -/

namespace Dashboard.Session

/-! ## The present view of a scope -/

/-- The view of a scope is closed after a run: the scope was never activated, or
not again after it was deactivated. -/
def Closed (scope : Log.Scope) (ops : List Op) : Prop :=
  .activate scope ∉ ops ∨
    ∃ before after, ops = before ++ .deactivate scope :: after ∧ .activate scope ∉ after

/-- The present view of a scope was opened after `before` and has lived through
`life` since. -/
structure Opened (scope : Log.Scope) (ops before life : List Op) : Prop where
  split : ops = before ++ .activate scope :: life
  closed : Closed scope before
  kept : .deactivate scope ∉ life

/-- Whether an operation on a view is of any concern to it: lines of foreign
entities are not. -/
def concerns (scope : Log.Scope) : Log.View.Op → Bool
  | .push entry => scope.contains entry.entity
  | _ => true

/-- What an operation of a session is to the view of a scope: its activation with
the next ticket, a line of one of its entities, or an answer addressed to it. -/
def heard? (scope : Log.Scope) (session : Session) (op : Op) : Option Log.View.Op :=
  (op.onView? scope ⟨session.nextTicket⟩).filter (concerns scope)

/-- What concerns the view of a scope in a run, in order. -/
def heard (scope : Log.Scope) (session : Session) (ops : List Op) : List Log.View.Op :=
  collect (heard? scope) session ops

variable {scope : Log.Scope}

theorem closes_eq_false {op : Op} (h : op ≠ .deactivate scope) : op.closes scope = false := by
  cases op <;> simp_all [Op.closes]

theorem opens_eq_false {op : Op} (h : op ≠ .activate scope) : op.opens scope = false := by
  cases op <;> simp_all [Op.opens]

theorem closed_concat_deactivate (scope : Log.Scope) (ops : List Op) :
    Closed scope (ops ++ [.deactivate scope]) :=
  .inr ⟨ops, [], rfl, by simp⟩

theorem not_closed_concat_activate (scope : Log.Scope) (ops : List Op) :
    ¬ Closed scope (ops ++ [.activate scope]) := by
  rintro (hnone | ⟨before, after, hsplit, hafter⟩)
  · simp at hnone
  · rcases Log.View.concat_eq_append_cons.mp hsplit with ⟨-, hlast, -⟩ | ⟨rest, rfl, -⟩
    · simp at hlast
    · simp at hafter

theorem closed_concat_iff {op : Op} (hopen : op ≠ .activate scope)
    (hclose : op ≠ .deactivate scope) (ops : List Op) :
    Closed scope (ops ++ [op]) ↔ Closed scope ops := by
  constructor
  · rintro (hnone | ⟨before, after, hsplit, hafter⟩)
    · exact .inl fun hmem => hnone (List.mem_append_left _ hmem)
    · rcases Log.View.concat_eq_append_cons.mp hsplit with ⟨-, hlast, -⟩ | ⟨rest, rfl, hrest⟩
      · exact absurd hlast hclose
      · exact .inr ⟨before, rest, hrest, fun hmem => hafter (List.mem_append_left _ hmem)⟩
  · rintro (hnone | ⟨before, after, rfl, hafter⟩)
    · exact .inl (by simpa [hnone] using hopen.symm)
    · exact .inr ⟨before, after ++ [op], by simp, by simpa [hafter] using hopen.symm⟩

theorem exists_opened {ops : List Op} (h : ¬ Closed scope ops) :
    ∃ before life, Opened scope ops before life := by
  induction ops using List.reverseRecOn with
  | nil => exact absurd (.inl List.not_mem_nil) h
  | append_singleton ops op ih =>
      by_cases hclose : op = .deactivate scope
      · subst hclose
        exact absurd (closed_concat_deactivate scope ops) h
      by_cases hbefore : Closed scope ops
      · obtain rfl : op = .activate scope := by
          by_contra hopen
          exact h ((closed_concat_iff hopen hclose ops).mpr hbefore)
        exact ⟨ops, [], rfl, hbefore, List.not_mem_nil⟩
      · obtain ⟨before, life, hsplit, hclosed, hkept⟩ := ih hbefore
        exact ⟨before, life ++ [op], by simp [hsplit], hclosed,
          by simpa [hkept] using Ne.symm hclose⟩

/-! ## One view among many -/

theorem config_step (session : Session) (op : Op) : (session.step op).config = session.config := by
  cases op with
  | apply now event =>
      cases event with
      | backfill ticket scope answer =>
          simp only [step, apply, resolve]
          split <;> rfl
      | _ => rfl
  | resolve scope ticket answer =>
      simp only [step, resolve]
      split <;> rfl
  | _ => rfl

theorem config_run (session : Session) (ops : List Op) :
    (session.run ops).config = session.config := by
  induction ops generalizing session with
  | nil => rfl
  | cons op ops ih => rw [run_cons, ih, config_step]

theorem step_of_not_concerns {view : Log.View} {action : Log.View.Op}
    (h : concerns view.scope action = false) : view.step action = view := by
  cases action with
  | push entry =>
      have hforeign : view.scope.contains entry.entity = false := h
      simp [Log.View.step, view.push_of_foreign hforeign]
  | _ => simp [concerns] at h

theorem view?_step_heard {session : Session} {view : Log.View}
    (hview : session.view? scope = some view) (hscope : view.scope = scope) {op : Op}
    (hop : op ≠ .deactivate scope) :
    (session.step op).view? scope = some (view.run (heard? scope session op).toList) := by
  rw [view?_step_of_some hview (closes_eq_false hop), heard?]
  cases hlocal : op.onView? scope ⟨session.nextTicket⟩ with
  | none => rfl
  | some action =>
      cases hconcern : concerns scope action with
      | true => simp [Option.filter, hconcern]
      | false =>
          -- A line of a foreign entity changes nothing, so not hearing of it is the same.
          have hkeep : view.step action = view := step_of_not_concerns (hscope ▸ hconcern)
          simp [Option.filter, hconcern, hkeep]

/-- As long as it is kept, a view runs on what it hears. -/
theorem view?_run_heard {session : Session} {view : Log.View}
    (hview : session.view? scope = some view) (hscope : view.scope = scope) {life : List Op}
    (hkept : .deactivate scope ∉ life) :
    (session.run life).view? scope = some (view.run (heard scope session life)) := by
  induction life generalizing session view with
  | nil => exact hview
  | cons op life ih =>
      simp only [List.mem_cons, not_or] at hkept
      have hstep := view?_step_heard hview hscope (Ne.symm hkept.1)
      have hsame : (view.run (heard? scope session op).toList).scope = scope := by
        exact (congrArg Log.View.scope (view.reset_run _)).trans hscope
      rw [run_cons, ih hstep hsame hkept.2, ← Log.View.run_append]
      rfl

theorem view?_run_eq_none_iff (config : SessionConfig) (ops : List Op) (scope : Log.Scope) :
    ((start config).run ops).view? scope = none ↔ Closed scope ops := by
  induction ops using List.reverseRecOn with
  | nil => simp [start, view?, Closed]
  | append_singleton ops op ih =>
      rw [run_append, run_cons, run_nil]
      by_cases hclose : op = .deactivate scope
      · subst hclose
        simp [step, view?_deactivate, closed_concat_deactivate]
      by_cases hopen : op = .activate scope
      · subst hopen
        simp [step, view?_activate, not_closed_concat_activate]
      rw [closed_concat_iff hopen hclose, ← ih]
      cases hview : ((start config).run ops).view? scope with
      | none => simp [view?_step_of_none hview, opens_eq_false hopen]
      | some view => simp [view?_step_of_some hview (closes_eq_false hclose)]

/-- A view that is opened anew runs on its activation and what it hears since. -/
theorem view?_run_opened (config : SessionConfig) {ops before life : List Op}
    (h : Opened scope ops before life) :
    ((start config).run ops).view? scope =
      some ((Log.View.empty scope config.logHistory.toNat config.backfill.window
        config.backfill.limit.toNat).run
          (heard scope ((start config).run before) (.activate scope :: life))) := by
  obtain ⟨rfl, hclosed, hkept⟩ := h
  have hnone := (view?_run_eq_none_iff config before scope).mpr hclosed
  have hopen : (((start config).run before).step (.activate scope)).view? scope = _ :=
    view?_step_of_none hnone
  simp only [Op.opens, decide_true, if_true] at hopen
  have hnew : ((start config).run before).newView scope =
      Log.View.empty scope config.logHistory.toNat config.backfill.window
        config.backfill.limit.toNat := by
    rw [newView, config_run]
    rfl
  have hheard : heard? scope ((start config).run before) (.activate scope) =
      some (.activate ⟨((start config).run before).nextTicket⟩) := by
    simp [heard?, Op.onView?, concerns]
  rw [run_append, run_cons, view?_run_heard hopen (Log.View.scope_step _ _) hkept, hnew]
  simp [heard, collect, hheard]

/-! ## Routing a line -/

/-- Offer a line to the view of one scope: the view takes it if it follows the
entity, and is counted then. -/
def offer (entry : Log.Entry) (routed : Std.TreeMap Log.Scope Log.View × ℕ)
    (scope : Log.Scope) : Std.TreeMap Log.Scope Log.View × ℕ :=
  match routed.1[scope]? with
  | some view =>
    if view.scope.contains entry.entity then
      (routed.1.insert scope (view.push entry).1, routed.2 + 1)
    else routed
  | none => routed

/-- The open scopes of a session, each once and in any order. -/
structure Lists (order : List Log.Scope) (session : Session) : Prop where
  nodup : order.Nodup
  mem_iff : ∀ scope, scope ∈ order ↔ (session.view? scope).isSome = true

/-- Whether the view under a scope follows an entity. -/
def follows (views : Std.TreeMap Log.Scope Log.View) (entity : EntityId) (scope : Log.Scope) :
    Bool :=
  views[scope]?.any fun view => view.scope.contains entity

section Routing

variable (entry : Log.Entry) (routed : Std.TreeMap Log.Scope Log.View × ℕ)

theorem getElem?_offer (scope other : Log.Scope) :
    (offer entry routed scope).1[other]? =
      if scope = other then routed.1[other]?.map fun view => (view.push entry).1
      else routed.1[other]? := by
  unfold offer
  split
  · next view hview =>
    split
    · simp only [Std.TreeMap.getElem?_insert, Std.compare_eq_iff_eq]
      split
      · next h => simp [← h, hview]
      · rfl
    · next hforeign =>
      have hsame : view.push entry = (view, false) := view.push_of_foreign (by simpa using hforeign)
      split
      · next h => simp [← h, hview, hsame]
      · rfl
  · next hnone =>
    split
    · next h => simp [← h, hnone]
    · rfl

theorem count_offer (scope : Log.Scope) :
    (offer entry routed scope).2 = routed.2 + (follows routed.1 entry.entity scope).toNat := by
  unfold offer follows
  split
  · next view hview =>
    cases hfollow : view.scope.contains entry.entity <;> simp [hview, hfollow]
  · next hnone => simp [hnone]

/-- Offering a line to several scopes reaches each of their views once. -/
theorem getElem?_foldl_offer {order : List Log.Scope} (h : order.Nodup) (scope : Log.Scope) :
    (order.foldl (offer entry) routed).1[scope]? =
      if scope ∈ order then routed.1[scope]?.map fun view => (view.push entry).1
      else routed.1[scope]? := by
  induction order generalizing routed with
  | nil => rfl
  | cons head order ih =>
      obtain ⟨hhead, horder⟩ := List.nodup_cons.mp h
      rw [List.foldl_cons, ih _ horder, getElem?_offer]
      by_cases hscope : head = scope
      · subst hscope
        simp [hhead]
      · simp [hscope, Ne.symm hscope]

theorem count_foldl_offer {order : List Log.Scope} (h : order.Nodup) :
    (order.foldl (offer entry) routed).2 =
      routed.2 + order.countP (follows routed.1 entry.entity) := by
  induction order generalizing routed with
  | nil => rfl
  | cons head order ih =>
      obtain ⟨hhead, horder⟩ := List.nodup_cons.mp h
      -- The views of the other scopes are as they were, so they follow what they followed.
      have hrest : order.countP (follows (offer entry routed head).1 entry.entity) =
          order.countP (follows routed.1 entry.entity) := by
        refine List.countP_congr fun scope hmem => ?_
        have hne : head ≠ scope := fun heq => hhead (heq ▸ hmem)
        simp [follows, getElem?_offer, hne]
      rw [List.foldl_cons, ih _ horder, hrest, count_offer, List.countP_cons, Nat.add_assoc,
        Nat.add_comm (Bool.toNat _)]
      cases follows routed.1 entry.entity head <;> rfl

end Routing

section Order

variable {session : Session} {order : List Log.Scope}

theorem lists_keys (session : Session) : Lists session.views.keys session where
  nodup := Std.TreeMap.nodup_keys
  mem_iff scope := by
    rw [Std.TreeMap.mem_keys, view?, Std.TreeMap.isSome_getElem?_iff_mem]

/-- Since views are filed under their own scopes, the scopes tell which follow an
entity. -/
theorem countP_follows (hfiled : session.Filed) (h : Lists order session) (entity : EntityId) :
    order.countP (follows session.views entity) =
      order.countP fun scope => scope.contains entity := by
  refine List.countP_congr fun scope hmem => ?_
  obtain ⟨view, hview⟩ := Option.isSome_iff_exists.mp ((h.mem_iff scope).mp hmem)
  have hscope := (hfiled scope view hview).1
  simp [follows, getElem?_views, hview, hscope]

theorem values_eq (views : Std.TreeMap Log.Scope Log.View) :
    views.values = views.toList.map Prod.snd := by
  have hfold : views.values = views.foldr (fun _ view rest => view :: rest) [] := rfl
  rw [hfold, Std.TreeMap.foldr_eq_foldr_toList, List.map_eq_foldr]

theorem followers_eq (hfiled : session.Filed) (h : Lists order session) (entity : EntityId) :
    session.followers entity = order.countP fun scope => scope.contains entity := by
  have hperm : session.views.keys.Perm order :=
    (List.perm_ext_iff_of_nodup (lists_keys session).nodup h.nodup).mpr fun scope =>
      ((lists_keys session).mem_iff scope).trans (h.mem_iff scope).symm
  calc
    session.followers entity =
        session.views.toList.countP fun item => item.2.scope.contains entity := by
      rw [followers, values_eq, List.countP_map]
      rfl
    _ = session.views.toList.countP fun item => item.1.contains entity := by
      refine List.countP_congr fun item hmem => ?_
      have hview := Std.TreeMap.mem_toList_iff_getElem?_eq_some.mp hmem
      rw [(hfiled item.1 item.2 hview).1]
    _ = session.views.keys.countP fun scope => scope.contains entity := by
      rw [← Std.TreeMap.map_fst_toList_eq_keys, List.countP_map]
      rfl
    _ = order.countP fun scope => scope.contains entity := hperm.countP_eq _

/-- Going through the open views in any order ends in the same views and the same
count. -/
theorem foldl_offer (hfiled : session.Filed) (h : Lists order session) (entry : Log.Entry) :
    (order.foldl (offer entry) (session.views, 0)).1.Equiv (session.pushLog entry).1.views ∧
      (order.foldl (offer entry) (session.views, 0)).2 = (session.pushLog entry).2 := by
  constructor
  · refine Std.TreeMap.Equiv.of_forall_constGet?_eq fun scope => ?_
    rw [getElem?_foldl_offer _ _ h.nodup, getElem?_views, getElem?_views, view?_pushLog]
    split
    · rfl
    · next hclosed =>
      have hnone : session.view? scope = none := by
        simpa [h.mem_iff] using hclosed
      simp [hnone]
  · rw [count_foldl_offer _ _ h.nodup, Nat.zero_add, countP_follows hfiled h]
    exact (followers_eq hfiled h entry.entity).symm

end Order

/-- After any run, the view of a scope is closed exactly if the scope was not
activated since its last deactivation. An open one is what a view of its own
becomes on the operations since it was opened that concern it, and on no others. A
line is counted once for every open scope that contains its entity, whatever order
the views are visited in. -/
theorem view?_run (config : SessionConfig) (ops : List Op) (scope : Log.Scope) :
    let session := (start config).run ops
    (session.view? scope = none ↔ Closed scope ops) ∧
    (¬ Closed scope ops → ∃ before life, Opened scope ops before life) ∧
    (∀ before life, Opened scope ops before life →
      session.view? scope =
        some ((Log.View.empty scope config.logHistory.toNat config.backfill.window
          config.backfill.limit.toNat).run
            (heard scope ((start config).run before) (.activate scope :: life)))) ∧
    ∀ entry order, Lists order session →
      (session.pushLog entry).2 = order.countP (fun other => other.contains entry.entity) ∧
      (order.foldl (offer entry) (session.views, 0)).2 = (session.pushLog entry).2 ∧
      (order.foldl (offer entry) (session.views, 0)).1.Equiv (session.pushLog entry).1.views := by
  intro session
  have hfiled : session.Filed := (filed_start config).run ops
  refine ⟨view?_run_eq_none_iff config ops scope, exists_opened, ?_, ?_⟩
  · intro before life hopened
    exact view?_run_opened config hopened
  · intro entry order hlists
    obtain ⟨hviews, hcount⟩ := foldl_offer hfiled hlists entry
    exact ⟨followers_eq hfiled hlists entry.entity, hcount, hviews⟩

end Dashboard.Session
