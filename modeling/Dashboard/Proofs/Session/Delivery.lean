import Dashboard.Proofs.Session.Isolation
import Dashboard.Proofs.Session.Task

/-! # Delivery of answers

However its task ends, a query is answered exactly once while somebody receives, and
once the queue has been drained, the view that asked waits no longer. -/

namespace Dashboard.Session

variable {session : Session} {scope : Log.Scope} {ticket : Log.Ticket}

/-! ## The view that asked -/

theorem Move.of_done {next : Log.Ticket} {before after : Option Log.QueryState}
    {issue merge : Option (Log.Scope × Log.Ticket)}
    (h : Move scope next before after issue merge) (hbefore : before = some .done) :
    after = some .done := by
  cases h with
  | opened => simp at hbefore
  | answered own => rfl
  | kept => exact hbefore

theorem Move.of_waiting {next : Log.Ticket} {before after : Option Log.QueryState}
    {issue merge : Option (Log.Scope × Log.Ticket)}
    (h : Move scope next before after issue merge) (hbefore : before = some (.pending ticket)) :
    after = some (.pending ticket) ∨ after = some .done := by
  cases h with
  | opened => simp at hbefore
  | answered own => exact .inr rfl
  | kept => exact .inl hbefore

/-- The query of a view has been answered, or its answer is still to come. -/
def Asked (session : Session) (request : Log.Request) : Prop :=
  session.query? request.scope = some .done ∨
    session.query? request.scope = some (.pending request.ticket)

variable {request : Log.Request}

theorem Asked.step (h : session.Asked request) (hfiled : session.Filed) {op : Op}
    (hop : op ≠ .deactivate request.scope) : (session.step op).Asked request := by
  have hmove := move_step hfiled (closes_eq_false hop)
  rcases h with hdone | hpending
  · exact .inl (hmove.of_done hdone)
  · exact (hmove.of_waiting hpending).symm

/-- Applying queued events keeps a query answered, and answers it if its answer is
among them. -/
theorem query?_applyAll (h : session.Asked request) (hfiled : session.Filed) (now : ℕ)
    (events : List Event) :
    (session.applyAll now events).Filed ∧ (session.applyAll now events).Asked request ∧
      (session.query? request.scope = some .done ∨
        (∃ answer, .backfill request.ticket request.scope answer ∈ events) →
          (session.applyAll now events).query? request.scope = some .done) := by
  induction events generalizing session with
  | nil => exact ⟨hfiled, h, by simp [applyAll]⟩
  | cons event events ih =>
      have hop : Op.apply now event ≠ .deactivate request.scope := by simp
      obtain ⟨hrun, hasked, hdone⟩ := ih (h.step hfiled hop) (hfiled.step (.apply now event))
      refine ⟨hrun, hasked, fun hcause => hdone ?_⟩
      rcases hcause with hbefore | ⟨answer, hmem⟩
      · exact .inl ((move_step hfiled (closes_eq_false hop)).of_done hbefore)
      rcases List.mem_cons.mp hmem with rfl | hmem
      · left
        have hresolve := session.query?_step_resolve request.scope request.ticket answer
        rcases h with hbefore | hpending
        · exact (move_step hfiled (closes_eq_false hop)).of_done hbefore
        · rw [if_pos hpending] at hresolve
          exact hresolve
      · exact .inr ⟨answer, hmem⟩

/-- While somebody receives, the view that asked has been answered, or its answer is
queued, or the task that will answer it is still running. -/
structure Attended (query : Query) (world : World) : Prop where
  filed : world.session.Filed
  isOpen : world.mailbox.isOpen = true
  asked : world.session.Asked query.request
  answer : world.session.query? query.request.scope = some .done ∨
    (∃ answer, .backfill query.request.ticket query.request.scope answer ∈ world.mailbox.events) ∨
      world.progress.ending? = none

theorem mem_events_post {mailbox : Mailbox} (hopen : mailbox.isOpen = true) (event : Event) :
    (mailbox.post event).events = mailbox.events ++ [event] := by
  simp [Mailbox.post, hopen]

theorem Attended.step {query : Query} {world : World} (h : Attended query world)
    {happening : Happening} (hhang : happening ≠ .hangUp)
    (hclose : happening ≠ .operate (.deactivate query.request.scope)) :
    Attended query (query.step world happening) := by
  have hopen : (query.step world happening).mailbox.isOpen = true :=
    (Query.isOpen_step hhang).trans h.isOpen
  cases hverdict : query.verdict? world.progress happening with
  | some ending =>
      -- The task ends: from now on its answer is in the queue.
      rw [Query.step_of_verdict hverdict] at hopen ⊢
      refine ⟨h.filed, hopen, h.asked, .inr (.inl ⟨ending.answer, ?_⟩)⟩
      rw [Query.mailbox_finish, mem_events_post h.isOpen]
      simp [Query.event]
  | none =>
      have hprogress := Query.ending?_step_of_none hverdict
      rw [Query.step_of_none hverdict] at hopen hprogress ⊢
      cases happening with
      | poll now => exact ⟨h.filed, hopen, h.asked, hprogress ▸ h.answer⟩
      | abort => exact h
      | post event =>
          refine ⟨h.filed, hopen, h.asked, ?_⟩
          rcases h.answer with hdone | ⟨answer, hmem⟩ | hrunning
          · exact .inl hdone
          · refine .inr (.inl ⟨answer, ?_⟩)
            simp only [Query.carryOn, mem_events_post h.isOpen]
            exact List.mem_append_left _ hmem
          · exact .inr (.inr hrunning)
      | operate op =>
          have hop : op ≠ .deactivate query.request.scope := by
            rintro rfl
            exact hclose rfl
          refine ⟨h.filed.step op, hopen, h.asked.step h.filed hop, ?_⟩
          rcases h.answer with hdone | hrest
          · exact .inl ((move_step h.filed (closes_eq_false hop)).of_done hdone)
          · exact .inr hrest
      | drain now =>
          -- A queued answer leaves the queue, and has been applied to the view by then.
          obtain ⟨hfiled, hasked, hdone⟩ :=
            query?_applyAll h.asked h.filed now world.mailbox.events
          refine ⟨hfiled, hopen, hasked, ?_⟩
          rcases h.answer with hbefore | hmem | hrunning
          · exact .inl (hdone (.inl hbefore))
          · exact .inl (hdone (.inr hmem))
          · exact .inr (.inr hrunning)
      | hangUp => exact absurd rfl hhang

theorem Attended.run {query : Query} {world : World} (h : Attended query world)
    {happenings : List Happening} (hhang : .hangUp ∉ happenings)
    (hclose : .operate (.deactivate query.request.scope) ∉ happenings) :
    Attended query (query.run world happenings) := by
  induction happenings generalizing world with
  | nil => exact h
  | cons happening rest ih =>
      simp only [List.mem_cons, not_or] at hhang hclose
      exact ih (h.step (Ne.symm hhang.1) (Ne.symm hclose.1)) hhang.2 hclose.2

/-- Once the task has ended and the queue is drained, an attended view waits no
longer. -/
theorem Attended.done_of_drain {query : Query} {world : World} (h : Attended query world)
    {ending : Ending} (hended : world.progress = .ended ending) (now : ℕ) :
    (world.session.drain now world.mailbox).1.query? query.request.scope = some .done := by
  refine (query?_applyAll h.asked h.filed now world.mailbox.events).2.2 ?_
  rcases h.answer with hdone | hmem | hrunning
  · exact .inl hdone
  · exact .inr hmem
  · simp [hended, Progress.ending?] at hrunning

theorem query?_activate_of_issued (hfiled : session.Filed) {scope : Log.Scope}
    (h : (session.activate scope).2 = some request) :
    (session.activate scope).1.query? request.scope = some (.pending request.ticket) := by
  have hissue : session.issue? (.activate scope) = some (request.scope, request.ticket) := by
    simp [issue?, h]
  rw [issue?_activate hfiled] at hissue
  split at hissue
  · next hclosed =>
    obtain ⟨rfl, hticket⟩ : scope = request.scope ∧ (⟨session.nextTicket⟩ : Log.Ticket) =
        request.ticket := by simpa using hissue
    have hnone : session.view? request.scope = none := by simpa [query?] using hclosed
    have hopen : (session.step (.activate request.scope)).view? request.scope = _ :=
      view?_step_of_none hnone
    simp only [step, Op.opens, decide_true, if_true] at hopen
    rw [query?, hopen, ← hticket]
    rfl
  · simp at hissue

/-! ## Delivery -/

/-- Times at which the runtime has reason to poll a task, from its first poll on: at
once, and when its fetch ends or its deadline passes. -/
def Query.wakeUps (query : Query) : List ℕ :=
  [0, (query.fetch.endingBy query.timeout).1]

/-- A task that is polled whenever there is reason to, and aborted at some time
before it would be polled, if at all. -/
def Query.timetable (query : Query) : Option ℕ → List Happening
  | none => query.wakeUps.map .poll
  | some abort =>
    (query.wakeUps.takeWhile fun time => time < abort).map .poll ++
      .abort :: (query.wakeUps.dropWhile fun time => time < abort).map .poll

namespace Query

variable (query : Query) {world : World} {ending : Ending}

theorem run_polls_of_ended (h : world.progress = .ended ending) (times : List ℕ) :
    query.run world (times.map .poll) = world := by
  have hpoll : ∀ time, query.step world (.poll time) = world := by
    intro time
    rw [step_of_none (verdict?_of_ended h)]
    cases world
    simp_all [carryOn, Progress.started]
  induction times with
  | nil => rfl
  | cons time times ih => rw [List.map_cons, run_cons, hpoll, ih]

theorem step_abort_of_ended (h : world.progress = .ended ending) :
    query.step world .abort = world :=
  step_of_none (verdict?_of_ended h)

variable (session : Session) (mailbox : Mailbox)

theorem step_poll_zero (h : 0 < (query.fetch.endingBy query.timeout).1) :
    query.step ⟨session, mailbox, .spawned⟩ (.poll 0) = ⟨session, mailbox, .waiting 0⟩ :=
  step_of_none (query.fetch.decision?_before_endingBy query.timeout h)

theorem run_wakeUps :
    query.run ⟨session, mailbox, .spawned⟩ (query.wakeUps.map .poll) =
      query.finish ⟨session, mailbox, .spawned⟩ (query.fetch.endingBy query.timeout).2 := by
  have hdecision := query.fetch.decision?_endingBy query.timeout
  simp only [wakeUps, List.map_cons, List.map_nil]
  rcases Nat.eq_zero_or_pos (query.fetch.endingBy query.timeout).1 with hzero | hlater
  · -- The first poll decides already, and the second finds the task ended.
    have hfirst : query.step ⟨session, mailbox, .spawned⟩ (.poll 0) =
        query.finish ⟨session, mailbox, .spawned⟩ (query.fetch.endingBy query.timeout).2 := by
      refine step_of_verdict ?_
      rwa [hzero] at hdecision
    rw [run_cons, hfirst]
    exact query.run_polls_of_ended rfl [_]
  · rw [run_cons, query.step_poll_zero session mailbox hlater, run_cons, run_nil]
    have hsecond : query.step ⟨session, mailbox, .waiting 0⟩
        (.poll (query.fetch.endingBy query.timeout).1) =
          query.finish ⟨session, mailbox, .waiting 0⟩ (query.fetch.endingBy query.timeout).2 :=
      step_of_verdict hdecision
    exact hsecond

/-- A task that is polled and aborted by the timetable ends as its fetch, its deadline
and the abort say. -/
theorem run_timetable (abort : Option ℕ) :
    query.run ⟨session, mailbox, .spawned⟩ (query.timetable abort) =
      query.finish ⟨session, mailbox, .spawned⟩ (query.fetch.taskEnding query.timeout abort) := by
  cases abort with
  | none => exact query.run_wakeUps session mailbox
  | some abort =>
      by_cases hearly : abort ≤ (query.fetch.endingBy query.timeout).1
      · have hending : query.fetch.taskEnding query.timeout (some abort) = .aborted := by
          simp [Fetch.taskEnding, hearly]
        rw [hending]
        rcases Nat.eq_zero_or_pos abort with rfl | hpos
        · exact query.run_polls_of_ended rfl query.wakeUps
        · have hsplit : query.timetable (some abort) = .poll 0 :: .abort ::
              [(query.fetch.endingBy query.timeout).1].map .poll := by
            simp [timetable, wakeUps, hpos, hearly]
          rw [hsplit, run_cons, query.step_poll_zero session mailbox (by omega), run_cons]
          exact query.run_polls_of_ended rfl [_]
      · have hending : query.fetch.taskEnding query.timeout (some abort) =
            (query.fetch.endingBy query.timeout).2 := by
          simp [Fetch.taskEnding, hearly]
        have hpos : 0 < abort := by omega
        have hsplit : query.timetable (some abort) = query.wakeUps.map .poll ++ [.abort] := by
          simp [timetable, wakeUps, hpos, Nat.lt_of_not_le hearly]
        rw [hending, hsplit, run_append, query.run_wakeUps, run_cons, run_nil]
        exact query.step_abort_of_ended rfl

end Query

/-- The task of a query in a world, whatever happens around it: when it has ended and
what decided that, what it has posted and when, and what becomes of the view that
asked. -/
structure AnsweredOnce (query : Query) (world : World) (happenings : List Happening) : Prop where
  ended_iff : ∀ ending, (query.run world happenings).progress = .ended ending ↔
    ∃ before moment after, happenings = before ++ moment :: after ∧
      Query.Decides query (query.run world before).progress moment ending
  unsent : (query.run world happenings).progress.ending? = none →
    query.sent world happenings = []
  sent_once : ∀ before moment after ending, happenings = before ++ moment :: after →
    Query.Decides query (query.run world before).progress moment ending →
      query.sent world happenings =
        if (query.run world before).mailbox.isOpen then
          [.backfill query.request.ticket query.request.scope ending.answer]
        else []
  receives_iff : (query.run world happenings).mailbox.isOpen = true ↔
    world.mailbox.isOpen = true ∧ .hangUp ∉ happenings
  settled : ∀ ending now, (query.run world happenings).progress = .ended ending →
    world.mailbox.isOpen = true → .hangUp ∉ happenings →
    .operate (.deactivate query.request.scope) ∉ happenings →
      ∃ view, ((query.run world happenings).session.drain now
        (query.run world happenings).mailbox).1.view? query.request.scope = some view ∧
          view.state = .done

/-- A request issued by a session is answered once, however its task ends and whatever
happens meanwhile: the task is ended by its fetch, its deadline or an abort, whichever
is first, posts the answer that fits at that moment if somebody receives, and posts
nothing else. After the queue is drained the view that asked, if not closed, has its
answer. A task polled and aborted by the timetable does what running the query to its
end says. -/
theorem answeredOnce_run (config : SessionConfig) (ops : List Op) (scope : Log.Scope)
    {request : Log.Request} (h : (((start config).run ops).activate scope).2 = some request)
    (fetch : Fetch) (timeout : Duration) (mailbox : Mailbox) (happenings : List Happening) :
    let query : Query := ⟨request, fetch, timeout⟩
    let session := (((start config).run ops).activate scope).1
    AnsweredOnce query ⟨session, mailbox, .spawned⟩ happenings ∧
    ∀ abort,
      let (after, ending) := runQuery fetch request timeout abort mailbox
      query.run ⟨session, mailbox, .spawned⟩ (query.timetable abort) =
          ⟨session, after, .ended ending⟩ ∧
        after = mailbox.post (.backfill request.ticket request.scope ending.answer) := by
  intro query session
  refine ⟨⟨?_, ?_, ?_, ?_, ?_⟩, ?_⟩
  · exact Query.progress_run_eq_ended_iff rfl happenings
  · exact Query.sent_of_running
  · rintro before moment after ending rfl hdecides
    exact Query.sent_of_decides hdecides
  · exact query.isOpen_run_eq_true_iff _ happenings
  · intro ending now hended hopen hhang hclose
    have hfiled : ((start config).run ops).Filed := (filed_start config).run ops
    have hasked : session.query? request.scope = some (.pending request.ticket) :=
      query?_activate_of_issued hfiled h
    have hattended : Attended query ⟨session, mailbox, .spawned⟩ :=
      ⟨hfiled.step (.activate scope), hopen, .inr hasked, .inr (.inr rfl)⟩
    have hdone := (hattended.run hhang hclose).done_of_drain hended now
    exact Option.map_eq_some_iff.mp hdone
  · intro abort
    exact ⟨query.run_timetable session mailbox abort, Ending.deliver_eq _ _ _⟩

/-- A task that is aborted while it waits answers so, once, and the view is done after
the queue, with the lines of others, is drained. -/
theorem answeredOnce_run_of_abort :
    let web : Log.Scope := .entity ⟨"web"⟩
    let session := ((start {}).activate web).1
    let request : Log.Request := ⟨⟨0⟩, web, ({} : SessionConfig).backfill.window, 500⟩
    let query : Query := ⟨request, .stalls, ⟨5, by decide⟩⟩
    let line : Happening := .post (.log (Log.View.webLine 7 "live"))
    let happenings := [line, .poll 3, .abort, .poll 9, line]
    ((start {}).activate web).2 = some request ∧
      query.sent ⟨session, .empty, .spawned⟩ happenings =
        [.backfill ⟨0⟩ web (.failure .aborted)] ∧
      ∃ view, ((query.run ⟨session, .empty, .spawned⟩ happenings).session.drain 9
        (query.run ⟨session, .empty, .spawned⟩ happenings).mailbox).1.view? web = some view ∧
          view.state = .done := by
  intro web session request query line happenings
  have h : ((start {}).activate web).2 = some request := rfl
  obtain ⟨hanswer, -⟩ := answeredOnce_run {} [] web h .stalls ⟨5, by decide⟩ .empty happenings
  have haborted : Query.Decides query
      (query.run ⟨session, .empty, .spawned⟩ [line, .poll 3]).progress .abort .aborted :=
    .aborted rfl
  refine ⟨h, hanswer.sent_once [line, .poll 3] .abort [.poll 9, line] .aborted rfl haborted, ?_⟩
  refine hanswer.settled .aborted 9 ?_ rfl (by simp [happenings, line]) (by simp [happenings, line])
  exact (hanswer.ended_iff .aborted).mpr ⟨[line, .poll 3], .abort, [.poll 9, line], rfl, haborted⟩

end Dashboard.Session
