import Dashboard.Proofs.Session.Tickets
import Dashboard.Session.Query

/-! # The task of a query

While the task of a query runs, other things happen: events are posted, the owner
uses its session and drains the queue, the receiver goes away, the task is aborted.
A world holds what these act on, and takes one of them at a time, in any order. The
task ends at the first of them that decides it, posts its answer then, and nothing
before or after. -/

namespace Dashboard.Session

/-! ## How a task ends -/

/-- What a fetch looks like some time after its start, under a deadline: its own end
is seen first, and the deadline only while it has none. -/
def Fetch.decision? (fetch : Fetch) (timeout : Duration) (elapsed : ℕ) : Option Ending :=
  let expired := if timeout.nanos ≤ elapsed then
    some (.answered (.failure (.timedOut timeout))) else none
  match fetch.ending? with
  | some (time, ending) => if time ≤ elapsed then some ending else expired
  | none => expired

/-- The answer posted for an ending. -/
def Ending.answer : Ending → Log.Answer
  | .answered answer => answer
  | .crashed | .aborted => .failure .aborted

theorem Fetch.decision?_eq_some_iff (fetch : Fetch) (timeout : Duration) (elapsed : ℕ)
    (ending : Ending) :
    fetch.decision? timeout elapsed = some ending ↔
      (∃ time, fetch.ending? = some (time, ending) ∧ time ≤ elapsed) ∨
        (∀ time own, fetch.ending? = some (time, own) → elapsed < time) ∧
          timeout.nanos ≤ elapsed ∧ .answered (.failure (.timedOut timeout)) = ending := by
  unfold decision?
  cases fetch.ending? with
  | none => simp
  | some item =>
      obtain ⟨time, own⟩ := item
      -- A fetch that has ended by now hides the deadline.
      by_cases hreached : time ≤ elapsed
      · simp [hreached, Nat.not_lt.mpr hreached]
      · simp [hreached, Nat.lt_of_not_le hreached]

/-- A fetch with a deadline is undecided until the time it ends, and is seen then to
end the way it does. -/
theorem Fetch.decision?_before_endingBy (fetch : Fetch) (timeout : Duration) {elapsed : ℕ}
    (h : elapsed < (fetch.endingBy timeout).1) : fetch.decision? timeout elapsed = none := by
  unfold endingBy at h
  unfold decision?
  cases hends : fetch.ending? with
  | none =>
      simp only [hends] at h
      simp [Nat.not_le.mpr h]
  | some item =>
      obtain ⟨time, own⟩ := item
      simp only [hends] at h
      split at h
      · next hin =>
        have hlate : ¬ timeout.nanos ≤ elapsed := by omega
        simp [Nat.not_le.mpr h, hlate]
      · next hin =>
        have hreached : ¬ time ≤ elapsed := by omega
        simp [Nat.not_le.mpr h, hreached]

theorem Fetch.decision?_endingBy (fetch : Fetch) (timeout : Duration) :
    fetch.decision? timeout (fetch.endingBy timeout).1 = some (fetch.endingBy timeout).2 := by
  unfold decision? endingBy
  cases fetch.ending? with
  | none => simp
  | some item =>
      obtain ⟨time, own⟩ := item
      by_cases hin : time ≤ timeout.nanos <;> simp [hin]

/-- However a task ends, its reply is sent once: by itself or by being dropped. -/
theorem Ending.deliver_eq (ending : Ending) (request : Log.Request) (mailbox : Mailbox) :
    ending.deliver request mailbox =
      mailbox.post (.backfill request.ticket request.scope ending.answer) := by
  cases ending <;> rfl

/-! ## Worlds -/

/-- A request that is being run: what the transport does with it, and its deadline. -/
structure Query where
  request : Log.Request
  fetch : Fetch
  timeout : Duration

/-- How far a task has come. -/
inductive Progress where
  /-- Not polled yet. -/
  | spawned
  /-- The fetch was started at a time and is waited for. -/
  | waiting (since : ℕ)
  | ended (ending : Ending)
deriving DecidableEq

namespace Progress

/-- When the fetch of a task was started that is polled now; none if the task has
ended. -/
def since? (now : ℕ) : Progress → Option ℕ
  | spawned => some now
  | waiting since => some since
  | ended _ => none

/-- A task that was polled and has to wait. -/
def started (now : ℕ) : Progress → Progress
  | spawned => waiting now
  | progress => progress

def ending? : Progress → Option Ending
  | ended ending => some ending
  | _ => none

end Progress

/-- A session, its queue and the task of one query. -/
structure World where
  session : Session
  mailbox : Mailbox
  progress : Progress

inductive Happening where
  /-- The runtime polls the task. -/
  | poll (now : ℕ)
  /-- An abort of the task takes effect. -/
  | abort
  /-- Somebody else posts an event. -/
  | post (event : Event)
  /-- The owner uses its session. -/
  | operate (op : Op)
  /-- The owner applies every queued event. -/
  | drain (now : ℕ)
  /-- The receiver goes away, and what is queued with it. -/
  | hangUp

namespace Query

/-- The event that answers a query. -/
def event (query : Query) (ending : Ending) : Event :=
  .backfill query.request.ticket query.request.scope ending.answer

/-- How a happening ends the task, if it does. -/
def verdict? (query : Query) (progress : Progress) : Happening → Option Ending
  | .poll now => (progress.since? now).bind fun since =>
      query.fetch.decision? query.timeout (now - since)
  | .abort => if progress.ending?.isNone then some .aborted else none
  | _ => none

def finish (query : Query) (world : World) (ending : Ending) : World :=
  { world with
    mailbox := ending.deliver query.request world.mailbox
    progress := .ended ending }

/-- A world after something that does not end the task. -/
def carryOn (world : World) : Happening → World
  | .poll now => { world with progress := world.progress.started now }
  | .abort => world
  | .post event => { world with mailbox := world.mailbox.post event }
  | .operate op => { world with session := world.session.step op }
  | .drain now =>
    let (session, mailbox, _) := world.session.drain now world.mailbox
    { world with session, mailbox }
  | .hangUp => { world with mailbox := .abandoned }

def step (query : Query) (world : World) (happening : Happening) : World :=
  match query.verdict? world.progress happening with
  | some ending => query.finish world ending
  | none => carryOn world happening

def run (query : Query) (world : World) (happenings : List Happening) : World :=
  happenings.foldl query.step world

/-- Events the task itself puts into the queue at a happening. -/
def posts (query : Query) (world : World) : Happening → List Event
  | .poll now =>
    (query.step world (.poll now)).mailbox.events.drop world.mailbox.events.length
  | .abort => (query.step world .abort).mailbox.events.drop world.mailbox.events.length
  | _ => []

/-- Events the task itself puts into the queue during several happenings. -/
def sent (query : Query) : World → List Happening → List Event
  | _, [] => []
  | world, happening :: rest =>
    query.posts world happening ++ query.sent (query.step world happening) rest

/-- What ends a task that is still running: the end of its fetch, its deadline if
the fetch has not ended, or an abort. -/
inductive Decides (query : Query) (progress : Progress) : Happening → Ending → Prop where
  | fetched {now since time ending} (running : progress.since? now = some since)
      (ends : query.fetch.ending? = some (time, ending)) (reached : time ≤ now - since) :
      Decides query progress (.poll now) ending
  | expired {now since} (running : progress.since? now = some since)
      (unfinished : ∀ time ending, query.fetch.ending? = some (time, ending) → now - since < time)
      (late : query.timeout.nanos ≤ now - since) :
      Decides query progress (.poll now) (.answered (.failure (.timedOut query.timeout)))
  | aborted (running : progress.ending? = none) : Decides query progress .abort .aborted

variable (query : Query)

@[simp] theorem run_nil (world : World) : query.run world [] = world := rfl

@[simp] theorem run_cons (world : World) (happening : Happening) (rest : List Happening) :
    query.run world (happening :: rest) = query.run (query.step world happening) rest := rfl

@[simp] theorem run_append (world : World) (front back : List Happening) :
    query.run world (front ++ back) = query.run (query.run world front) back :=
  List.foldl_append

theorem sent_append (world : World) (front back : List Happening) :
    query.sent world (front ++ back) =
      query.sent world front ++ query.sent (query.run world front) back := by
  induction front generalizing world with
  | nil => rfl
  | cons happening front ih => simp [sent, ih]

theorem verdict?_eq_some_iff (progress : Progress) (happening : Happening) (ending : Ending) :
    query.verdict? progress happening = some ending ↔ Decides query progress happening ending := by
  constructor
  · intro h
    cases happening with
    | poll now =>
        obtain ⟨since, hsince, hdecision⟩ := Option.bind_eq_some_iff.mp h
        rcases (Fetch.decision?_eq_some_iff _ _ _ _).mp hdecision with
          ⟨time, hends, hreached⟩ | ⟨hunfinished, hlate, rfl⟩
        · exact .fetched hsince hends hreached
        · exact .expired hsince hunfinished hlate
    | abort =>
        obtain ⟨hrunning, rfl⟩ : progress.ending? = none ∧ .aborted = ending := by
          simpa [verdict?] using h
        exact .aborted hrunning
    | _ => simp [verdict?] at h
  · intro h
    cases h with
    | fetched hsince hends hreached =>
        refine Option.bind_eq_some_iff.mpr ⟨_, hsince, ?_⟩
        exact (Fetch.decision?_eq_some_iff _ _ _ _).mpr (.inl ⟨_, hends, hreached⟩)
    | expired hsince hunfinished hlate =>
        refine Option.bind_eq_some_iff.mpr ⟨_, hsince, ?_⟩
        exact (Fetch.decision?_eq_some_iff _ _ _ _).mpr (.inr ⟨hunfinished, hlate, rfl⟩)
    | aborted hrunning => simp [verdict?, hrunning]

/-! ## The end of a task -/

variable {query} {world : World} {happening : Happening} {ending : Ending}

theorem step_of_verdict (h : query.verdict? world.progress happening = some ending) :
    query.step world happening = query.finish world ending := by
  simp [step, h]

theorem step_of_none (h : query.verdict? world.progress happening = none) :
    query.step world happening = carryOn world happening := by
  simp [step, h]

theorem mailbox_finish (query : Query) (world : World) (ending : Ending) :
    (query.finish world ending).mailbox = world.mailbox.post (query.event ending) :=
  ending.deliver_eq query.request world.mailbox

theorem verdict?_of_ended (h : world.progress = .ended ending) :
    query.verdict? world.progress happening = none := by
  cases happening <;> simp [verdict?, h, Progress.since?, Progress.ending?]

theorem progress_step_of_ended (h : world.progress = .ended ending) :
    (query.step world happening).progress = .ended ending := by
  rw [step_of_none (verdict?_of_ended h)]
  cases happening <;> simp [carryOn, h, Progress.started]

theorem ending?_step_of_none (h : query.verdict? world.progress happening = none) :
    (query.step world happening).progress.ending? = world.progress.ending? := by
  rw [step_of_none h]
  cases happening <;> simp only [carryOn]
  cases world.progress <;> rfl

theorem posts_of_verdict (h : query.verdict? world.progress happening = some ending) :
    query.posts world happening =
      if world.mailbox.isOpen then [query.event ending] else [] := by
  have hmailbox : (query.step world happening).mailbox =
      world.mailbox.post (query.event ending) := by
    rw [step_of_verdict h, mailbox_finish]
  cases happening with
  | poll now =>
      simp only [posts, hmailbox, Mailbox.post]
      split <;> simp
  | abort =>
      simp only [posts, hmailbox, Mailbox.post]
      split <;> simp
  | _ => simp [verdict?] at h

theorem posts_of_none (h : query.verdict? world.progress happening = none) :
    query.posts world happening = [] := by
  cases happening <;> simp [posts, step_of_none h, carryOn]

/-! ## Runs -/

theorem progress_run_of_ended (h : world.progress = .ended ending) (happenings : List Happening) :
    (query.run world happenings).progress = .ended ending := by
  induction happenings generalizing world with
  | nil => exact h
  | cons happening rest ih => exact ih (progress_step_of_ended h)

/-- A task that has ended posts nothing more, whether it is polled or aborted. -/
theorem sent_of_ended (h : world.progress = .ended ending) (happenings : List Happening) :
    query.sent world happenings = [] := by
  induction happenings generalizing world with
  | nil => rfl
  | cons happening rest ih =>
      rw [sent, posts_of_none (verdict?_of_ended h), ih (progress_step_of_ended h), List.nil_append]

theorem verdict?_of_running {rest : List Happening}
    (h : (query.run (query.step world happening) rest).progress.ending? = none) :
    query.verdict? world.progress happening = none := by
  cases hverdict : query.verdict? world.progress happening with
  | none => rfl
  | some ending =>
      -- Otherwise the task would have ended here and stayed so to the end of the run.
      have hended : (query.step world happening).progress = .ended ending := by
        rw [step_of_verdict hverdict]
        rfl
      rw [progress_run_of_ended hended] at h
      simp [Progress.ending?] at h

theorem sent_of_running {happenings : List Happening}
    (h : (query.run world happenings).progress.ending? = none) :
    query.sent world happenings = [] := by
  induction happenings generalizing world with
  | nil => rfl
  | cons happening rest ih =>
      rw [sent, posts_of_none (verdict?_of_running h), ih h, List.nil_append]

theorem progress_run_eq_ended_iff (hrunning : world.progress.ending? = none)
    (happenings : List Happening) (ending : Ending) :
    (query.run world happenings).progress = .ended ending ↔
      ∃ before moment after, happenings = before ++ moment :: after ∧
        Decides query (query.run world before).progress moment ending := by
  constructor
  · intro h
    induction happenings generalizing world with
    | nil =>
        have hended : world.progress = .ended ending := h
        simp [hended, Progress.ending?] at hrunning
    | cons happening rest ih =>
        cases hverdict : query.verdict? world.progress happening with
        | some own =>
            -- An end is kept, so the one decided here is the one seen after the run.
            have hended : (query.step world happening).progress = .ended own := by
              rw [step_of_verdict hverdict]
              rfl
            obtain rfl : own = ending := by
              rw [run_cons, progress_run_of_ended hended] at h
              exact Progress.ended.inj h
            exact ⟨[], happening, rest, rfl, (query.verdict?_eq_some_iff _ _ _).mp hverdict⟩
        | none =>
            obtain ⟨before, moment, after, rfl, hdecides⟩ :=
              ih ((ending?_step_of_none hverdict).trans hrunning) h
            exact ⟨happening :: before, moment, after, rfl, hdecides⟩
  · rintro ⟨before, moment, after, rfl, hdecides⟩
    rw [run_append, run_cons, step_of_verdict ((query.verdict?_eq_some_iff _ _ _).mpr hdecides)]
    exact progress_run_of_ended rfl after

theorem isOpen_post (mailbox : Mailbox) (event : Event) :
    (mailbox.post event).isOpen = mailbox.isOpen := by
  unfold Mailbox.post
  split <;> rfl

theorem isOpen_step (h : happening ≠ .hangUp) :
    (query.step world happening).mailbox.isOpen = world.mailbox.isOpen := by
  cases hverdict : query.verdict? world.progress happening with
  | some ending => rw [step_of_verdict hverdict, mailbox_finish, isOpen_post]
  | none =>
      rw [step_of_none hverdict]
      cases happening with
      | post event => exact isOpen_post _ _
      | hangUp => exact absurd rfl h
      | _ => rfl

theorem isOpen_run_eq_true_iff (query : Query) (world : World) (happenings : List Happening) :
    (query.run world happenings).mailbox.isOpen = true ↔
      world.mailbox.isOpen = true ∧ .hangUp ∉ happenings := by
  induction happenings generalizing world with
  | nil => simp
  | cons happening rest ih =>
      rw [run_cons, ih, List.mem_cons, not_or]
      by_cases h : happening = .hangUp
      · subst h
        have hclosed : (query.step world .hangUp).mailbox.isOpen = false := rfl
        simp [hclosed]
      · rw [isOpen_step h]
        simp [Ne.symm h]

/-- The task posts the answer when it is decided, if somebody receives then, and
nothing at any other time. -/
theorem sent_of_decides {before after : List Happening} {moment : Happening}
    (h : Decides query (query.run world before).progress moment ending) :
    query.sent world (before ++ moment :: after) =
      if (query.run world before).mailbox.isOpen then [query.event ending] else [] := by
  have hverdict := (query.verdict?_eq_some_iff _ _ _).mpr h
  have hrunning : (query.run world before).progress.ending? = none := by
    cases hprogress : (query.run world before).progress with
    | ended own => simp [verdict?_of_ended hprogress] at hverdict
    | _ => rfl
  have hended : (query.step (query.run world before) moment).progress = .ended ending := by
    rw [step_of_verdict hverdict]
    rfl
  rw [sent_append, sent_of_running hrunning, sent, posts_of_verdict hverdict,
    sent_of_ended hended, List.nil_append, List.append_nil]

end Query

end Dashboard.Session
