import Dashboard.Session

/-! # Running historical queries

A query runs as a task of its own, on a clock that counts nanoseconds from its
start. However the task ends, one answer is posted to the session: a reply that
is dropped without an answer posts a failure. Nothing is posted once nobody
receives. -/

namespace Dashboard.Session

/-- The queue of posted events. -/
structure Mailbox where
  /-- Whether anybody receives the events. -/
  isOpen : Bool
  /-- Events not applied yet, in the order they were posted. -/
  events : List Event

namespace Mailbox

/-- An empty queue with a receiver. -/
def empty : Mailbox := ⟨true, []⟩

/-- A queue that nobody receives. -/
def abandoned : Mailbox := ⟨false, []⟩

/-- Post an event at the end of the queue. -/
def post (mailbox : Mailbox) (event : Event) : Mailbox :=
  if mailbox.isOpen then { mailbox with events := mailbox.events ++ [event] } else mailbox

end Mailbox

/-- The duty to answer one request. -/
structure Reply where
  ticket : Log.Ticket
  /-- Scope of the request, until it has been answered. -/
  scope : Option Log.Scope

namespace Reply

/-- The duty that comes with a request. -/
def due (request : Log.Request) : Reply :=
  ⟨request.ticket, some request.scope⟩

/-- Answer, unless that has been done. -/
def send (reply : Reply) (mailbox : Mailbox) (answer : Log.Answer) : Reply × Mailbox :=
  match reply.scope with
  | some scope =>
    ({ reply with scope := none }, mailbox.post (.backfill reply.ticket scope answer))
  | none => (reply, mailbox)

/-- End the duty. One that is still open is answered by a failure. -/
def drop (reply : Reply) (mailbox : Mailbox) : Mailbox :=
  match reply.scope with
  | some _ => (reply.send mailbox (.failure .aborted)).2
  | none => mailbox

end Reply

/-- What the transport does with a request. -/
inductive Fetch where
  | answers (delay : Nat) (answer : Log.Answer)
  | crashes (delay : Nat)
  /-- Never ends. -/
  | stalls

/-- How a task ends. -/
inductive Ending where
  | answered (answer : Log.Answer)
  | crashed
  | aborted
deriving DecidableEq

namespace Fetch

/-- Time and way a fetch ends by itself. -/
def ending? : Fetch → Option (Nat × Ending)
  | answers delay answer => some (delay, .answered answer)
  | crashes delay => some (delay, .crashed)
  | stalls => none

/-- Time and way a fetch with a deadline ends. One that ends at the deadline
still counts. -/
def endingBy (fetch : Fetch) (timeout : Duration) : Nat × Ending :=
  let expired := (timeout.nanos, .answered (.failure (.timedOut timeout)))
  match fetch.ending? with
  | some (time, ending) => if time ≤ timeout.nanos then (time, ending) else expired
  | none => expired

/-- How a task ends that is aborted at a time, if at all. Aborting a task that
has ended earlier has no effect. -/
def taskEnding (fetch : Fetch) (timeout : Duration) (abort : Option Nat) : Ending :=
  let (time, ending) := fetch.endingBy timeout
  match abort with
  | some abort => if abort ≤ time then .aborted else ending
  | none => ending

end Fetch

/-- The mailbox after the task of a request has ended. -/
def Ending.deliver (ending : Ending) (request : Log.Request) (mailbox : Mailbox) : Mailbox :=
  match ending with
  | .answered answer =>
    let (reply, mailbox) := (Reply.due request).send mailbox answer
    reply.drop mailbox
  | .crashed | .aborted => (Reply.due request).drop mailbox

/-- Run a request to its end. -/
def runQuery (fetch : Fetch) (request : Log.Request) (timeout : Duration) (abort : Option Nat)
    (mailbox : Mailbox) : Mailbox × Ending :=
  let ending := fetch.taskEnding timeout abort
  (ending.deliver request mailbox, ending)

/-- Apply every queued event and empty the queue. Returns how many there
were. -/
def drain (session : Session) (now : Nat) (mailbox : Mailbox) : Session × Mailbox × Nat :=
  (session.applyAll now mailbox.events, { mailbox with events := [] }, mailbox.events.length)

end Dashboard.Session
