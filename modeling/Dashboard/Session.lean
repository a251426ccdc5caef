import Dashboard.Config
import Dashboard.Log.View
import Dashboard.Registry
import Dashboard.Scale

/-! # Sessions

A session owns all state kept for one host: the metric histories and the open
log views. Network tasks never touch it; they post events, which are applied
one after the other. -/

namespace Dashboard

/-- Something delivered to a session. -/
inductive Event where
  /-- One value of one metric of one entity. -/
  | sample (entity : EntityId) (metric : Metric) (value : Float)
  /-- One streamed log line. -/
  | log (entry : Log.Entry)
  /-- The answer of a historical log query. -/
  | backfill (ticket : Log.Ticket) (scope : Log.Scope) (answer : Log.Answer)

/-- State of a session. -/
structure Session where
  config : SessionConfig
  metrics : Registry
  /-- Open log views under their scopes. -/
  views : Std.TreeMap Log.Scope Log.View
  /-- Number of the next ticket. -/
  nextTicket : Nat

namespace Session

/-- A session that has received nothing. -/
def start (config : SessionConfig) : Session where
  config
  metrics := Registry.empty config.metricHistory.toNat
  views := ∅
  nextTicket := 0

/-- Record a sample observed at `now`. -/
def pushSample (session : Session) (entity : EntityId) (metric : Metric) (value : Float)
    (now : Nat) : Session :=
  { session with metrics := session.metrics.push entity metric value now }

/-- Number of open views that follow an entity. -/
def followers (session : Session) (entity : EntityId) : Nat :=
  session.views.values.countP fun view => view.scope.contains entity

/-- Hand a streamed line to every open view that follows its entity. Returns
how many took it. -/
def pushLog (session : Session) (entry : Log.Entry) : Session × Nat :=
  ({ session with views := session.views.map fun _ view => (view.push entry).1 },
    session.followers entry.entity)

/-- A view of a scope as it is opened. -/
def newView (session : Session) (scope : Log.Scope) : Log.View :=
  Log.View.empty scope session.config.logHistory.toNat session.config.backfill.window
    session.config.backfill.limit.toNat

/-- Open a log view, or return to an open one. A view that has not asked for
its history yet issues the query, and only then a ticket is used up. -/
def activate (session : Session) (scope : Log.Scope) : Session × Option Log.Request :=
  let view := session.views[scope]?.getD (session.newView scope)
  let (view, request) := view.activate ⟨session.nextTicket⟩
  ({ session with
      views := session.views.insert scope view
      nextTicket := if request.isSome then session.nextTicket + 1 else session.nextTicket },
    request)

/-- Close a log view and drop its entries. The second value says whether it was
open. -/
def deactivate (session : Session) (scope : Log.Scope) : Session × Bool :=
  ({ session with views := session.views.erase scope }, session.views.contains scope)

/-- Hand the answer of a historical query to its view. Returns how many entries
were merged; nothing if no open view was waiting for this answer. -/
def resolve (session : Session) (scope : Log.Scope) (ticket : Log.Ticket)
    (answer : Log.Answer) : Session × Option Nat :=
  match session.views[scope]? with
  | some view =>
    let (view, merged) := view.resolve ticket answer
    ({ session with views := session.views.insert scope view }, merged)
  | none => (session, none)

/-- The open view of a scope. -/
def view? (session : Session) (scope : Log.Scope) : Option Log.View :=
  session.views[scope]?

/-- Entries of an open view that a filter shows; none for a closed one. -/
def filtered (session : Session) (scope : Log.Scope) (filter : Log.Filter) : List Log.Entry :=
  match session.views[scope]? with
  | some view => view.filtered filter
  | none => []

/-- How the ceiling of a metric's graph is chosen: configured limits come
first. -/
def scalePolicy (session : Session) : Metric → Scale.Policy
  | .cpu => .ofLimit session.config.cpuLimit
  | .memory => .ofLimit session.config.memoryLimit
  | _ => .auto

/-- Apply one event that arrives at `now`. -/
def apply (session : Session) (now : Nat) : Event → Session
  | .sample entity metric value => session.pushSample entity metric value now
  | .log entry => (session.pushLog entry).1
  | .backfill ticket scope answer => (session.resolve scope ticket answer).1

/-- Apply events in the order they were posted. -/
def applyAll (session : Session) (now : Nat) (events : List Event) : Session :=
  events.foldl (fun session event => session.apply now event) session

/-- Forget the entities without a sample for more than `maxIdle`. Returns them
in order. -/
def sweep (session : Session) (now : Nat) (maxIdle : Duration) : Session × List EntityId :=
  let (metrics, removed) := session.metrics.sweep now maxIdle
  ({ session with metrics }, removed)

end Session

end Dashboard
