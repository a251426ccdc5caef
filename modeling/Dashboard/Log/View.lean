import Dashboard.Log.Backfill
import Dashboard.Log.Filter
import Dashboard.Ring

/-! # Log views

A view collects the lines of its scope from two sources: the live stream, which
delivers from the moment the view is open, and one historical query. Streamed
lines are kept at once. When the query is answered, the lines strictly older
than the oldest streamed one are put in front of the streamed ones. The
watermark, the time of that oldest line, is the only means against duplicates:
the second it names belongs to the stream. -/

namespace Dashboard.Log

/-- Where the historical query of a view stands. -/
inductive QueryState where
  /-- Not issued yet. -/
  | idle
  /-- Issued and not answered. -/
  | pending (ticket : Ticket)
  /-- Answered, or failed; never issued again. -/
  | done
deriving DecidableEq

/-- One bounded view in order of time. -/
structure View where
  scope : Scope
  retained : Ring Entry
  /-- Oldest time seen on the stream. -/
  watermark : Option Int
  state : QueryState
  /-- How far back the query looks. -/
  window : Duration
  /-- Most entries merged from the query. -/
  limit : Nat
deriving DecidableEq

namespace View

/-- A view that holds nothing and has not asked for anything. -/
def empty (scope : Scope) (capacity : Nat) (window : Duration) (limit : Nat) : View where
  scope
  retained := Ring.empty capacity
  watermark := none
  state := .idle
  window
  limit

/-- Entries kept, oldest first. -/
def entries (view : View) : List Entry :=
  view.retained.toList

/-- Newest entry kept. -/
def last? (view : View) : Option Entry :=
  view.retained.last?

/-- Number of entries kept. -/
def size (view : View) : Nat :=
  view.retained.size

/-- Whether nothing is kept. -/
def isEmpty (view : View) : Bool :=
  view.retained.isEmpty

/-- Whether the historical query has been answered. -/
def isBackfilled (view : View) : Bool :=
  view.state = .done

/-- Entries kept that a filter shows, oldest first. -/
def filtered (view : View) (filter : Filter) : List Entry :=
  view.entries.filter filter.accepts

/-- Issue the historical query, unless it has been issued. -/
def activate (view : View) (ticket : Ticket) : View × Option Request :=
  if view.state = .idle then
    ({ view with state := .pending ticket },
      some ⟨ticket, view.scope, view.window, view.limit⟩)
  else (view, none)

/-- The earlier of a time and one that may be missing. -/
def earliest (time : Int) : Option Int → Int
  | some other => min other time
  | none => time

/-- Append a streamed entry; one out of scope changes nothing. The second value
says whether it was taken. -/
def push (view : View) (entry : Entry) : View × Bool :=
  if view.scope.contains entry.entity then
    ({ view with
        watermark := some (earliest entry.timestamp view.watermark)
        retained := view.retained.push entry }, true)
  else (view, false)

/-- Whether an entry is older than everything streamed so far. -/
def isBeforeStream (view : View) (entry : Entry) : Bool :=
  match view.watermark with
  | some watermark => decide (entry.timestamp < watermark)
  | none => true

/-- Entries of an answer that are put in front of the streamed ones: those in
scope and older than the stream, in order of time, the newest `limit` of them. -/
def accepted (view : View) (answer : Answer) : List Entry :=
  let candidates := answer.found.filter fun entry => view.scope.contains entry.entity
  newest view.limit (chronological (candidates.filter view.isBeforeStream))

/-- Merge the answer of the historical query and count the merged entries. An
answer to a ticket the view is not waiting on changes nothing. -/
def resolve (view : View) (ticket : Ticket) (answer : Answer) : View × Option Nat :=
  if view.state = .pending ticket then
    let accepted := view.accepted answer
    let rebuilt := (Ring.empty view.retained.capacity).extend accepted
    ({ view with
        state := .done
        retained := rebuilt.extend view.entries }, some accepted.length)
  else (view, none)

/-- Forget every entry, and allow the query to be issued again. -/
def reset (view : View) : View :=
  { view with
    retained := view.retained.clear
    watermark := none
    state := .idle }

end View

end Dashboard.Log
