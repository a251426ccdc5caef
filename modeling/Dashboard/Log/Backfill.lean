import Dashboard.Duration
import Dashboard.Log.Scope
import Dashboard.Log.Entry

/-! # Historical queries

A view asks once for the lines that were written before it opened. The answer
comes in any order; it is brought into order of time here, keeping lines of the
same second as they were written. -/

namespace Dashboard.Log

/-- Identifies an issued query, so that late answers can be told apart. -/
structure Ticket where
  number : Nat
deriving DecidableEq

/-- A query to be run for a view. -/
structure Request where
  ticket : Ticket
  scope : Scope
  /-- How far back to look. -/
  window : Duration
  /-- Most entries to return. -/
  limit : Nat
deriving DecidableEq

/-- Entities to query. -/
def Request.entities (request : Request) : List EntityId :=
  request.scope.entities

/-- Why a query was not answered. -/
inductive Failure where
  /-- The transport reported an error. -/
  | transport (detail : String)
  /-- The deadline passed. -/
  | timedOut (after : Duration)
  /-- The task that ran the query ended without answering. -/
  | aborted
deriving DecidableEq

/-- Text of a failure. -/
def Failure.message : Failure → String
  | transport detail => "backfill transport error: " ++ detail
  | timedOut after => "backfill timed out after " ++ after.text
  | aborted => "backfill task aborted"

/-- What a query brings back. -/
inductive Answer where
  | entries (found : List Entry)
  | failure (cause : Failure)
deriving DecidableEq

/-- Entries found; a failure counts as none. -/
def Answer.found : Answer → List Entry
  | entries found => found
  | failure _ => []

/-- Whether times never increase along a list. -/
def isDescending : List Entry → Bool
  | a :: b :: rest => decide (b.timestamp ≤ a.timestamp) && isDescending (b :: rest)
  | _ => true

/-- Whether entries come newest first: times never increase and the first is
later than the last. Lists in no order, or of one time, do not. -/
def isNewestFirst (entries : List Entry) : Bool :=
  match entries.head?, entries.getLast? with
  | some first, some last => isDescending entries && decide (last.timestamp < first.timestamp)
  | _, _ => false

/-- Entries in order of time. A list that comes newest first is turned round
before the stable sort, so entries of one time keep the order they were written
in. -/
def chronological (entries : List Entry) : List Entry :=
  let entries := if isNewestFirst entries then entries.reverse else entries
  entries.mergeSort fun a b => decide (a.timestamp ≤ b.timestamp)

end Dashboard.Log
