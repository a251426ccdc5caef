import Dashboard.Entity

/-! # Log lines -/

namespace Dashboard.Log

/-- The output a line came from. -/
inductive Stream where
  | stdout
  | stderr
  /-- Lifecycle lines made up by the agent: start, stop, out of memory. -/
  | event
deriving DecidableEq

namespace Stream

/-- Every stream. -/
def all : List Stream := [stdout, stderr, event]

/-- Name in texts exchanged with other programs. -/
def name : Stream → String
  | stdout => "stdout"
  | stderr => "stderr"
  | event => "event"

/-- The stream of a name. -/
def ofName? (text : String) : Option Stream :=
  all.find? fun stream => stream.name == text

end Stream

/-- One line. -/
structure Entry where
  /-- Seconds since the epoch. -/
  timestamp : Int
  entity : EntityId
  stream : Stream
  message : String
deriving DecidableEq

namespace Entry

/-- The entry made of these field values. -/
def ofFields? (timestamp entity stream message : Json) : Option Entry := do
  return {
    timestamp := ← timestamp.int?
    entity := ⟨← entity.text?⟩
    stream := ← Stream.ofName? (← stream.variant?)
    message := ← message.text? }

/-- The entry a JSON value spells: an object with each field once, among others,
or an array of the four field values. -/
def ofJson? : Json → Option Entry
  | .array [timestamp, entity, stream, message] => ofFields? timestamp entity stream message
  | .object fields => do
    let fields ← Json.named? fields
    ofFields? (← Json.once? fields "timestamp") (← Json.once? fields "entity")
      (← Json.once? fields "stream") (← Json.once? fields "message")
  | _ => none

/-- The entry a JSON text spells. -/
def ofJsonText? (text : String) : Option Entry := do
  ofJson? (← Json.read? text)

/-- Compact JSON text of an entry. -/
def jsonText (entry : Entry) : String :=
  String.join ["\x7b\"timestamp\":", toString entry.timestamp,
    ",\"entity\":", Json.quote entry.entity.name,
    ",\"stream\":", Json.quote entry.stream.name,
    ",\"message\":", Json.quote entry.message, "\x7d"]

end Entry

end Dashboard.Log
