import Dashboard.Log.Entry
import Dashboard.Text.Lowercase
import Dashboard.Text.Search

/-! # Filters of log views -/

namespace Dashboard.Log

/-- What a reader of a view asks to see. -/
structure Filter where
  /-- Allowed streams; none listed means all. -/
  streams : List Stream
  /-- Text the lower-cased message has to contain. -/
  needle : Option String
  /-- Earliest time shown. -/
  since : Option Int
deriving DecidableEq

namespace Filter

/-- Shows everything. -/
def all : Filter := ⟨[], none, none⟩

/-- Also allow a stream. -/
def withStream (filter : Filter) (stream : Stream) : Filter :=
  { filter with streams := filter.streams.insert stream }

/-- Ask for a text, in any case. -/
def withText (filter : Filter) (text : String) : Filter :=
  { filter with needle := some (Text.lowercase text) }

/-- Ask for entries from a time on. -/
def withSince (filter : Filter) (timestamp : Int) : Filter :=
  { filter with since := some timestamp }

/-- Whether an entry is shown. -/
def accepts (filter : Filter) (entry : Entry) : Bool :=
  (filter.streams.isEmpty || filter.streams.contains entry.stream) &&
    (match filter.since with
    | some since => decide (since ≤ entry.timestamp)
    | none => true) &&
    match filter.needle with
    | some needle => Text.occursIn needle.toList (Text.lowercase entry.message).toList
    | none => true

end Filter

end Dashboard.Log
