import Dashboard.Duration
import Dashboard.Entity
import Dashboard.Ring
import Dashboard.Series

/-! # Metric histories

One bounded history for every metric of every entity. Entities appear with
their first sample and stay until a sweep finds them idle. Times are
nanoseconds since an arbitrary start. -/

namespace Dashboard

/-- Samples of one entity. -/
structure History where
  /-- One ring for every metric, in display order. -/
  series : Vector (Ring Float) 6
  /-- Time of the sample recorded last. -/
  lastSeen : Nat

namespace History

/-- No samples yet. -/
def empty (capacity now : Nat) : History :=
  ⟨Vector.replicate 6 (Ring.empty capacity), now⟩

/-- Samples of one metric. -/
def ring (history : History) (metric : Metric) : Ring Float :=
  history.series[metric.index]

/-- Record one sample observed at `now`. -/
def push (history : History) (metric : Metric) (value : Float) (now : Nat) : History :=
  ⟨history.series.set metric.index ((history.ring metric).push value), now⟩

end History

/-- Histories of all tracked entities. -/
structure Registry where
  /-- Samples kept of each metric. -/
  capacity : Nat
  histories : Std.TreeMap EntityId History

namespace Registry

/-- A registry that tracks nothing yet. -/
def empty (capacity : Nat) : Registry :=
  ⟨capacity, ∅⟩

/-- Record one sample observed at `now`. -/
def push (registry : Registry) (entity : EntityId) (metric : Metric) (value : Float)
    (now : Nat) : Registry :=
  let history := registry.histories[entity]?.getD (History.empty registry.capacity now)
  { registry with histories := registry.histories.insert entity (history.push metric value now) }

/-- Samples of one metric, oldest first; none for an unknown entity. -/
def snapshot (registry : Registry) (entity : EntityId) (metric : Metric) : List Float :=
  match registry.histories[entity]? with
  | some history => (history.ring metric).toList
  | none => []

/-- Newest sample of one metric. -/
def latest? (registry : Registry) (entity : EntityId) (metric : Metric) : Option Float :=
  registry.histories[entity]?.bind fun history => (history.ring metric).last?

/-- Sum of one metric across entities, aligned on the newest samples. -/
def aggregate (registry : Registry) (metric : Metric) (entities : List EntityId) : List Float :=
  Series.aggregate (entities.map fun entity => registry.snapshot entity metric)

/-- Tracked entities in order. -/
def entities (registry : Registry) : List EntityId :=
  registry.histories.keys

/-- Whether an entity is tracked. -/
def contains (registry : Registry) (entity : EntityId) : Bool :=
  registry.histories.contains entity

/-- Number of tracked entities. -/
def size (registry : Registry) : Nat :=
  registry.histories.size

/-- Whether no entity is tracked. -/
def isEmpty (registry : Registry) : Bool :=
  registry.histories.isEmpty

/-- Whether more than `maxIdle` has passed since the last recorded sample. -/
def isStale (now : Nat) (maxIdle : Duration) (history : History) : Bool :=
  maxIdle.nanos < now - history.lastSeen

/-- Forget the entities whose last recorded sample is more than `maxIdle` old.
Returns them in order. -/
def sweep (registry : Registry) (now : Nat) (maxIdle : Duration) : Registry × List EntityId :=
  ({ registry with
      histories := registry.histories.filter fun _ history => !isStale now maxIdle history },
    (registry.histories.filter fun _ history => isStale now maxIdle history).keys)

end Registry

end Dashboard
