import Dashboard.Duration

/-! # Time markers

Marks at even ages along a graph, labelled with the age. -/

namespace Dashboard.Graph

/-- Nearest whole number of a value that is not negative, halves upwards. -/
def roundHalfUp (x : Float) : Nat :=
  let whole := x.toUInt64.toNat
  if 0.5 ≤ x - Float.ofNat whole then whole + 1 else whole

/-- A value cut to an interval. -/
def clamp (low high x : Float) : Float :=
  if x < low then low else if high < x then high else x

/-- A vertical line at a point in time. -/
structure Marker where
  /-- Zero at the newest sample, one at the oldest. -/
  position : Float
  label : Option String

/-- Column of a marker, unless its position is no number. Positions outside the
graph are moved to its edge. -/
def Marker.column? (marker : Marker) (width : Nat) : Option Nat :=
  if width = 0 ∨ !marker.position.isFinite then none
  else
    some (roundHalfUp ((1.0 - clamp 0.0 1.0 marker.position) * Float.ofNat (width - 1)))

/-- Compact text of an age: hours and minutes, or minutes and seconds; parts of
zero are left out. -/
def ageText (age : Duration) : String :=
  let seconds := age.seconds
  let hours := seconds / 3600
  let minutes := seconds % 3600 / 60
  let rest := seconds % 60
  if hours = 0 then
    if minutes = 0 then s!"-{rest}s"
    else if rest = 0 then s!"-{minutes}m"
    else s!"-{minutes}m{rest}s"
  else if minutes = 0 then s!"-{hours}h"
  else s!"-{hours}h{minutes}m"

/-- Why there are no markers. -/
inductive TimelineError where
  /-- An age would pass the longest duration. -/
  | overflow
deriving DecidableEq

/-- Text of an error. -/
def TimelineError.message : TimelineError → String
  | overflow => "overflow when adding durations"

/-- Ages from one on, `step` apart, up to `span`. The age after the last one is
computed too. -/
def agesFrom (span step : Duration) (positive : 0 < step.nanos) (age : Duration) :
    Except TimelineError (List Duration) :=
  if _h : age.nanos ≤ span.nanos then
    match _hadd : age.add? step with
    | some next => do
      let ages ← agesFrom span step positive next
      return age :: ages
    | none => throw .overflow
  else pure []
termination_by span.nanos + 1 - age.nanos
decreasing_by
  have : next.nanos = age.nanos + step.nanos := by
    unfold Duration.add? at _hadd
    split at _hadd
    · cases _hadd
      rfl
    · cases _hadd
  omega

/-- Time from the oldest to the newest of `samples` samples. The number of
intervals is taken modulo `2 ^ 32`. -/
def spanOf (interval : Duration) (samples : Nat) : Duration :=
  interval.saturatingMul ((samples - 1) % Nat.pow 2 32)

/-- Markers `step` apart along a graph of `samples` samples, the first one a
step before the newest. -/
def timeMarkers (interval : Duration) (samples : Nat) (step : Duration) :
    Except TimelineError (List Marker) :=
  let span := spanOf interval samples
  if h : 0 < step.nanos ∧ 0 < span.nanos then do
    let ages ← agesFrom span step h.1 step
    return ages.map fun age => ⟨age.toFloatSeconds / span.toFloatSeconds, some (ageText age)⟩
  else pure []

end Dashboard.Graph
