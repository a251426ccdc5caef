import Dashboard.Scalar
import Dashboard.Series

/-! # Graph ceilings

The value at the top edge of a graph is either a configured limit or the
smallest round number that leaves headroom above the largest sample. -/

namespace Dashboard

namespace Scale

section Ladder

variable {α : Type} [Scalar α]

/-- Round numbers of a decade and the next one, in units of a tenth of the
decade. -/
def ladder : List Nat := [1, 2, 5, 10, 25, 50, 75, 100]

/-- `base ^ n` by repeated squaring, times `product`. -/
def powerFrom (base product : α) (n : Nat) : α :=
  let product := if n % 2 = 1 then Scalar.mul product base else product
  if h : n / 2 = 0 then product
  else powerFrom (Scalar.mul base base) product (n / 2)
termination_by n
decreasing_by omega

/-- `10 ^ n` by repeated squaring. -/
def powerOfTen (n : Nat) : α :=
  powerFrom (Scalar.ofNat 10) (Scalar.ofNat 1) n

/-- `step · 10 ^ exponent`, dividing by the power for negative exponents. -/
def scaled (step : Nat) (exponent : Int) : α :=
  if 0 ≤ exponent then Scalar.mul (Scalar.ofNat step) (powerOfTen exponent.toNat)
  else Scalar.div (Scalar.ofNat step) (powerOfTen (-exponent).toNat)

/-- Candidate ceilings: the ladder at two successive exponents. -/
def candidates (exponent : Int) : List α :=
  ladder.map (scaled · exponent) ++ ladder.map (scaled · (exponent + 1))

/-- Whether a value stays within nine tenths of a ceiling. -/
def hasHeadroom (max ceiling : α) : Bool :=
  Scalar.le max (Scalar.mul ceiling (Scalar.div (Scalar.ofNat 9) (Scalar.ofNat 10)))

/-- First candidate that covers `max` with headroom. If the first one that
covers it has none, the next larger candidate follows, whatever its headroom;
with no larger candidate that one stays, and with none at all `max` itself. -/
def firstCovering (max : α) (candidates : List α) : α :=
  match candidates.dropWhile fun c => !Scalar.le max c with
  | [] => max
  | chosen :: rest =>
    if hasHeadroom max chosen then chosen
    else (rest.find? fun c => Scalar.lt chosen c).getD chosen

/-- Smallest round number above `max` with headroom; one if `max` is not
positive and finite. -/
def niceCeiling (max : α) : α :=
  if !Scalar.isFinite max || Scalar.le max (Scalar.ofNat 0) then Scalar.ofNat 1
  else firstCovering max (candidates (Scalar.decade max - 1))

end Ladder

/-- How the ceiling of a graph is chosen. -/
inductive Policy where
  /-- Smallest round number above the observed maximum, with headroom. -/
  | auto
  /-- A configured resource limit. -/
  | limit (value : Float)

namespace Policy

/-- Whether a number can serve as a limit. -/
def isUsable (limit : Float) : Bool :=
  0.0 < limit && limit.isFinite

/-- Policy for an optional resource limit; one that is missing or not positive
and finite leaves the scale automatic. -/
def ofLimit : Option Float → Policy
  | some value => if isUsable value then limit value else auto
  | none => auto

/-- Ceiling for a series whose largest sample is `observedMax`. -/
def ceiling (policy : Policy) (observedMax : Float) : Float :=
  match policy with
  | limit value => if isUsable value then value else niceCeiling observedMax
  | auto => niceCeiling observedMax

/-- Ceiling for a series, from its largest finite sample. -/
def ceilingFor (policy : Policy) (series : List Float) : Float :=
  policy.ceiling (Series.largest 0.0 (series.filter Float.isFinite))

end Policy

end Scale

end Dashboard
