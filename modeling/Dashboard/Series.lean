/-! # Series

Histories are shaped for a frame in two ways: compressed to the width that can
be drawn without losing peaks, and summed across entities aligned on their
newest samples. -/

namespace Dashboard

namespace Series

/-- Larger of two numbers. A value that is not a number loses to one that is. -/
def larger (a b : Float) : Float :=
  if a.isNaN then b else if a < b then b else a

/-- Largest value of a list, at least `floor`. -/
def largest (floor : Float) (values : List Float) : Float :=
  values.foldl larger floor

/-- Index range of bucket `i` when `len` samples are split into `target`
buckets. Edges are given by any function; the range is kept inside the series,
never empty, and the last one ends with the series. -/
def bucketRange (edge : Nat → Nat) (len target i : Nat) : Nat × Nat :=
  let first := min (edge i) (len - 1)
  let stop := if i + 1 = target then len else min (max (edge (i + 1)) (first + 1)) len
  (first, stop)

/-- Fractional bucket edge `i` of `len / target` samples a bucket, cut to a
whole index. -/
def fractionalEdge (len target i : Nat) : Nat :=
  (Float.ofNat i * (Float.ofNat len / Float.ofNat target)).toUInt64.toNat

/-- Samples of an index range. -/
def slice (series : List Float) (range : Nat × Nat) : List Float :=
  (series.drop range.1).take (range.2 - range.1)

/-- Whether a series has at most `target` samples already. -/
def fits (series : List Float) (target : Nat) : Bool :=
  series.length ≤ target

/-- Maximum of each of `target` buckets with the given edges. -/
def bucketPeaks (edge : Nat → Nat) (series : List Float) (target : Nat) : List Float :=
  (List.range target).map fun i =>
    largest (-1.0 / 0.0) (slice series (bucketRange edge series.length target i))

/-- At most `target` samples that keep the peaks of a series: the series itself
if it fits, otherwise the maximum of each of `target` contiguous buckets. -/
def fitToWidth (series : List Float) (target : Nat) : List Float :=
  if fits series target then series
  else bucketPeaks (fractionalEdge series.length target) series target

/-- Sum of two series aligned on their last elements, as long as the longer
one. The left one is extended by zeros. -/
def addAligned (total series : List Float) : List Float :=
  let grown := List.replicate (series.length - total.length) 0.0 ++ total
  let offset := grown.length - series.length
  grown.take offset ++ List.zipWith (· + ·) (grown.drop offset) series

/-- Sum of several series aligned on their newest samples, in the order given. -/
def aggregate (all : List (List Float)) : List Float :=
  all.foldl addAligned []

end Series

end Dashboard
