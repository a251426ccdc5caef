/-! # Durations

Spans of time in whole nanoseconds. The longest span is one nanosecond short of
`2^64` seconds: multiplication saturates there, and a sum that passes it is
reported instead of being cut. -/

namespace Dashboard

/-- Nanoseconds in a second. -/
def nanosPerSecond : Nat := 1000000000

/-- Nanoseconds in the longest duration. -/
def longestNanos : Nat := 18446744073709551615 * nanosPerSecond + 999999999

/-- A span of time. -/
structure Duration where
  /-- Length in nanoseconds. -/
  nanos : Nat
  nanos_le : nanos ≤ longestNanos
deriving DecidableEq

namespace Duration

/-- The empty span. -/
def zero : Duration := ⟨0, Nat.zero_le _⟩

/-- A length in nanoseconds, cut at the longest duration. -/
def ofNanos (n : Nat) : Duration :=
  ⟨min n longestNanos, Nat.min_le_right ..⟩

/-- Whole seconds and nanoseconds. -/
def ofParts (seconds nanos : Nat) : Duration :=
  ofNanos (seconds * nanosPerSecond + nanos)

/-- A length in seconds. -/
def ofSeconds (seconds : UInt64) : Duration :=
  ofNanos (seconds.toNat * nanosPerSecond)

/-- A length in milliseconds. -/
def ofMillis (millis : Nat) : Duration :=
  ofNanos (millis * 1000000)

/-- Whole seconds. -/
def seconds (d : Duration) : Nat :=
  d.nanos / nanosPerSecond

/-- Nanoseconds past the last whole second. -/
def subsecondNanos (d : Duration) : Nat :=
  d.nanos % nanosPerSecond

/-- Sum, unless it passes the longest duration. -/
def add? (a b : Duration) : Option Duration :=
  if h : a.nanos + b.nanos ≤ longestNanos then some ⟨a.nanos + b.nanos, h⟩ else none

/-- Product, cut at the longest duration. -/
def saturatingMul (d : Duration) (count : Nat) : Duration :=
  ofNanos (d.nanos * count)

/-- Length in seconds in double precision: seconds and nanoseconds are rounded
separately and then added. -/
def toFloatSeconds (d : Duration) : Float :=
  Float.ofNat d.seconds + Float.ofNat d.subsecondNanos / Float.ofNat nanosPerSecond

/-- A number of at most `places` decimal places without trailing zeros. The
fraction counts units of the last place. -/
def decimalText (whole fraction places : Nat) : String :=
  let digits := Nat.toDigits 10 fraction
  let padded := List.replicate (places - digits.length) '0' ++ digits
  let kept := (padded.reverse.dropWhile (· == '0')).reverse
  if kept.isEmpty then toString whole else toString whole ++ "." ++ String.ofList kept

/-- Text in the largest unit of `s`, `ms`, `µs` and `ns` that is at most the
length, with every significant digit. -/
def text (d : Duration) : String :=
  if 0 < d.seconds then decimalText d.seconds d.subsecondNanos 9 ++ "s"
  else if 1000000 ≤ d.nanos then
    decimalText (d.nanos / 1000000) (d.nanos % 1000000) 6 ++ "ms"
  else if 1000 ≤ d.nanos then decimalText (d.nanos / 1000) (d.nanos % 1000) 3 ++ "µs"
  else toString d.nanos ++ "ns"

end Duration

end Dashboard
