/-! # Decimal numbers and doubles

Exact values of doubles, the double nearest to a decimal number, and the
shortest decimal number that reads back as a given double. -/

namespace Dashboard

/-- Decimal digits of a natural number; zero has one. -/
def digitCount (n : Nat) : Nat :=
  if n < 10 then 1 else digitCount (n / 10) + 1

/-- The exponent `k` with `10^k ≤ numerator / denominator < 10^(k+1)`, for a
positive fraction. -/
def magnitude (numerator denominator : Nat) : Int :=
  let k : Int := (digitCount numerator : Int) - digitCount denominator
  if denominator * Nat.pow 10 k.toNat ≤ numerator * Nat.pow 10 (-k).toNat then k else k - 1

/-- Exact absolute value of a finite double as a numerator and a denominator,
one of which is a power of two times the other's odd part. -/
def exactFraction (x : Float) : Nat × Nat :=
  let bits := x.toBits.toNat
  let exponent := bits / Nat.pow 2 52 % Nat.pow 2 11
  let mantissa := bits % Nat.pow 2 52
  if exponent = 0 then (mantissa, Nat.pow 2 1074)
  else if exponent < 1075 then (mantissa + Nat.pow 2 52, Nat.pow 2 (1075 - exponent))
  else ((mantissa + Nat.pow 2 52) * Nat.pow 2 (exponent - 1075), 1)

/-- Whether the sign bit is set; true of negative zero. -/
def signBit (x : Float) : Bool :=
  Nat.pow 2 63 ≤ x.toBits.toNat

/-- The number `digits · 10 ^ exponent`. -/
structure Decimal where
  digits : Nat
  exponent : Int
deriving DecidableEq

namespace Decimal

/-- The nearest double; infinity beyond the largest one. Exponents far outside
the range of doubles are settled without computing the power. -/
def toFloat (d : Decimal) : Float :=
  let top := (digitCount d.digits : Int) + d.exponent
  if d.digits = 0 then 0.0
  else if 310 < top then 1.0 / 0.0
  else if top < -330 then 0.0
  else Float.ofScientific d.digits (d.exponent < 0) d.exponent.natAbs

/-- Of the two numbers with `places` significant digits that enclose a positive
double, the nearer one that reads back as it. -/
def candidate? (x : Float) (places : Nat) : Option Decimal :=
  let (numerator, denominator) := exactFraction x
  let exponent := magnitude numerator denominator - places + 1
  let scaledNumerator := numerator * Nat.pow 10 (-exponent).toNat
  let scaledDenominator := denominator * Nat.pow 10 exponent.toNat
  let below := scaledNumerator / scaledDenominator
  let rest := scaledNumerator % scaledDenominator
  let low : Decimal := ⟨below, exponent⟩
  let high : Decimal :=
    if below + 1 = Nat.pow 10 places then ⟨1, exponent + places⟩ else ⟨below + 1, exponent⟩
  let readsBack (d : Decimal) : Bool := d.toFloat.toBits == x.toBits
  let (first, second) :=
    if 2 * rest < scaledDenominator ∨ (2 * rest = scaledDenominator ∧ below % 2 = 0) then
      (low, high)
    else (high, low)
  if readsBack first then some first
  else if readsBack second then some second
  else none

/-- Exact decimal value of a double. -/
def exact (x : Float) : Decimal :=
  let (numerator, denominator) := exactFraction x
  let twos := denominator.log2
  ⟨numerator * Nat.pow 5 twos, -twos⟩

/-- The decimal number of fewest digits that reads back as a positive double,
the nearest one if several do. -/
def shortest (x : Float) : Decimal :=
  ((List.range 17).findSome? fun n => candidate? x (n + 1)).getD (exact x)

end Decimal

end Dashboard
