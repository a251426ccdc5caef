import Dashboard.Decimal

/-! # Arithmetic of scales

The rules that choose and apply the scale of a graph are written once over a
type of scalars. Doubles round every operation; rationals compute the same
rules exactly, which is where their laws are stated. -/

namespace Dashboard

/-- Arithmetic a scale is computed in. -/
class Scalar (α : Type) where
  ofNat : Nat → α
  mul : α → α → α
  div : α → α → α
  le : α → α → Bool
  lt : α → α → Bool
  isFinite : α → Bool
  /-- Exponent of the power of ten a positive value starts at. -/
  decade : α → Int
  /-- Whole part of a value that is not negative. -/
  whole : α → Nat

/-- The decade of a positive double as read off its decimal logarithm, itself
rounded to a double. The logarithm reaches the next whole number `k` from half
the spacing of doubles below `k`, so values within that distance of `10 ^ k`
count as being in its decade. The distance is compared through the first terms
of the exponential series. -/
def logDecade (x : Float) : Int :=
  let (numerator, denominator) := exactFraction x
  let exact := magnitude numerator denominator
  let next := exact + 1
  if next = 0 then exact
  else
    let halfSpacing : Nat :=
      if next < 0 then 53 - next.natAbs.log2
      else if next = 1 then 54
      else 53 - (next.toNat - 1).log2
    let naturalLogOfTen := 2302585092994045684017991454684
    let unit := Nat.pow 10 30 * Nat.pow 2 halfSpacing
    let reach := 2 * unit * unit - 2 * naturalLogOfTen * unit + naturalLogOfTen * naturalLogOfTen
    if denominator * Nat.pow 10 next.toNat * reach ≤
        numerator * Nat.pow 10 (-next).toNat * (2 * unit * unit) then next
    else exact

instance : Scalar Float where
  ofNat := Float.ofNat
  mul := (· * ·)
  div := (· / ·)
  le := (· ≤ ·)
  lt := (· < ·)
  isFinite := Float.isFinite
  decade := logDecade
  whole x := x.toUInt64.toNat

instance : Scalar Rat where
  ofNat n := n
  mul := (· * ·)
  div := (· / ·)
  le := (· ≤ ·)
  lt := (· < ·)
  isFinite _ := true
  decade x := magnitude x.num.natAbs x.den
  whole x := x.floor.toNat

end Dashboard
