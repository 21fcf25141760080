/-!
# The shortest decimal that reads back

A finite double is `m · 2^q`.  The reals nearer to it than to any other double
form an interval around it (ends included when `m` is even, since a tie goes to
the even neighbour).  Among the decimals in that interval the shortest ones are
taken, and of those the nearest.

    Binary.ofBits     a finite positive double as `m · 2^q`
    shortest          digits `d` and exponent `k`, meaning `d · 10^k`

All arithmetic is exact, in `Nat`.  A grid `10^k` has a point in the interval
only if one of the value's two neighbours on that grid is in it, so the two
neighbours are all that is looked at, from the coarsest grid to the finest.
-/

namespace SearchGateway.Number

/-! ## Algorithm -/

/-- `mantissa · 2^exponent`. -/
structure Binary where
  mantissa : Nat
  exponent : Int
  deriving DecidableEq, Repr

/-- `digits · 10^exponent`. -/
structure Decimal where
  digits : Nat
  exponent : Int
  deriving DecidableEq, Repr

/-- The lowest bit above the fraction, `2^52`. -/
def leadBit : Nat := 0x10000000000000

/-- The fraction bits of a double. -/
def fractionOf (bits : UInt64) : Nat := bits.toNat % leadBit

/-- The exponent bits of a double, eleven of them. -/
def biasedOf (bits : UInt64) : Nat := bits.toNat / leadBit % 0x800

/-- The magnitude of a finite double, from its bit pattern. -/
def Binary.ofBits (bits : UInt64) : Binary :=
  if biasedOf bits = 0 then ⟨fractionOf bits, -1074⟩
  else ⟨leadBit + fractionOf bits, Int.ofNat (biasedOf bits) - 1075⟩

/-- Which neighbour is taken when two are equally near. -/
inductive Tie
  | toEven
  | up
  deriving DecidableEq, Repr

/-- The value and the two ends of its rounding interval, in quarters of a unit in
the last place.  Below a power of two the gap is half as wide. -/
def Binary.interval (b : Binary) : Nat × Nat × Nat :=
  let low := if b.mantissa = leadBit ∧ b.exponent ≠ -1074 then 4 * b.mantissa - 1
    else 4 * b.mantissa - 2
  (low, 4 * b.mantissa, 4 * b.mantissa + 2)

/-- Quarters of a unit in the last place, over the grid `10^k`, as a fraction. -/
def Binary.scale (b : Binary) (k : Int) : Nat × Nat :=
  let e := b.exponent - 2
  (Nat.pow 2 e.toNat * Nat.pow 10 (-k).toNat, Nat.pow 10 k.toNat * Nat.pow 2 (-e).toNat)

/-- The nearest point of the grid `10^k` that reads back, if there is one. -/
def Binary.onGrid (tie : Tie) (b : Binary) (k : Int) : Option Nat :=
  let (low, mid, high) := b.interval
  let (num, den) := b.scale k
  let closed := b.mantissa % 2 == 0
  let inside (c : Nat) : Bool :=
    if closed then low * num ≤ c * den && c * den ≤ high * num
    else low * num < c * den && c * den < high * num
  let floor := mid * num / den
  let twice := 2 * (mid * num)
  let middle := (2 * floor + 1) * den
  let nearer :=
    if twice < middle then floor
    else if middle < twice then floor + 1
    else match tie with
      | .toEven => if floor % 2 = 0 then floor else floor + 1
      | .up => floor + 1
  let other := if nearer = floor then floor + 1 else floor
  if nearer ≠ 0 && inside nearer then some nearer
  else if other ≠ 0 && inside other then some other
  else none

/-- The decimal exponent of the leading digit, or one more: an upper bound of
`log₁₀` of the value. -/
def Binary.topExponent (b : Binary) : Int :=
  let bitLength : Int := (Nat.log2 b.mantissa + 1 : Nat)
  (bitLength + b.exponent) * 30103 / 100000 + 1

/-- The first grid, from the coarsest down, with a point that reads back. -/
def Binary.firstHit (tie : Tie) (b : Binary) : Nat → Int → Decimal
  | 0, k => ⟨b.mantissa, k⟩
  | n + 1, k =>
    match b.onGrid tie k with
    | some d => ⟨d, k⟩
    | none => b.firstHit tie n (k - 1)

/-- The shortest decimal that reads back as `b`, which is positive.  Twenty grids
below the leading digit hold a point for every double. -/
def Binary.shortest (tie : Tie) (b : Binary) : Decimal :=
  b.firstHit tie 24 b.topExponent

end SearchGateway.Number
