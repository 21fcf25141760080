import SearchGateway.Json.Node
import SearchGateway.Number.Reading

/-!
# The value of a JSON number

A number without a fraction or an exponent is whole as long as 64 bits hold it;
minus zero, and all else, is a double.  A double's digits are gathered in a 64-bit
significand, where digits that no longer fit only count places, and the significand
is scaled by a power of ten, in steps of at most `10^308`.

    Written.value?    the value of a written number, none beyond the range of doubles
-/

namespace SearchGateway.Json

open SearchGateway.Number (digitValue maxUInt64)

/-! ## Algorithm -/

/-- The parts of a number as written; `exponent` carries its own sign. -/
structure Written where
  negative : Bool
  whole : List Char
  fraction : List Char
  exponent : Option (Bool × List Char)

/-- Digits gathered so far, and whether a digit has been left out. -/
structure Significand where
  value : Nat
  full : Bool
  shift : Int

/-- A digit before the point: one that does not fit multiplies by ten. -/
def Significand.pushWhole (s : Significand) (c : Char) : Significand :=
  let next := s.value * 10 + digitValue c
  if s.full || next > maxUInt64 then { s with full := true, shift := s.shift + 1 }
  else { s with value := next }

/-- A digit after the point: one that does not fit is dropped, with all that follow. -/
def Significand.pushFraction (s : Significand) (c : Char) : Significand :=
  let next := s.value * 10 + digitValue c
  if s.full || next > maxUInt64 then { s with full := true }
  else { s with value := next, shift := s.shift - 1 }

/-- `x · 10^e`, none if it overflows. -/
def scaleByTen : Nat → Float → Int → Option Float
  | 0, x, _ => some x
  | n + 1, x, e =>
    if e.natAbs ≤ 308 then
      let power := Float.ofScientific 1 false e.natAbs
      if 0 ≤ e then
        let y := x * power
        if y.isInf then none else some y
      else some (x / power)
    else if x == 0.0 then some x
    else if 0 ≤ e then none
    else scaleByTen n (x / Float.ofScientific 1 false 308) (e + 308)

/-- The double that a number with a fraction, an exponent or too many digits denotes. -/
def Written.float? (w : Written) : Option Float :=
  let whole := w.whole.foldl Significand.pushWhole ⟨0, false, 0⟩
  let all := w.fraction.foldl Significand.pushFraction { whole with full := false }
  let sign (x : Float) : Float := if w.negative then -x else x
  let x := (UInt64.ofNat all.value).toFloat
  match w.exponent with
  | none => (scaleByTen 8 x all.shift).map sign
  | some (minus, ds) =>
    let e := Number.digitsValue ds
    if e > 0x7FFFFFFF then
      if all.value ≠ 0 ∧ ¬ minus then none else some (sign 0.0)
    else (scaleByTen 8 x (all.shift + if minus then -(e : Int) else e)).map sign

/-- The value of a written number. -/
def Written.value? (w : Written) : Option Number :=
  if w.fraction = [] ∧ w.exponent = none then
    let n := Number.digitsValue w.whole
    if w.negative then
      if n = 0 then some (.float (-0.0))
      else if n ≤ 0x8000000000000000 then some (.int (-n))
      else w.float?.map .float
    else if n ≤ maxUInt64 then some (.int n)
    else w.float?.map .float
  else w.float?.map .float

end SearchGateway.Json
