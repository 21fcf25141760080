import SearchGateway.Number.Reading

/-!
# Costs

The arithmetic in which the weight of a request is counted.  The policy is written
over any such arithmetic; the gateway counts in doubles.

A sum starts from `nothing` and adds from left to right.  In doubles `nothing` is
minus zero, the one value that adding never changes, while `zero` is plus zero.
-/

namespace SearchGateway.Policy

/-- An arithmetic of weights. -/
class Cost (W : Type) where
  /-- What something switched off costs. -/
  zero : W
  /-- The sum of nothing. -/
  nothing : W
  add : W → W → W
  mul : W → W → W
  ofNat : Nat → W
  /-- Whether the first weight is above the second. -/
  exceeds : W → W → Bool
  /-- Whether a weight is below zero, or no number at all. -/
  isNegative : W → Bool

namespace Cost

variable {W : Type} [Cost W]

/-- Adds weights from left to right. -/
def sum (ws : List W) : W := ws.foldl add nothing

/-- A constant and a quantity that costs `factor` for each unit. -/
def affine (constant factor quantity : W) : W := add constant (mul factor quantity)

end Cost

/-- Doubles; a comparison with what is not a number fails. -/
instance : Cost Float where
  zero := 0.0
  nothing := -0.0
  add := (· + ·)
  mul := (· * ·)
  ofNat n := Number.floatOfInt n
  exceeds a b := a > b
  isNegative a := a < 0.0 || a.isNaN

end SearchGateway.Policy
