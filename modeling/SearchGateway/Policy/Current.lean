import SearchGateway.Policy.Decision

/-!
# The policy in force

A policy can be replaced while requests are decided.  Whoever has taken the profile in
force keeps it; a reload that fails leaves it as it is.
-/

namespace SearchGateway.Policy

/-- The profile in force. -/
structure Current where
  profile : Profile Float

namespace Current

/-- Puts a profile in force. -/
def replace (_ : Current) (p : Profile Float) : Current := ⟨p⟩

/-- Compiles settings and puts the profile in force; on an error nothing changes. -/
def reload (c : Current) (s : Settings Float) : Current × Except (CompileError Float) Unit :=
  match Profile.compile s with
  | .ok p => (⟨p⟩, .ok ())
  | .error e => (c, .error e)

/-- Whole numbers keep a point and a zero; below `10^-4` and from `10^16` on there is an
exponent. -/
def layout : Number.Layout where
  positional e := -4 ≤ e && e < 16
  whole := ".0"
  plusSign := false
  nan := "NaN"
  infinity := "inf"
  negativeInfinity := "-inf"
  tie := .up

/-- A line about the policy in force for logs. -/
def describe (c : Current) : String :=
  "ReloadablePolicy \x7b max_weight: " ++ layout.write c.profile.maxWeight ++ " \x7d"

end Current

end SearchGateway.Policy
