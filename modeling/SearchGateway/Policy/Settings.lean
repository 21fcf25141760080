import SearchGateway.Ordered
import SearchGateway.Policy.Cost

/-!
# Policy settings

A policy as it is configured.  What a policy cannot do without is optional here, so
that compiling it can say which entry lacks what.
-/

namespace SearchGateway.Policy

variable {W : Type}

structure FieldSettings (W : Type) where
  name : Option String
  weight : Option W

structure ParamSettings (W : Type) where
  name : Option String
  kind : Option String
  allowed : Bool
  constant : W
  factor : W
  multiValue : Bool
  maxLength : Option Nat
  maxValue : Option Int
  allowedFields : Option (List String)
  deniedFields : List String
  star : Bool

structure ComponentSettings (W : Type) where
  defaultEnabled : Bool
  allowed : Bool
  constant : W
  params : List (ParamSettings W)

/-- Terms for what is not listed. -/
structure UnlistedSettings (W : Type) where
  allowed : Bool
  weight : W

structure Settings (W : Type) where
  maxWeight : W
  unlistedFields : UnlistedSettings W
  unlistedParams : UnlistedSettings W
  fields : List (FieldSettings W)
  components : Ordered (ComponentSettings W)

def FieldSettings.default : FieldSettings W := ⟨none, none⟩

variable [Cost W]

def ParamSettings.default : ParamSettings W :=
  ⟨none, none, true, Cost.zero, Cost.zero, false, none, none, none, [], false⟩

def ComponentSettings.default : ComponentSettings W := ⟨true, true, Cost.zero, []⟩

def UnlistedSettings.default : UnlistedSettings W := ⟨false, Cost.zero⟩

/-- The settings of an empty configuration: a limit of one thousand and nothing listed. -/
def Settings.default : Settings W :=
  ⟨Cost.ofNat 1000, .default, .default, [], Ordered.empty⟩

end SearchGateway.Policy
