import SearchGateway.Policy.Param

/-!
# Components

A component holds the declared parameters of one handler, in the order of their
names, and what calling the handler costs by itself.
-/

namespace SearchGateway.Policy

structure Component (W : Type) where
  name : String
  defaultEnabled : Bool
  allowed : Bool
  constant : W
  params : Roster (Param W) Param.name

/-- The states of the parameters that a request gives. -/
abbrev States := List (String × ParamState)

namespace Component

variable {W : Type}

/-- A component without parameters that costs nothing. -/
def bare [Cost W] (name : String) : Component W := ⟨name, true, true, Cost.zero, Roster.empty⟩

/-- Adds a parameter; one of the same name is replaced. -/
def withParam (c : Component W) (p : Param W) : Component W :=
  { c with params := c.params.insert p }

def param? (c : Component W) (name : String) : Option (Param W) := c.params.find? name

/-- The constant of an enabled component and what the given parameters cost, in the
order of their names. -/
def weight [Cost W] (c : Component W) (catalog : Catalog W) (enabled : Bool)
    (states : States) : W :=
  Cost.add (if enabled then c.constant else Cost.zero)
    (Cost.sum (c.params.items.filterMap fun p =>
      (states.lookup p.name).map (p.weight catalog)))

end Component

end SearchGateway.Policy
