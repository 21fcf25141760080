import SearchGateway.Policy.Cost

/-!
# The field catalog

The retrievable fields with what each costs, and the terms for all other fields.

    Catalog.cost       how a field name is priced
    Catalog.total      what every listed field costs together
-/

namespace SearchGateway.Policy

/-- A retrievable field. -/
structure Field (W : Type) where
  name : String
  weight : W

/-- How a field name is priced. -/
inductive FieldCost (W : Type)
  | listed (weight : W)
  | unlisted (weight : W) (allowed : Bool)

def FieldCost.weight {W : Type} : FieldCost W → W
  | listed w => w
  | unlisted w _ => w

/-- Whether a request may name a field priced this way. -/
def FieldCost.isAllowed {W : Type} : FieldCost W → Bool
  | listed _ => true
  | unlisted _ allowed => allowed

/-- Listed fields in the order of the configuration, terms for the rest, and the price
of all listed fields. -/
structure Catalog (W : Type) where
  fields : List (Field W)
  unlistedAllowed : Bool
  unlistedWeight : W
  total : W

namespace Catalog

variable {W : Type}

/-- No field listed, none else allowed. -/
def empty [Cost W] : Catalog W := ⟨[], false, Cost.zero, Cost.zero⟩

instance [Cost W] : Inhabited (Catalog W) := ⟨empty⟩

/-- The total adds the weights in the order of the list, repeated names included. -/
def ofFields [Cost W] (fields : List (Field W)) (allowed : Bool) (weight : W) : Catalog W :=
  ⟨fields, allowed, weight, Cost.sum (fields.map (·.weight))⟩

/-- The field of a name; of two the last one counts. -/
def find? (c : Catalog W) (name : String) : Option (Field W) :=
  c.fields.reverse.find? (·.name == name)

def cost (c : Catalog W) (name : String) : FieldCost W :=
  match c.find? name with
  | some f => .listed f.weight
  | none => .unlisted c.unlistedWeight c.unlistedAllowed

/-- How many names are listed. -/
def size (c : Catalog W) : Nat := (c.fields.map (·.name)).eraseDups.length

end Catalog

end SearchGateway.Policy
