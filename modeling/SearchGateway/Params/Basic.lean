import SearchGateway.Ordered

/-!
# Request parameters

A parameter may have several values.  Parameters keep the order in which their
names first came, and the values of one name keep their own order.
-/

namespace SearchGateway

/-- Parameters in order, each with its values. -/
abbrev Params := Ordered (List String)

namespace Params

/-- Adds values after those that the name already has. -/
def addAll (m : Params) (k : String) (vs : List String) : Params :=
  m.alter k fun old => old.getD [] ++ vs

/-- Adds one value. -/
def add (m : Params) (k v : String) : Params := m.addAll k [v]

/-- The parameters as pairs, one for each value. -/
def pairs (m : Params) : List (String × String) :=
  m.entries.flatMap fun e => e.2.map fun v => (e.1, v)

/-- The values of a name, none if it is missing. -/
def valuesOf (m : Params) (k : String) : List String := (m.find? k).getD []

/-- The first value of a name. -/
def first? (m : Params) (k : String) : Option String := (m.valuesOf k).head?

/-- Pairs gathered by name. -/
def ofPairs (ps : List (String × String)) : Params :=
  ps.foldl (fun m p => m.add p.1 p.2) Ordered.empty

end Params

end SearchGateway
