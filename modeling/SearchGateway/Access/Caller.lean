import SearchGateway.Json.Make

/-!
# Callers

Who is calling, as far as the proxy in front of the gateway says.
-/

namespace SearchGateway.Access

structure Caller where
  user : Option String
  groups : List String
  address : Option String
  deriving DecidableEq, Repr

/-- A caller of whom nothing is known. -/
def Caller.anonymous : Caller := ⟨none, [], none⟩

/-- What the entitlement service is told; a user or an address that is missing is left out. -/
def Caller.toJson (c : Caller) : Json.Value :=
  .object ((c.user.map fun u => ("user", .text u)).toList
    ++ [("groups", .ofTexts c.groups)]
    ++ (c.address.map fun a => ("address", .text a)).toList)

/-- The access filter of a caller is not to be had. -/
structure Unavailable where
  detail : String
  deriving DecidableEq, Repr

def Unavailable.message (u : Unavailable) : String :=
  s!"entitlement service unavailable: {u.detail}"

end SearchGateway.Access
