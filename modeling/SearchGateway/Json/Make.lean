import SearchGateway.Json.Node
import SearchGateway.Ordered

/-!
# Making JSON values

What numbers, texts, maps and values that may be missing are in JSON.
-/

namespace SearchGateway.Json.Value

def ofInt (i : Int) : Value := .number (.int i)

def ofNat (n : Nat) : Value := ofInt n

def ofFloat (x : Float) : Value := .number (.float x)

def ofTexts (ss : List String) : Value := .array (ss.map .text)

/-- What is missing is null. -/
def ofOption {α : Type} (f : α → Value) : Option α → Value
  | some a => f a
  | none => .null

/-- A map is an object, in the map's order. -/
def ofMap {α : Type} (f : α → Value) (m : Ordered α) : Value :=
  .object (m.entries.map fun e => (e.1, f e.2))

end SearchGateway.Json.Value
