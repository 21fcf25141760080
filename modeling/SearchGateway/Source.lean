import SearchGateway.Number.Range
import SearchGateway.Ordered
import SearchGateway.Scalar

/-!
# Sources of settings

Settings are read out of documents of more than one kind.  A kind of document says how a
record, a list and the plain values are read out of it, and how far it lets one kind of
value pass for another.

    Source              what can be read out of a document
    Source.optional     a field with a default
    Source.required     a field without one
-/

namespace SearchGateway

/-- A kind of document.  Each reading is none if the document does not fit. -/
class Source (N : Type) where
  /-- The fields that a document gives, of those with these names. -/
  record : List String → N → Option (List (String × N))
  /-- The members of a map, in order. -/
  members : N → Option (List (String × N))
  items : N → Option (List N)
  isNull : N → Bool
  bool : N → Option Bool
  text : N → Option String
  /-- A whole number between two bounds. -/
  integer : Int → Int → N → Option Int
  /-- A whole number from zero to a bound. -/
  natural : Nat → N → Option Nat
  float : N → Option Float
  /-- A value of whatever kind it is. -/
  scalar : N → Option Scalar

namespace Source

variable {N α : Type} [Source N]

def int32 : N → Option Int := integer (-0x80000000) 0x7FFFFFFF

def int64 : N → Option Int := integer Number.minInt64 Number.maxInt64

/-- An unsigned number of so many bits. -/
def unsigned (bits : Nat) : N → Option Nat := natural (Nat.pow 2 bits - 1)

/-- Null is nothing. -/
def option (read : N → Option α) (n : N) : Option (Option α) :=
  if isNull n then some none else (read n).map some

def list (read : N → Option α) (n : N) : Option (List α) := (items n).bind (·.mapM read)

/-- A map whose members are all alike; the last of a repeated name counts. -/
def map (read : N → Option α) (n : N) : Option (Ordered α) := do
  let ms ← members n
  let es ← ms.mapM fun m => (read m.2).map fun a => (m.1, a)
  pure (Ordered.ofList es)

/-- A field with a default. -/
def optional (r : List (String × N)) (name : String) (read : N → Option α) (default : α) :
    Option α :=
  match r.lookup name with
  | some n => read n
  | none => some default

/-- A field without a default. -/
def required (r : List (String × N)) (name : String) (read : N → Option α) : Option α :=
  (r.lookup name).bind read

end Source

end SearchGateway
