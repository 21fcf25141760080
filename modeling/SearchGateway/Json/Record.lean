import SearchGateway.Json.Reader
import SearchGateway.Number.Reading
import SearchGateway.Source

/-!
# Reading JSON documents

A record is an object with known members, or an array of its fields in order.  Members
that are not known are skipped, whatever they hold; a known member that comes twice
spoils the record, and so does an array with more items than there are fields.  What is
missing takes its default, if it has one.  Numbers are not read out of strings, nor whole
numbers out of doubles.

    Record.read     the fields that a document gives
    Decoder         how plain values are read
-/

namespace SearchGateway.Json

/-! ## Plain values -/

/-- How a value is read; none if the document does not fit. -/
abbrev Decoder (α : Type) := Node → Option α

namespace Decoder

def bool : Decoder Bool
  | .bool b => some b
  | _ => none

def text : Decoder String
  | .text s => s
  | _ => none

/-- A whole number between two bounds. -/
def intIn (low high : Int) : Decoder Int
  | .number (some (.int i)) => if low ≤ i ∧ i ≤ high then some i else none
  | _ => none

/-- A whole number from zero to a bound. -/
def natTo (high : Nat) : Decoder Nat := fun n => (intIn 0 high n).map Int.toNat

/-- A double; whole numbers are taken too. -/
def float : Decoder Float
  | .number (some (.int i)) => some (Number.floatOfInt i)
  | .number (some (.float x)) => some x
  | _ => none

/-- Any value, at most so many levels deep. -/
def value (room : Nat) : Decoder Value := Value.ofNode? room

/-- A value of whatever kind a setting may be.  Whole numbers that 64 signed bits do not
hold are doubles. -/
def scalar : Decoder Scalar
  | .bool b => some (.flag b)
  | .number (some (.int i)) =>
    if Number.fitsInt64 i then some (.integer i) else some (.float (Number.floatOfInt i))
  | .number (some (.float x)) => some (.float x)
  | .text s => s.map .text
  | _ => none

end Decoder

/-! ## Records -/

/-- The fields that a document gives. -/
abbrev Record := List (String × Node)

namespace Record

/-- Known members in the order of the document; none if one is repeated or a name means
nothing. -/
def ofMembers (names : List String) (found : Record) :
    List (Option String × Node) → Option Record
  | [] => some found
  | (none, _) :: _ => none
  | (some k, n) :: r =>
    if k ∈ names then
      if (found.lookup k).isSome then none else ofMembers names (found ++ [(k, n)]) r
    else ofMembers names found r

/-- The fields of a record that a document gives. -/
def read (names : List String) : Decoder Record
  | .object members => ofMembers names [] members
  | .array items => if items.length ≤ names.length then some (names.zip items) else none
  | _ => none

end Record

/-! ## As a source -/

/-- The members of an object, if every name means something. -/
def membersOf : Decoder (List (String × Node))
  | .object ms => ms.mapM fun m => m.1.map fun k => (k, m.2)
  | _ => none

/-- JSON lets no kind of value pass for another. -/
instance : Source Node where
  record := Record.read
  members := membersOf
  items
    | .array items => some items
    | _ => none
  isNull
    | .null => true
    | _ => false
  bool := Decoder.bool
  text := Decoder.text
  integer := Decoder.intIn
  natural := Decoder.natTo
  float := Decoder.float
  scalar := Decoder.scalar

end SearchGateway.Json
