import SearchGateway.Json.Make
import SearchGateway.Params.Basic
import SearchGateway.Source

/-!
# Configured parameter values

An operator writes a parameter's value as it comes, `rows = 10` or `rows = "10"`, one
value or a list.  What the backend gets is text either way.

    Setting.texts     the texts of one value or several
    Setting.params    configured parameters as the backend gets them
-/

namespace SearchGateway.Config

inductive Setting
  | one (v : Scalar)
  | many (vs : List Scalar)
  deriving Repr

def Setting.texts : Setting → List String
  | one v => [v.toText]
  | many vs => vs.map Scalar.toText

/-- Configured parameters as the backend gets them. -/
def Setting.params (m : Ordered Setting) : Params := m.map Setting.texts

/-! ## In documents -/

/-- One value or a list of them. -/
def Setting.decode {N : Type} [Source N] (n : N) : Option Setting :=
  match Source.items n with
  | some ns => (ns.mapM Source.scalar).map .many
  | none => (Source.scalar n).map .one

def scalarJson : Scalar → Json.Value
  | .flag b => .bool b
  | .integer i => .ofInt i
  | .float x => .ofFloat x
  | .text s => .text s

def Setting.toJson : Setting → Json.Value
  | one v => scalarJson v
  | many vs => .array (vs.map scalarJson)

end SearchGateway.Config
