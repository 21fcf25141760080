import SearchGateway.Number.Layout

/-!
# Scalars

A single value as somebody writes it in a configuration: a switch, a number or a text.
Whatever it is, it has one text.
-/

namespace SearchGateway

inductive Scalar
  | flag (b : Bool)
  | integer (i : Int)
  | float (x : Float)
  | text (s : String)
  deriving Repr

/-- The text of a value. -/
def Scalar.toText : Scalar → String
  | flag true => "true"
  | flag false => "false"
  | integer i => toString i
  | float x => Number.Layout.plain.write x
  | text s => s

end SearchGateway
