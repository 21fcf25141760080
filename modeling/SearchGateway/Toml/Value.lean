/-!
# TOML values

What a TOML document holds.  Tables keep the order of the document; a date or a time
is kept as its normalized text.
-/

namespace SearchGateway.Toml

inductive Value
  | bool (b : Bool)
  | integer (i : Int)
  | float (x : Float)
  | text (s : String)
  | datetime (s : String)
  | array (items : List Value)
  | table (entries : List (String × Value))
  deriving Repr, Inhabited

end SearchGateway.Toml
