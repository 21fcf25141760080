import SearchGateway.Text.Blank

/-!
# Field lists

A field list names the fields that a caller wants: names between commas and blanks,
over one value or several.  A name that comes again is dropped.

    FieldList.split      the names of a field list, in the order of their first occurrence
-/

namespace SearchGateway.Policy.FieldList

/-- Commas and blanks separate names. -/
def separates (c : Char) : Bool := c == ',' || Text.isBlank c

/-- Keeps the first occurrence of each name that `seen` does not hold. -/
def firsts (seen : List String) : List String → List String
  | [] => []
  | x :: r => if x ∈ seen then firsts seen r else x :: firsts (x :: seen) r

/-- The names in one value, repetitions included. -/
def tokens (value : String) : List String :=
  ((Text.pieces separates value.toList).filter (· ≠ [])).map String.ofList

/-- The distinct names in a list of values. -/
def split (values : List String) : List String := firsts [] (values.flatMap tokens)

end SearchGateway.Policy.FieldList
