import SearchGateway.Access.Filter
import SearchGateway.Json.Printer
import SearchGateway.Json.Reader

/-!
# Redacting responses

A backend may repeat the parameters it was called with, the access filter among them.
Before a response reaches the caller every tagged clause is cut out.  A response in which
there is none shows that the backend never saw the filter, so it is refused.

    redactJson       cuts tagged strings out of arrays and objects, at any depth
    redactMarkup     cuts out elements that hold a tagged clause
-/

namespace SearchGateway.Access

/-- How a response is written down. -/
inductive Format
  | json
  | xml
  deriving DecidableEq, Repr

inductive RedactionError
  | noMarker
  | notJson (reason : String)
  deriving DecidableEq, Repr

def RedactionError.message : RedactionError → String
  | noMarker => "response carries no marked access filter"
  | notJson reason => s!"response body is not valid JSON: {reason}"

/-- The format that a content type names, else the one that was asked for. -/
def Format.detect (contentType wanted : Option String) : Format :=
  let names (word : String) : Bool :=
    (contentType.map fun c => Text.occursIn word.toList c.toList).getD false
  if names "xml" then .xml
  else if names "json" then .json
  else if wanted = some "xml" then .xml
  else .json

/-! ## JSON -/

def isTaggedValue : Json.Value → Bool
  | .text s => isTagged s
  | _ => false

mutual

/-- The value without the tagged strings below it, and how many there were. -/
def redactValue : Json.Value → Json.Value × Nat
  | .array items => let r := redactItems items; (.array r.1, r.2)
  | .object members => let r := redactMembers members; (.object r.1, r.2)
  | v => (v, 0)

def redactItems : List Json.Value → List Json.Value × Nat
  | [] => ([], 0)
  | v :: r =>
    let rest := redactItems r
    if isTaggedValue v then (rest.1, rest.2 + 1)
    else let here := redactValue v; (here.1 :: rest.1, here.2 + rest.2)

def redactMembers : List (String × Json.Value) → List (String × Json.Value) × Nat
  | [] => ([], 0)
  | (k, v) :: r =>
    let rest := redactMembers r
    if isTaggedValue v then (rest.1, rest.2 + 1)
    else let here := redactValue v; ((k, here.1) :: rest.1, here.2 + rest.2)

end

def redactJson (body : String) : Except RedactionError String :=
  match Json.Value.read body with
  | .error e => .error (.notJson e.message)
  | .ok v =>
    match redactValue v with
    | (_, 0) => .error .noMarker
    | (v, _ + 1) => .ok v.print

/-! ## Markup -/

/-- What follows a start tag after its name: the end of the tag, or a blank and attributes
as far as the end. -/
def afterAttributes : List Char → Option (List Char)
  | '>' :: r => some r
  | c :: r =>
    if Text.isBlank c then
      match r.dropWhile (· ≠ '>') with
      | '>' :: r => some r
      | _ => none
    else none
  | [] => none

/-- What follows an element `str` that holds a tagged clause, if one stands here. -/
def afterMarked (cs : List Char) : Option (List Char) := do
  let r ← Text.after? "<str".toList cs
  let r ← afterAttributes r
  let r ← Text.after? marker.toList r
  Text.after? "</str>".toList (r.dropWhile (· ≠ '<'))

/-- The text without its marked elements, from left to right; the first `skip` characters
belong to one that has been recognised. -/
def cutMarked (skip : Nat) : List Char → List Char
  | [] => []
  | c :: r =>
    match skip with
    | skip + 1 => cutMarked skip r
    | 0 =>
      match afterMarked (c :: r) with
      | some rest => cutMarked (r.length - rest.length) r
      | none => c :: cutMarked 0 r

/-- Whether a marked element stands anywhere. -/
def hasMarked : List Char → Bool
  | [] => false
  | c :: r => (afterMarked (c :: r)).isSome || hasMarked r

def redactMarkup (body : String) : Except RedactionError String :=
  if hasMarked body.toList then .ok (String.ofList (cutMarked 0 body.toList))
  else .error .noMarker

/-- A response body without the tagged clauses it repeats. -/
def redact (format : Format) (body : String) : Except RedactionError String :=
  match format with
  | .json => redactJson body
  | .xml => redactMarkup body

end SearchGateway.Access
