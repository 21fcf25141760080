import SearchGateway.Access.Caller
import SearchGateway.Access.Filter
import SearchGateway.Http.Exchange
import SearchGateway.Json.Printer
import SearchGateway.Json.Reader
import SearchGateway.Json.Record

/-!
# Entitlement

A service tells what a caller may see: it is told who calls and answers with a filter
fragment.  A failed look-up is always an error; it never means that there is no
restriction.

    Supplier.configure    where filters come from
    Supplier.fetch        the filter of a caller
    readReply             what an answer of the service means
-/

namespace SearchGateway.Access

/-- Where access filters come from. -/
inductive Supplier
  /-- Nobody is restricted. -/
  | unrestricted
  | service (url : Url)
  deriving DecidableEq, Repr

/-! ## Algorithm -/

namespace Supplier

/-- The supplier that settings describe. -/
def configure (enabled : Bool) (url : Option String) : Except Unavailable Supplier :=
  if !enabled then .ok .unrestricted
  else
    match url with
    | none => .error ⟨"no entitlement url configured"⟩
    | some text =>
      match Url.parse text with
      | .ok u => .ok (.service u)
      | .error e => .error ⟨s!"invalid url {text}: {e.message}"⟩

end Supplier

/-- The fragment in an answer's body; it may be missing. -/
def readFragment (body : String) : Option (Option String) :=
  match Json.Node.read body with
  | .error _ => none
  | .ok n => do
    let r ← Source.record ["filter"] n
    Source.optional r "filter" (Source.option Source.text) none

/-- What an answer of the service means. -/
def readReply : Http.Outcome → Except Unavailable Filter
  | .error (.timeout _) => .error ⟨"request timed out"⟩
  | .error e => .error ⟨e.message⟩
  | .ok a =>
    if !Http.isSuccess a.status then .error ⟨s!"status {Http.statusLine a.status}"⟩
    else
      match readFragment a.body with
      | none => .error ⟨"invalid response: error decoding response body"⟩
      | some none => .error ⟨"response has no filter"⟩
      | some (some fragment) => .ok (.ofFragment fragment)

/-- The access filter of a caller. -/
def Supplier.fetch (s : Supplier) (c : Caller) : Http.Exchange (Except Unavailable Filter) :=
  match s with
  | unrestricted => .done (.ok .unrestricted)
  | service url => (Http.send ⟨.post, url, some c.toJson.print⟩).bind fun o => .done (readReply o)

end SearchGateway.Access
