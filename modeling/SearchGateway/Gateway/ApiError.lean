import SearchGateway.Access.Redaction
import SearchGateway.Access.Screening
import SearchGateway.Gateway.Message
import SearchGateway.Params.Merger
import SearchGateway.Policy.Report

/-!
# Errors that a client sees

Each way in which a request can fail has a status, a text for the log and a text for the
client, which never tells about the network behind the gateway.  The body has the shape of
the backend's own errors; a denial also carries the decision.

    ApiError.message          the text for the log
    ApiError.publicMessage    the text for the client
    ApiError.response         the answer
-/

namespace SearchGateway.Gateway

inductive ApiError
  | denied (report : Policy.Report)
  | unknownHandler (name : String)
  | badRequest (message : String)
  | backend (cause : Backend.Fault)
  | entitlement (cause : Access.Unavailable)
  | redaction (cause : Access.RedactionError)
  | merger (cause : Merger.Refused)
  | timeout (milliseconds : Nat)

namespace ApiError

def ofScreening : Access.ScreeningError → ApiError
  | .entitlement e => entitlement e
  | .probe e => backend e

def message : ApiError → String
  | denied r => "request denied: " ++ "; ".intercalate r.reasons
  | unknownHandler n => s!"no handler configuration for '{n}'"
  | badRequest m => m
  | backend e => e.message
  | entitlement e => e.message
  | redaction e => s!"access filter missing from backend response: {e.message}"
  | merger e => s!"parameter merge failed: {e.message}"
  | timeout ms => s!"request timed out after {ms} ms"

/-- Of a backend's error only what it says itself is shown. -/
def publicMessage : ApiError → String
  | backend (.status _ m) => m
  | backend _ => "search backend unavailable"
  | entitlement _ => "entitlement service unavailable"
  | merger _ => "internal error"
  | e => e.message

def status : ApiError → Nat
  | denied r =>
    match r.rejection with
    | some .overweight => 403
    | some .unknownHandler => 404
    | some .illegalInput => 400
    | none => 400
  | unknownHandler _ => 404
  | badRequest _ => 400
  | backend _ => 502
  | redaction _ => 502
  | entitlement _ => 503
  | merger _ => 500
  | timeout _ => 504

def toJson (e : ApiError) : Json.Value :=
  let code := Json.Value.ofNat e.status
  let decision := match e with
    | denied r => [("decision", r.toJson)]
    | _ => []
  .object ([("responseHeader", .object [("status", code)]),
    ("error", .object [("msg", .text e.publicMessage), ("code", code)])] ++ decision)

def response (e : ApiError) : Response := .json e.status e.toJson.print

end ApiError

end SearchGateway.Gateway
