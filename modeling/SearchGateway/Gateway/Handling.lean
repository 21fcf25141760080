import SearchGateway.Access.Probe
import SearchGateway.Config.Setting
import SearchGateway.Gateway.ApiError
import SearchGateway.Gateway.Identity
import SearchGateway.Gateway.Runtime
import SearchGateway.Params.Query
import SearchGateway.Policy.Decision

/-!
# Handling requests

What the gateway does with a request for a handler: it decides whether to admit it, merges
its parameters with what is configured, and calls the services behind it.  Those calls are
the questions of a dialogue.

    admission   the parameters of an admitted request, ready to be read
    search      a search under the caller's access filter
    suggest     suggestions that the caller can find
    explain     the decision alone
-/

namespace SearchGateway.Gateway

open Access (Caller Filter)

/-! ## Calls -/

/-- What handling a request asks of its surroundings. -/
inductive Call
  /-- The runtime in force. -/
  | runtime
  | filter (supplier : Access.Supplier) (caller : Caller)
  | backend (client : Backend.Client) (handler : String) (params : Params)

abbrev Call.Answer : Call → Type
  | runtime => Runtime
  | filter .. => Except Access.Unavailable Filter
  | backend .. => Except Backend.Fault Backend.Raw

abbrev Calling := Dialogue Call Call.Answer

/-- A computation that calls services and may fail. -/
abbrev Handling := ExceptT ApiError Calling

/-- What needs no call. -/
def settled {α : Type} (e : Except ApiError α) : Handling α := Dialogue.done e

/-- A call to a service; its failure is the request's. -/
def askFilter (s : Access.Supplier) (c : Caller) : Handling Filter :=
  Dialogue.ask (Call.filter s c) fun (a : Except Access.Unavailable Filter) =>
    .done (a.mapError .entitlement)

def askBackend (c : Backend.Client) (handler : String) (params : Params) :
    Handling Backend.Raw :=
  Dialogue.ask (Call.backend c handler params) fun (a : Except Backend.Fault Backend.Raw) =>
    .done (a.mapError .backend)

/-! ## Admission -/

/-- Puts the parameters of a request into a merger. -/
def fill (m : Merger) : List (String × List String) → Except ApiError Merger
  | [] => .ok m
  | (k, vs) :: r =>
    match m.putAll k vs with
    | .ok m => fill m r
    | .error e => .error (.merger e)

/-- An admitted request's parameters on top of the handler's defaults. -/
def admission (r : Runtime) (handler : String) (params : Params) : Except ApiError Merger :=
  let d := r.profile.decide handler params none
  if !d.allowed then .error (.denied d.report)
  else
    match r.settings.handler? handler with
    | none => .error (.unknownHandler handler)
    | some h =>
      fill (.start (Config.Setting.params h.defaults) (Config.Setting.params h.forced)
        r.settings.cumulative) params.entries

/-! ## Searching -/

/-- The parameter that holds filters. -/
def filterParam : String := "fq"

/-- Adds the access filter, after everything else. -/
def restrict (f : Filter) (params : Params) : Params :=
  if f.isUnrestricted then params else params.addAll filterParam f.tagged

/-- Whether the backend repeats parameters: it does unless it is told not to. -/
def echoes (params : Params) : Bool := params.first? "echoParams" ≠ some "none"

/-- The body without the access filter, where the backend repeats it. -/
def cleaned (f : Filter) (params : Params) (raw : Backend.Raw) : Except ApiError String :=
  if !f.isUnrestricted && echoes params then
    (Access.redact (.detect raw.contentType (params.first? "wt")) raw.body).mapError .redaction
  else .ok raw.body

def formatType : Access.Format → String
  | .json => "application/json"
  | .xml => "application/xml"

/-- A search under the caller's access filter. -/
def search (r : Runtime) (handler query : String) (headers : List Header) : Handling Response := do
  let merger ← settled (admission r handler (Query.parse query))
  let f ← askFilter r.supplier (callerOf r.settings.server headers)
  let outgoing := restrict f merger.params
  let raw ← askBackend r.client handler outgoing
  let body ← settled (cleaned f outgoing raw)
  let type := raw.contentType.getD (formatType (.detect raw.contentType (outgoing.first? "wt")))
  pure ⟨200, some type, none, body⟩

/-! ## Suggesting -/

/-- The parameter that says how many suggestions are wanted. -/
def countParam : String := "suggest.count"

/-- How many suggestions are wanted. -/
def wantedCount (s : Config.Suggest) (params : Params) : Except ApiError Nat :=
  match params.first? countParam with
  | none => .ok s.defaultCount
  | some raw =>
    match Number.uint64? raw.toList with
    | some n => .ok n
    | none => .error (.badRequest s!"{countParam} must be a count")

/-- How many candidates the backend is asked for. -/
def candidateCount (s : Config.Suggest) (wanted : Nat) : Nat :=
  min (wanted * s.overfetch) Number.maxUInt64

/-- The parameters of a call for candidates. -/
def candidateParams (r : Runtime) (handler : String) (params : Params) (wanted : Nat) :
    Except ApiError Params :=
  match admission r handler params with
  | .error e => .error e
  | .ok m =>
    match m.put countParam (toString (candidateCount r.settings.suggest wanted)) with
    | .ok m => .ok (Backend.Client.askJson m.params)
    | .error e => .error (.merger e)

/-- How screening's questions are settled for a caller. -/
def settle (r : Runtime) (caller : Caller) : (q : Access.Inquiry) → Calling q.Answer
  | .filter => .question (Call.filter r.supplier caller)
  | .probe f title =>
    .ask (Call.backend r.client r.settings.suggest.probeHandler
      (Backend.Client.askJson (Access.probeParams r.settings.suggest.titleField f title)))
      fun (a : Except Backend.Fault Backend.Raw) => .done (Access.countOf a)

/-- One list of candidates screened. -/
def screenResult (r : Runtime) (caller : Caller) (wanted : Nat)
    (result : Backend.SuggestResult) : StateT Access.Session Handling Backend.SuggestResult :=
  fun s =>
    ((Access.screen r.settings.suggest.parallelism s result.suggestions wanted).answer
      (settle r caller)).bind fun (kept, s) =>
        match kept with
        | .ok kept => .done (.ok (result.keep kept, s))
        | .error e => .done (.error (.ofScreening e))

/-- Every list of candidates screened, in one session. -/
def screenResponse (r : Runtime) (caller : Caller) (wanted : Nat) (a : Backend.SuggestResponse) :
    Handling Backend.SuggestResponse := do
  let (dictionaries, _) ←
    (a.dictionaries.traverse fun d : Ordered Backend.SuggestResult =>
      d.traverse (screenResult r caller wanted)).run .fresh
  pure { a with dictionaries }

/-- Suggestions that the caller can find. -/
def suggest (r : Runtime) (handler query : String) (headers : List Header) :
    Handling Response := do
  let params := Query.parse query
  let wanted ← settled (wantedCount r.settings.suggest params)
  let outgoing ← settled (candidateParams r handler params wanted)
  let raw ← askBackend r.client handler outgoing
  let found ← settled ((Backend.SuggestResponse.ofRaw (.ok raw)).mapError .backend)
  let kept ← screenResponse r (callerOf r.settings.server headers) wanted found
  pure (.json 200 kept.toJson.print)

/-! ## Explaining -/

/-- The decision on a request, without running it. -/
def explain (r : Runtime) (handler query : String) : Response :=
  .json 200 (r.profile.decide handler (Query.parse query) none).report.toJson.print

/-- The answer to the question whether the gateway is up. -/
def health : Response := .json 200 (Json.Value.object [("status", .text "ok")]).print

end SearchGateway.Gateway
