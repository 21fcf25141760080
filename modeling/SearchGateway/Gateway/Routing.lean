import SearchGateway.Gateway.Handling

/-!
# Routing

The gateway has four paths, each for reading only.  A handler is named by one segment of
the path.

    Route.ofPath?     the route of a path
    respond           the answer to a request, and how long it may take
-/

namespace SearchGateway.Gateway

/-- Where a path leads; the handler is still escaped. -/
inductive Route
  | health
  | search (segment : List Char)
  | suggest (segment : List Char)
  | explain (segment : List Char)
  deriving DecidableEq, Repr

/-- The route of a path.  A handler's segment is never empty. -/
def Route.ofPath? (path : List Char) : Option Route :=
  match Text.pieces (· == '/') path with
  | [[], a] => if String.ofList a = "health" then some .health else none
  | [[], a, h] =>
    if h = [] then none
    else if String.ofList a = "solr" then some (.search h)
    else if String.ofList a = "suggest" then some (.suggest h)
    else if String.ofList a = "policy" then some (.explain h)
    else none
  | _ => none

/-- The handler that a segment names, if its octets are well-formed. -/
def handlerOf? (segment : List Char) : Option String :=
  (Text.Utf8.decode? (Text.Percent.decode (Text.Utf8.encode segment))).map String.ofList

/-- The answer to a segment that names nothing. -/
def undecodable : Response :=
  ⟨400, some "text/plain; charset=utf-8", none, "Invalid URL: Invalid UTF-8 in `handler`"⟩

/-- The answer to a method that a path does not take. -/
def methodNotAllowed : Response := ⟨405, none, some "GET,HEAD", ""⟩

/-- An answer, or the answer that an error makes. -/
def answered (h : Handling Response) : Calling Response :=
  h.run.bind fun
    | .ok a => .done a
    | .error e => .done e.response

/-- Runs a handler under the runtime in force. -/
def under (segment : List Char) (f : Runtime → String → Calling Response) : Calling Response :=
  match handlerOf? segment with
  | none => .done undecodable
  | some h => .ask Call.runtime fun (r : Runtime) => f r h

/-- The answer of a route. -/
def Route.run (route : Route) (q : Request) : Calling Response :=
  match route with
  | health => .done Gateway.health
  | search s => under s fun r h => answered (Gateway.search r h q.query q.headers)
  | suggest s => under s fun r h => answered (Gateway.suggest r h q.query q.headers)
  | explain s => under s fun r h => .done (Gateway.explain r h q.query)

/-- The answer to a request for one of the paths. -/
def dispatch (q : Request) : Calling Response :=
  match Route.ofPath? q.path with
  | none => .done (.empty 404)
  | some route =>
    if q.method = "GET" then route.run q
    else if q.method = "HEAD" then (route.run q).bind fun a => .done a.head
    else .done methodNotAllowed

/-- An answer that must not take longer than a number of milliseconds. -/
structure Bounded where
  limit : Option Nat
  response : Response

/-- What the client gets when handling has taken so long. -/
def Bounded.after (b : Bounded) (elapsed : Nat) : Response :=
  match b.limit with
  | some ms => if ms < elapsed then (ApiError.timeout ms).response else b.response
  | none => b.response

/-- The answer to a request.  Browsers ask beforehand, with a method of its own, what they
may send; they may send anything, and nothing is looked up for that. -/
def respond (q : Request) : Calling Bounded :=
  if q.method = "OPTIONS" then .done ⟨none, .empty 200⟩
  else .ask Call.runtime fun (r : Runtime) =>
    (dispatch q).bind fun a => .done ⟨some r.settings.server.timeout, a⟩

end SearchGateway.Gateway
