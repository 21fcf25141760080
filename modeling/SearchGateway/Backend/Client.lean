import SearchGateway.Backend.Fault
import SearchGateway.Backend.Response
import SearchGateway.Http.Exchange
import SearchGateway.Params.Query

/-!
# Calling the backend

A handler of the backend is a path segment below the backend's base URL; parameters go
into the query.

    Client.url        the URL of a call
    Client.execute    a call, with the body as it comes
    SearchResponse.ofRaw, SuggestResponse.ofRaw
                      an answer decoded
    Client.log        what the log says about a call

Of an answer that is no success only its message is kept, never its body.
-/

namespace SearchGateway.Backend

/-- Where the backend is. -/
structure Client where
  base : Url
  hierarchical : base.isRootless = false

/-- A successful answer. -/
structure Raw where
  status : Nat
  contentType : Option String
  body : String
  deriving DecidableEq, Repr

namespace Client

/-! ## Algorithm -/

/-- The backend below a base URL; the URL must have room for segments. -/
def ofText (text : String) : Except Fault Client :=
  match Url.parse text with
  | .error e => .error (.invalidUrl s!"{text}: {e.message}")
  | .ok u =>
    if h : u.isRootless = false then .ok ⟨u, h⟩
    else .error (.invalidUrl u.text)

/-- The URL of a call. -/
def url (c : Client) (handler : String) (params : Params) : Url :=
  (c.base.push handler).addQuery (Query.writePairs params.pairs)

/-- What an answer that is no success says. -/
def complaint (status : Nat) (body : String) : String :=
  (errorMessage? body <|> Http.reason? status).getD "unknown error"

/-- A failure on the way. -/
def faultOf (e : Http.Failure) : Fault :=
  match e with
  | .timeout _ => .timeout e.message
  | .unreachable _ => .connect e.message
  | _ => .request e.message

/-- What an outcome means. -/
def interpret : Http.Outcome → Except Fault Raw
  | .error e => .error (faultOf e)
  | .ok a =>
    if Http.isSuccess a.status then .ok ⟨a.status, a.contentType, a.body⟩
    else .error (.status a.status (complaint a.status a.body))

/-- A call, with the body as it comes. -/
def execute (c : Client) (handler : String) (params : Params) :
    Http.Exchange (Except Fault Raw) :=
  (Http.send ⟨.get, c.url handler params, none⟩).bind fun o => .done (interpret o)

/-- Parameters that ask for JSON, whatever else was asked for. -/
def askJson (params : Params) : Params := params.insert "wt" ["json"]

/-- What a body of a successful answer decodes to. -/
def decoded {α : Type} (read : String → Option α) : Except Fault Raw → Except Fault α
  | .error e => .error e
  | .ok r =>
    match read r.body with
    | some a => .ok a
    | none => .error (.decode "unexpected response")

end Client

/-- An answer as a list of documents. -/
def SearchResponse.ofRaw : Except Fault Raw → Except Fault SearchResponse :=
  Client.decoded SearchResponse.read

/-- An answer as suggestions. -/
def SuggestResponse.ofRaw : Except Fault Raw → Except Fault SuggestResponse :=
  Client.decoded SuggestResponse.read

namespace Client

/-! ## Logging -/

/-- The longest query in a log, in octets. -/
def maxLoggedQuery : Nat := 256

/-- The start of a text within a number of octets, if it can be cut there. -/
def truncate? (text : String) (limit : Nat) : Option String :=
  (Text.Utf8.truncate? limit (Text.Utf8.encode text.toList)).map fun bs =>
    String.ofList (Text.Utf8.decodeLossy bs)

theorem isSome_truncate? (text : String) (limit : Nat) :
    (truncate? text limit).isSome = true := by
  unfold truncate?
  rw [Option.isSome_map]
  exact Text.Utf8.isSome_truncate? limit _

/-- The start of a text within a number of octets. -/
def truncate (text : String) (limit : Nat) : String :=
  (truncate? text limit).get (isSome_truncate? text limit)

/-- A log entry about a call. -/
structure Event where
  message : String
  query : String

/-- What the log says about a call: that it is sent, and whether it is refused. -/
def log {α : Type} (c : Client) (handler : String) (params : Params)
    (result : Except Fault α) : List Event :=
  let query := truncate ((c.url handler params).query.getD "") maxLoggedQuery
  let refusal := match result with
    | .error (.status ..) => [⟨"Solr request failed", query⟩]
    | _ => []
  ⟨"Sending solr request", query⟩ :: refusal

end Client

end SearchGateway.Backend
