import SearchGateway.Json.Make
import SearchGateway.Json.Reader
import SearchGateway.Json.Record

/-!
# Backend responses

The two kinds of response that the gateway looks into: a list of documents, of which only
the number matters here, and suggestions, by dictionary and by what was typed.

    SearchResponse.read, SuggestResponse.read     decoding a body
    SuggestResponse.mapResults                    works on every list of suggestions
    errorMessage?                                 what an error body says

A decoded response is printed with every field that has a value, in a fixed order.
-/

namespace SearchGateway.Backend

open Json (Decoder Value)
open Source (int32 int64 optional required unsigned)

/-! ## What a response holds -/

structure Header where
  status : Int
  time : Int
  /-- The parameters of the request, when the backend repeats them. -/
  params : Option Value

def Header.default : Header := ⟨0, 0, none⟩

structure Documents where
  found : Nat
  start : Nat
  exact : Option Bool
  documents : List Value

structure SearchResponse where
  header : Header
  response : Documents

/-- A candidate for a suggestion. -/
structure Suggestion where
  term : String
  weight : Int
  payload : String
  deriving DecidableEq, Repr

/-- A candidate of which only the term is known. -/
def Suggestion.ofTerm (term : String) : Suggestion := ⟨term, 0, ""⟩

structure SuggestResult where
  found : Nat
  suggestions : List Suggestion
  deriving DecidableEq, Repr

/-- Suggestions by dictionary and by what was typed. -/
structure SuggestResponse where
  header : Header
  dictionaries : Ordered (Ordered SuggestResult)

/-! ## Reading -/

/-- How deep a header's parameters may nest: one hundred and twenty-seven levels in all,
two of them used up. -/
def paramsRoom : Nat := 125

/-- How deep a document may nest, three levels used up. -/
def documentRoom : Nat := 124

def Header.decode : Decoder Header := fun n => do
  let r ← Source.record ["status", "QTime", "params"] n
  pure {
    status := ← optional r "status" int32 0
    time := ← optional r "QTime" int64 0
    params := ← optional r "params" (Source.option (Decoder.value paramsRoom)) none }

def Documents.decode : Decoder Documents := fun n => do
  let r ← Source.record ["numFound", "start", "numFoundExact", "docs"] n
  pure {
    found := ← required r "numFound" (unsigned 64)
    start := ← optional r "start" (unsigned 64) 0
    exact := ← optional r "numFoundExact" (Source.option Source.bool) none
    documents := ← optional r "docs" (Source.list (Decoder.value documentRoom)) [] }

def SearchResponse.decode : Decoder SearchResponse := fun n => do
  let r ← Source.record ["responseHeader", "response"] n
  pure {
    header := ← optional r "responseHeader" Header.decode .default
    response := ← required r "response" Documents.decode }

def Suggestion.decode : Decoder Suggestion := fun n => do
  let r ← Source.record ["term", "weight", "payload"] n
  pure {
    term := ← required r "term" Source.text
    weight := ← optional r "weight" int64 0
    payload := ← optional r "payload" Source.text "" }

def SuggestResult.decode : Decoder SuggestResult := fun n => do
  let r ← Source.record ["numFound", "suggestions"] n
  pure {
    found := ← required r "numFound" (unsigned 64)
    suggestions := ← optional r "suggestions" (Source.list Suggestion.decode) [] }

def SuggestResponse.decode : Decoder SuggestResponse := fun n => do
  let r ← Source.record ["responseHeader", "suggest"] n
  pure {
    header := ← optional r "responseHeader" Header.decode .default
    dictionaries := ← optional r "suggest" (Source.map (Source.map SuggestResult.decode))
      Ordered.empty }

/-- A body decoded, if it is a document that fits. -/
def readBody {α : Type} (d : Decoder α) (body : String) : Option α :=
  match Json.Node.read body with
  | .ok n => d n
  | .error _ => none

def SearchResponse.read (body : String) : Option SearchResponse := readBody decode body

def SuggestResponse.read (body : String) : Option SuggestResponse := readBody decode body

/-- The message of an error body: the text at `error.msg`. -/
def errorMessage? (body : String) : Option String :=
  match Value.read body with
  | .error _ => none
  | .ok v => do
    let error ← v.member? "error"
    let message ← error.member? "msg"
    message.text?

/-! ## Writing -/

def Header.toJson (h : Header) : Value :=
  .object ([("status", .ofInt h.status), ("QTime", .ofInt h.time)]
    ++ (h.params.map fun p => ("params", p)).toList)

def Documents.toJson (d : Documents) : Value :=
  .object ([("numFound", .ofNat d.found), ("start", .ofNat d.start)]
    ++ (d.exact.map fun b => ("numFoundExact", .bool b)).toList
    ++ [("docs", .array d.documents)])

def SearchResponse.toJson (r : SearchResponse) : Value :=
  .object [("responseHeader", r.header.toJson), ("response", r.response.toJson)]

def Suggestion.toJson (s : Suggestion) : Value :=
  .object [("term", .text s.term), ("weight", .ofInt s.weight),
    ("payload", .text s.payload)]

def SuggestResult.toJson (r : SuggestResult) : Value :=
  .object [("numFound", .ofNat r.found),
    ("suggestions", .array (r.suggestions.map Suggestion.toJson))]

def SuggestResponse.toJson (r : SuggestResponse) : Value :=
  .object [("responseHeader", r.header.toJson),
    ("suggest", .ofMap (.ofMap SuggestResult.toJson) r.dictionaries)]

/-! ## Working on suggestions -/

/-- Keeps only these suggestions. -/
def SuggestResult.keep (_ : SuggestResult) (kept : List Suggestion) : SuggestResult :=
  ⟨kept.length, kept⟩

/-- Works on every list of suggestions. -/
def SuggestResponse.mapResults (f : SuggestResult → SuggestResult) (r : SuggestResponse) :
    SuggestResponse :=
  { r with dictionaries := r.dictionaries.map fun d => d.map f }

end SearchGateway.Backend
