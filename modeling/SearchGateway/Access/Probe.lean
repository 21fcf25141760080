import SearchGateway.Access.Filter
import SearchGateway.Backend.Client

/-!
# Probes

A suggestion is probed by searching for its title under the caller's access filter and
asking for no documents.  The title stands in a quoted phrase.

    phrase           a text in quotes, with quotes and backslashes escaped
    probeParams      the parameters of a probe
    countOf          how many documents an answer tells of
-/

namespace SearchGateway.Access

/-! ## Algorithm -/

/-- A backslash goes before each quote and each backslash. -/
def escapePhrase : List Char → List Char
  | [] => []
  | c :: r => if c = '"' ∨ c = '\\' then '\\' :: c :: escapePhrase r else c :: escapePhrase r

def phrase (text : List Char) : List Char := '"' :: (escapePhrase text ++ ['"'])

/-- The query for documents with that title. -/
def titleQuery (field title : String) : String :=
  String.ofList (field.toList ++ ':' :: phrase title.toList)

def probeParams (field : String) (filter : Filter) (title : String) : Params :=
  Ordered.ofList
    ([("q", [titleQuery field title]), ("rows", ["0"])]
      ++ (if filter.isUnrestricted then [] else [("fq", filter.tagged)])
      ++ [("facet", ["false"]), ("hl", ["false"])])

/-- How many documents an answer to a probe tells of. -/
def countOf (r : Except Backend.Fault Backend.Raw) : Except Backend.Fault Nat :=
  (Backend.SearchResponse.ofRaw r).map (·.response.found)

end SearchGateway.Access
