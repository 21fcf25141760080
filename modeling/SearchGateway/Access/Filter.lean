import SearchGateway.Text.Blank

/-!
# Access filters

What a caller may see is a list of filter clauses, each of them a restriction.  A clause
that the gateway sends carries a marker at its start, so that it can be told apart from
the caller's own filters when the backend repeats it.

    Filter.ofFragment    one clause, or none if the text is blank
    Filter.tagged        the clauses as they are sent
    isTagged_tag         a tagged clause is recognised
-/

namespace SearchGateway.Access

/-- What stands before every clause that the gateway sends. -/
def marker : String := "\x7b!cache=true tag=solrgate_access\x7d"

def tag (clause : String) : String := marker ++ clause

/-- Whether a text starts with the marker. -/
def isTagged (text : String) : Bool := (Text.after? marker.toList text.toList).isSome

/-- The clauses that restrict what a caller sees; with none there is no restriction. -/
structure Filter where
  clauses : List String
  deriving DecidableEq, Repr

namespace Filter

def unrestricted : Filter := ⟨[]⟩

/-- One clause, blanks around it dropped; a blank text does not restrict. -/
def ofFragment (fragment : String) : Filter :=
  match Text.trimChars fragment.toList with
  | [] => unrestricted
  | cs => ⟨[String.ofList cs]⟩

def isUnrestricted (f : Filter) : Bool := f.clauses.isEmpty

/-- The clauses as they are sent. -/
def tagged (f : Filter) : List String := f.clauses.map tag

end Filter

/-! ## Lemmas -/

theorem isTagged_tag (clause : String) : isTagged (tag clause) = true := by
  simp [isTagged, tag, String.toList_append, Text.after?_append]

end SearchGateway.Access
