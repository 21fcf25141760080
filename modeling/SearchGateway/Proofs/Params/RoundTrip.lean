import SearchGateway.Proofs.Gateway.Forwarding

/-!
# Parameters in a query string and back

A query string has a place for every name and value, the empty ones included, but none for a name
without values.  So parameters come back from a query string without such names, and what was read
of a query string, however ill-formed, comes back as it is.

    parse_print_eq_self_iff   the parameters that come back as they are
    print_eq_print_iff        two lots of parameters that are written alike
    parse_print_roundTrip     there and back, and by way of the URL of a call
-/

namespace SearchGateway

/-! ## Lemmas -/

namespace Params

/-- A name without values makes no pair. -/
theorem flatMap_given (es : List (String × List String)) :
    ((given es).flatMap fun e => e.2.map fun v => (e.1, v)) =
      es.flatMap fun e => e.2.map fun v => (e.1, v) := by
  induction es with
  | nil => rfl
  | cons e r ih =>
    obtain ⟨k, vs⟩ := e
    cases vs with
    | nil => exact ih
    | cons v vs =>
      have hgiven : given ((k, v :: vs) :: r) = (k, v :: vs) :: given r := rfl
      rw [hgiven, List.flatMap_cons, List.flatMap_cons, ih]

theorem given_eq_self_iff {es : List (String × List String)} :
    given es = es ↔ ∀ e ∈ es, e.2 ≠ [] := by
  unfold given
  rw [List.filter_eq_self]
  exact forall₂_congr fun _ _ => decide_eq_true_iff

end Params

namespace Query

open Params (given)

theorem parse_print_eq_self_iff {m : Params} :
    parse (print m) = m ↔ ∀ e ∈ m.entries, e.2 ≠ [] := by
  rw [← Params.given_eq_self_iff, ← entries_parse_print]
  exact ⟨congrArg Ordered.entries, Ordered.ext⟩

/-- What was read of a query string is written and read again unchanged. -/
theorem parse_print_parse (query : String) : parse (print (parse query)) = parse query :=
  parse_print_eq_self_iff.mpr fun _ he => Params.ne_nil_of_mem_ofPairs he

theorem print_parse_print (m : Params) : print (parse (print m)) = print m := by
  have hpairs : (parse (print m)).pairs = m.pairs := by
    unfold Params.pairs
    rw [entries_parse_print, Params.flatMap_given]
  rw [print, hpairs]
  rfl

/-- A query string tells parameters apart as far as they have values. -/
theorem print_eq_print_iff {m m' : Params} :
    print m = print m' ↔ given m.entries = given m'.entries := by
  constructor
  · intro h
    rw [← entries_parse_print, h, entries_parse_print]
  · intro h
    rw [← entries_parse_print, ← entries_parse_print] at h
    rw [← print_parse_print m, Ordered.ext h, print_parse_print m']

/-! ## Top theorem -/

/-- **Parameters go into a query string and come back**, all values of every name in their order;
only names without values are lost.  What has been read of any query string comes back entirely,
and so do parameters from the URL of a call, where the base URL has no query of its own. -/
theorem parse_print_roundTrip :
    (∀ m : Params, (parse (print m)).entries = m.entries.filter fun e => e.2 ≠ []) ∧
    (∀ query : String, parse (print (parse query)) = parse query) ∧
    ∀ (c : Backend.Client) (handler : String) (m : Params), c.base.query.getD "" = "" →
      ∃ text, (c.url handler m).query = some text ∧
        (parse text).entries = m.entries.filter fun e => e.2 ≠ [] :=
  ⟨entries_parse_print, parse_print_parse, fun _ handler m hc =>
    ⟨print m, Gateway.query_url hc handler m, entries_parse_print m⟩⟩

/-- An escape that is none, octets that are no text, an empty pair and a name that comes again. -/
example : (parse (print (parse "%zz=%ff&&=&b=1&%zz=+"))).entries =
    [("%zz", ["�", " "]), ("", [""]), ("b", ["1"])] := by
  decide +kernel

end Query

end SearchGateway
