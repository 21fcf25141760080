import SearchGateway.Proofs.Access.Phrase
import SearchGateway.Proofs.Backend.Responses

/-!
# What a probe asks, and what it counts

A probe asks how many documents of a title a filter lets through: its query is one phrase with the
title, its filters are the clauses of the filter, and no documents are sent.  What it counts is
the number that the answer tells of the documents found.

    Asks field f title params    parameters that ask this
    asks_probeParams             a probe asks this
    Asks.title_eq                and it asks this of no other title
    Asks.read_query              whoever reads the query finds the title
    countOf_eq_ok_iff            what is counted
    counts_of_countOf            and where it stands in the answer
-/

namespace SearchGateway.Access

open Backend (Counts Fault Raw SearchResponse)
open Backend.Client (askJson)

/-! ## Algorithm -/

/-- Parameters that ask how many documents of a title a filter lets through. -/
structure Asks (field : String) (f : Filter) (title : String) (params : Params) : Prop where
  /-- The query is the field, a colon and one phrase, which tells the title and ends the query. -/
  query : ∃ rest, params.valuesOf "q" = [String.ofList (field.toList ++ ':' :: '"' :: rest)] ∧
    readPhrase rest = some (title.toList, [])
  /-- There is a filter for each clause, and no other. -/
  filters : params.valuesOf "fq" = f.clauses.map tag
  /-- Documents are counted only. -/
  rows : params.valuesOf "rows" = ["0"]
  facet : params.valuesOf "facet" = ["false"]
  highlighting : params.valuesOf "hl" = ["false"]
  json : params.valuesOf "wt" = ["json"]
  /-- Nothing else is asked. -/
  only : ∀ k ∈ params.keys, k ∈ ["q", "fq", "rows", "facet", "hl", "wt"]

/-! ## Lemmas -/

section

variable {field title : String} {f : Filter}

/-- **A probe asks how many documents of its title its filter lets through.** -/
theorem asks_probeParams (field : String) (f : Filter) (title : String) :
    Asks field f title (askJson (probeParams field f title)) := by
  have hquery : ∃ rest, [titleQuery field title] =
      [String.ofList (field.toList ++ ':' :: '"' :: rest)] ∧
        readPhrase rest = some (title.toList, []) :=
    ⟨escapePhrase title.toList ++ ['"'], rfl, readPhrase_escapePhrase title.toList []⟩
  -- without any clause there is no parameter for filters
  obtain ⟨_ | ⟨clause, clauses⟩⟩ := f
  · refine ⟨hquery, rfl, rfl, rfl, rfl, rfl, ?_⟩
    show ∀ k ∈ ["q", "rows", "facet", "hl", "wt"], _
    decide
  · refine ⟨hquery, rfl, rfl, rfl, rfl, rfl, ?_⟩
    show ∀ k ∈ ["q", "rows", "fq", "facet", "hl", "wt"], _
    decide

/-- The query tells which title is asked for. -/
theorem Asks.title_eq {title' : String} {f' : Filter} {params : Params}
    (h : Asks field f title params) (h' : Asks field f' title' params) : title = title' := by
  obtain ⟨rest, hq, hread⟩ := h.query
  obtain ⟨rest', hq', hread'⟩ := h'.query
  rw [hq, List.cons.injEq, String.ofList_inj] at hq'
  have hrest : rest = rest' := by simpa using hq'
  subst hrest
  rw [hread] at hread'
  exact String.toList_inj.mp (congrArg Prod.fst (Option.some.inj hread'))

/-- Whoever reads the query as a phrase finds the title in it. -/
theorem Asks.read_query {params : Params} (h : Asks field f title params)
    (hfield : '"' ∉ field.toList) : ∃ q, params.valuesOf "q" = [q] ∧
      Phrased.read q.toList = some ⟨field.toList ++ [':'], title.toList, []⟩ := by
  obtain ⟨rest, hq, hread⟩ := h.query
  refine ⟨_, hq, ?_⟩
  have hcolon : '"' ∉ field.toList ++ [':'] := by simpa using hfield
  have hquery : field.toList ++ ':' :: '"' :: rest = (field.toList ++ [':']) ++ '"' :: rest := by
    rw [List.append_assoc, List.singleton_append]
  rw [String.toList_ofList, hquery, read_quoted hcolon, hread]
  rfl

end

/-- **A number is counted if the answer is decoded, and it is that of the documents found.** -/
theorem countOf_eq_ok_iff {a : Except Fault Raw} {n : Nat} : countOf a = .ok n ↔
    ∃ raw r, a = .ok raw ∧ SearchResponse.read raw.body = some r ∧ r.response.found = n := by
  cases a with
  | error e =>
    constructor
    · intro h
      cases h
    · rintro ⟨_, _, h, -⟩
      cases h
  | ok raw =>
    unfold countOf SearchResponse.ofRaw Backend.Client.decoded
    cases hread : SearchResponse.read raw.body with
    | none => simp [hread, Except.map]
    | some r => simp [hread, Except.map]

/-- What cannot be decoded counts nothing. -/
theorem countOf_of_read_eq_none {raw : Raw} (h : SearchResponse.read raw.body = none) :
    countOf (.ok raw) = .error (.decode "unexpected response") := by
  simp only [countOf, SearchResponse.ofRaw, Backend.Client.decoded, h]
  rfl

/-- What is counted stands in the answer. -/
theorem counts_of_countOf {a : Except Fault Raw} {n : Nat} (h : countOf a = .ok n) :
    ∃ raw, a = .ok raw ∧ Counts raw.body n := by
  obtain ⟨raw, r, rfl, hread, rfl⟩ := countOf_eq_ok_iff.mp h
  exact ⟨raw, rfl, Backend.counts_of_read hread⟩

end SearchGateway.Access
