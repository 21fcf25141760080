import SearchGateway.Proofs.Gateway.Searching
import SearchGateway.Proofs.Params.Query

/-!
# What the backend reads

The parameters of a search travel as a query, and the backend reads from it what the gateway
has merged: for each name the caller's values or else the handler's own, the forced ones behind
them or in their place, and under `fq` the clauses of the access filter behind all of that.

    merged r h params k        the values of a name, told from the three sides
    names h params             the order of the names
    forwarded r h params f     both, with the clauses of the filter
    search_forwards            that is what the backend reads
-/

namespace SearchGateway.Gateway

open Access (Filter tag)
open Entries (keys find?)
open Params (given)

/-! ## Algorithm -/

section

variable (r : Runtime) (h : Config.Handler) (params : Params)

/-- The values that a name starts with: the caller's, or else the handler's. -/
def started (k : String) : List String :=
  match params.find? k with
  | some vs => vs
  | none => (Config.Setting.params h.defaults).valuesOf k

/-- The values of a name under the forced ones. -/
def merged (k : String) : List String :=
  match (Config.Setting.params h.forced).find? k with
  | none => started h params k
  | some vs => if k ∈ r.settings.cumulative then started h params k ++ vs else vs

/-- The names that a search starts with: the handler's, then those that only the caller gives. -/
def startedNames : List String :=
  let own := (Config.Setting.params h.defaults).keys
  own ++ params.keys.filter (· ∉ own)

/-- After those come the names that are only forced. -/
def names : List String :=
  startedNames h params ++
    (Config.Setting.params h.forced).keys.filter (· ∉ startedNames h params)

/-- What goes to the backend under a filter. -/
def forwarded (f : Filter) : List (String × List String) :=
  let all := if filterParam ∈ names h params then names h params else names h params ++ [filterParam]
  all.map fun k => (k, merged r h params k ++ if k = filterParam then f.clauses.map tag else [])

end

/-! ## Lemmas -/

/-! ### Merging told name by name -/

/-- Writing values name by name is the overlay of what nothing adds up. -/
theorem foldl_amend_eq_overlay (defaults params : Params) :
    params.entries.foldl (fun es e => Entries.amend e.1 (fun _ => e.2) es) defaults.entries =
      Merger.overlay [] params.entries defaults.entries := by
  have hforce : ∀ (m : Params) (e : String × List String),
      Merger.force [] m e.1 e.2 = m.insert e.1 e.2 := fun m e => if_neg List.not_mem_nil
  rw [← Merger.entries_merged, ← entries_foldl_insert]
  unfold Merger.merged
  simp only [hforce]

theorem valuesUnder_of_notMem {c : List String} {forced working : List (String × List String)}
    {k : String} (hw : k ∉ keys working) (hf : k ∉ keys forced) :
    Merger.valuesUnder c forced working k = [] := by
  unfold Merger.valuesUnder
  rw [Entries.find?_eq_none_iff.mpr hf, Entries.find?_eq_none_iff.mpr hw]
  rfl

/-- The values of a name in an overlay, none if it is missing. -/
theorem getD_find?_overlay (c : List String) (forced working : List (String × List String))
    (k : String) :
    (find? k (Merger.overlay c forced working)).getD [] = Merger.valuesUnder c forced working k := by
  unfold Merger.overlay
  by_cases hk : k ∈ keys working ++ (keys forced).filter (· ∉ keys working)
  · rw [Entries.find?_tabulate hk]
    rfl
  · have hnone : find? k ((keys working ++ (keys forced).filter (· ∉ keys working)).map fun k =>
        (k, Merger.valuesUnder c forced working k)) = none := by
      rw [Entries.find?_eq_none_iff, Entries.keys_tabulate]
      exact hk
    rw [List.mem_append, not_or, List.mem_filter] at hk
    rw [hnone, valuesUnder_of_notMem hk.1 fun hf => hk.2 ⟨hf, by simpa using hk.1⟩]
    rfl

section

variable {r : Runtime} {h : Config.Handler} {params : Params}

/-- What a merger gives, told name by name. -/
theorem outgoingPairs_eq_map :
    outgoingPairs r h params = (names h params).map fun k => (k, merged r h params k) := by
  unfold outgoingPairs
  rw [foldl_amend_eq_overlay]
  generalize hes : Merger.overlay [] params.entries (Config.Setting.params h.defaults).entries = es
  have hkeys : keys es = startedNames h params := by
    rw [← hes, Merger.overlay, Entries.keys_tabulate]
    rfl
  have hvalues : ∀ k, (find? k es).getD [] = started h params k := by
    intro k
    rw [← hes, getD_find?_overlay]
    unfold Merger.valuesUnder started Ordered.find?
    cases find? k params.entries with
    | none => rfl
    | some vs => exact if_neg List.not_mem_nil
  unfold Merger.overlay
  rw [hkeys]
  refine List.map_congr_left fun k _ => congrArg (Prod.mk k) ?_
  unfold Merger.valuesUnder merged
  rw [hvalues]
  rfl

/-- Every side's names are among them. -/
theorem mem_names {k : String} : k ∈ names h params ↔
    k ∈ (Config.Setting.params h.defaults).keys ∨ k ∈ params.keys ∨
      k ∈ (Config.Setting.params h.forced).keys := by
  have hadd : ∀ a b : List String, k ∈ a ++ b.filter (· ∉ a) ↔ k ∈ a ∨ k ∈ b := by
    intro a b
    by_cases ha : k ∈ a <;> simp [ha]
  unfold names startedNames
  rw [hadd, hadd, or_assoc]

/-- A name that no side gives has no values. -/
theorem merged_of_notMem {k : String} (hk : k ∉ names h params) : merged r h params k = [] := by
  rw [mem_names, not_or, not_or] at hk
  obtain ⟨hown, hcaller, hforced⟩ := hk
  have hown' : (Config.Setting.params h.defaults).find? k = none :=
    Entries.find?_eq_none_iff.mpr hown
  have hcaller' : params.find? k = none := Entries.find?_eq_none_iff.mpr hcaller
  have hforced' : (Config.Setting.params h.forced).find? k = none :=
    Entries.find?_eq_none_iff.mpr hforced
  unfold merged started Params.valuesOf
  rw [hforced', hcaller', hown']
  rfl

end

/-! ### The filter behind the merged values -/

/-- Adding no values leaves what has values as it is. -/
theorem given_addAll_nil (m : Params) (k : String) :
    given (m.addAll k []).entries = given m.entries := by
  rw [Params.addAll, Ordered.entries_alter, Entries.amend]
  split
  · have hsame : (m.entries.map fun e => if e.1 = k then (k, (some e.2).getD [] ++ []) else e) =
        m.entries := by
      conv => rhs; rw [← List.map_id m.entries]
      refine List.map_congr_left fun e _ => ?_
      by_cases he : e.1 = k
      · rw [if_pos he, ← he, Option.getD_some, List.append_nil]
        rfl
      · rw [if_neg he]
        rfl
    rw [hsame]
  · simp [given]

theorem given_restrict (f : Filter) (m : Params) :
    given (restrict f m).entries = given (m.addAll filterParam (f.clauses.map tag)).entries := by
  unfold restrict
  split
  · next hf =>
    have hc : f.clauses = [] := List.isEmpty_iff.mp hf
    rw [hc, List.map_nil, given_addAll_nil]
  · rfl

section

variable {r : Runtime} {h : Config.Handler} {params : Params}

theorem entries_addAll_filter {m : Params} (hm : m.entries = outgoingPairs r h params) (f : Filter) :
    (m.addAll filterParam (f.clauses.map tag)).entries = forwarded r h params f := by
  rw [Params.addAll, Ordered.entries_alter, hm, outgoingPairs_eq_map, Entries.amend,
    Entries.keys_tabulate]
  unfold forwarded
  by_cases hk : filterParam ∈ names h params
  · rw [if_pos hk, if_pos hk, List.map_map]
    refine List.map_congr_left fun k _ => ?_
    by_cases he : k = filterParam
    · subst he
      simp
    · simp [he]
  · rw [if_neg hk, if_neg hk, List.map_append, List.map_singleton, if_pos rfl,
      merged_of_notMem hk]
    refine congrArg (· ++ _) (List.map_congr_left fun k hmem => ?_)
    have he : k ≠ filterParam := fun h => hk (h ▸ hmem)
    rw [if_neg he, List.append_nil]

theorem find?_forwarded {k : String} (hk : k ∈ names h params) (f : Filter) :
    find? k (forwarded r h params f) =
      some (merged r h params k ++ if k = filterParam then f.clauses.map tag else []) := by
  apply Entries.find?_tabulate
  split
  · exact hk
  · exact List.mem_append_left _ hk

/-- What the caller gives under a name that nothing forces. -/
theorem merged_of_unforced {k : String} {vs : List String}
    (hk : k ∉ (Config.Setting.params h.forced).keys) (hvs : params.find? k = some vs) :
    merged r h params k = vs := by
  have hnone : (Config.Setting.params h.forced).find? k = none := Entries.find?_eq_none_iff.mpr hk
  unfold merged started
  rw [hnone, hvs]

/-! ### The query of the call -/

/-- The query of a call holds the parameters and nothing else. -/
theorem query_url {c : Backend.Client} (hc : c.base.query.getD "" = "") (handler : String)
    (params : Params) : (c.url handler params).query = some (Query.print params) := by
  have hpush : (c.base.push handler).query = c.base.query := by
    unfold Url.push
    split <;> rfl
  unfold Backend.Client.url Url.addQuery
  simp only [hpush, hc, ne_eq, not_true_eq_false, false_and, if_false]
  rw [String.append_empty, String.empty_append]
  rfl

/-- The first request of a call, if the URL can be called at all. -/
theorem head?_asked_execute (c : Backend.Client) (handler : String) (params : Params) {T : Type}
    (net : Http.Request → T → Http.Outcome × T) (t : T) :
    ((c.execute handler params).asked net t).head? =
      if Http.canSend (c.url handler params) then some ⟨.get, c.url handler params, none⟩
      else none := by
  unfold Backend.Client.execute Http.send Http.maxRedirections Http.follow Http.attempt
  cases Http.canSend (c.url handler params) with
  | true => rfl
  | false => rfl

end

/-! ## Top theorem -/

/-- **The backend reads what was merged of an admitted request**: every name with the values
that the three sides give it, the clauses of the filter behind those of `fq`, in the order of
`names`.  A value that was weighed and is not forced comes through unchanged. -/
theorem search_forwards {r : Runtime} {handler query : String} {headers : List Header}
    {h : Config.Handler} {f : Filter} {S : Type} (world : (q : Call) → S → q.Answer × S) (s : S)
    (hbase : r.client.base.query.getD "" = "")
    (ha : (r.profile.decide handler (Query.parse query) none).allowed = true)
    (hh : r.settings.handler? handler = some h)
    (hf : (world (.filter r.supplier (callerOf r.settings.server headers)) s).1 = .ok f) :
    let params := Query.parse query
    ∃ outgoing url text,
      -- the one request to the backend
      (answered (search r handler query headers)).asked world s =
        [.filter r.supplier (callerOf r.settings.server headers),
          .backend r.client handler outgoing] ∧
      (∀ {T : Type} (net : Http.Request → T → Http.Outcome × T) (t : T),
        ((r.client.execute handler outgoing).asked net t).head? =
          if Http.canSend url then some ⟨.get, url, none⟩ else none) ∧
      url.query = some text ∧
      -- what is read from it
      (Query.parse text).entries = given (forwarded r h params f) ∧
      (∀ k vs, params.find? k = some vs → k ∉ (Config.Setting.params h.forced).keys →
        (Query.parse text).find? k =
          some (vs ++ if k = filterParam then f.clauses.map tag else [])) := by
  intro params
  obtain ⟨m, hm, hpairs⟩ := admission_eq_ok ha hh
  have hentries : (Query.parse (Query.print (restrict f m.params))).entries =
      given (forwarded r h params f) := by
    rw [Query.entries_parse_print, given_restrict, entries_addAll_filter hpairs]
  refine ⟨restrict f m.params, r.client.url handler (restrict f m.params), _,
    calls_of_filter world s hm hf, head?_asked_execute r.client handler (restrict f m.params),
    query_url hbase handler _, hentries, ?_⟩
  intro k vs hvs hforced
  have hmem : (k, vs) ∈ params.entries := Entries.mem_of_find? hvs
  have hne : vs ≠ [] := Params.ne_nil_of_mem_ofPairs hmem
  have hname : k ∈ names h params := mem_names.mpr (.inr (.inl (List.mem_map_of_mem hmem)))
  have hdistinct : (keys (forwarded r h params f)).Nodup := by
    rw [← entries_addAll_filter hpairs]
    exact (m.params.addAll filterParam (f.clauses.map tag)).distinct
  rw [Ordered.find?, hentries, Params.find?_given hdistinct, find?_forwarded hname,
    merged_of_unforced hforced hvs]
  have hvalues : ∀ ws : List String, (some (vs ++ ws)).filter (· ≠ []) = some (vs ++ ws) := by
    intro ws
    simp [hne]
  exact hvalues _

/-! ## A search with all three sides -/

/-- A gateway with one handler, before a backend without a query of its own; a service tells what
a caller may see. -/
def sampleRuntime : Runtime where
  settings := { Config.Settings.default with
    handlers := Ordered.ofList [("select", {
      defaults := Ordered.ofList [("rows", .one (.integer 10)), ("fq", .one (.text "lang:en")),
        ("sort", .many [])]
      forced := Ordered.ofList [("wt", .one (.text "json")), ("fq", .one (.text "open:1"))] })] }
  profile := { Policy.Profile.empty with
    unlistedParams := ⟨true, 0.0⟩
    components := Roster.ofList [Policy.Component.bare "select"] }
  client := ⟨⟨"http", some ⟨"", none, some (.domain "solr"), none⟩, .segments ["solr"], none, none⟩,
    rfl⟩
  supplier := .service ⟨"http", some ⟨"", none, some (.domain "rights"), none⟩,
    .segments ["filter"], none, none⟩

/-- A world in which the caller may see one project only and the backend cannot be reached. -/
def sampleWorld : (q : Call) → Unit → q.Answer × Unit
  | .runtime, s => (sampleRuntime, s)
  | .filter .., s => (.ok ⟨["project:7"]⟩, s)
  | .backend .., s => (.error (.connect ""), s)

/-- The caller's own filter and text beside what is configured. -/
theorem search_forwards_sample : ∃ outgoing url text,
    (answered (search sampleRuntime "select" "q=caf%C3%A9+%26+bar&fq=a%3D1" [])).asked
        sampleWorld () =
      [.filter sampleRuntime.supplier (callerOf sampleRuntime.settings.server []),
        .backend sampleRuntime.client "select" outgoing] ∧
    (∀ {T : Type} (net : Http.Request → T → Http.Outcome × T) (t : T),
      ((sampleRuntime.client.execute "select" outgoing).asked net t).head? =
        if Http.canSend url then some ⟨.get, url, none⟩ else none) ∧
    url.query = some text ∧
    (Query.parse text).entries = [("rows", ["10"]), ("fq", ["a=1", "open:1", tag "project:7"]),
      ("q", ["café & bar"]), ("wt", ["json"])] := by
  have hh : sampleRuntime.settings.handler? "select" = some {
      defaults := Ordered.ofList [("rows", .one (.integer 10)), ("fq", .one (.text "lang:en")),
        ("sort", .many [])]
      forced := Ordered.ofList [("wt", .one (.text "json")), ("fq", .one (.text "open:1"))] } := rfl
  have ha : (sampleRuntime.profile.decide "select"
      (Query.parse "q=caf%C3%A9+%26+bar&fq=a%3D1") none).allowed = true := by decide +kernel
  have hf : (sampleWorld (.filter sampleRuntime.supplier
      (callerOf sampleRuntime.settings.server [])) ()).1 = .ok ⟨["project:7"]⟩ := rfl
  obtain ⟨outgoing, url, text, hcalls, hsent, hquery, hread, -⟩ :=
    search_forwards sampleWorld () rfl ha hh hf
  refine ⟨outgoing, url, text, hcalls, hsent, hquery, hread.trans ?_⟩
  decide +kernel

end SearchGateway.Gateway
