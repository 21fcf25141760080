import SearchGateway.Proofs.Access.Granting
import SearchGateway.Proofs.Gateway.Reloads
import SearchGateway.Proofs.Gateway.Searching

/-!
# A failed look-up never means that there is no restriction

Where access filters come from a service, a search reaches the backend only after that service
has told the caller's filter.  It goes there without any clause of a filter only if what was told
is a string of blanks: not if it was told nothing, nor if the look-up failed, and there is no
configuration with the service enabled under which nobody is asked.

    outcomeOfLookup           what comes back from the service, over a network
    fetch_service_eq          that is all that is read of it
    configure_of_enabled      an enabled service is asked, or there is no gateway
    search_told               a search that reaches the backend
-/

namespace SearchGateway.Gateway

open Access (Caller Filter Supplier Tells tag)

variable {S : Type} {net : (q : Http.Request) → S → Http.Outcome × S}

/-! ## Algorithm -/

/-- What comes back when the service is told who calls, after all redirections. -/
def outcomeOfLookup (net : (q : Http.Request) → S → Http.Outcome × S) (url : Url)
    (caller : Caller) (s : S) : Http.Outcome :=
  ((Http.send ⟨.post, url, some caller.toJson.print⟩).run net s).1

/-- The services that a runtime calls, over a network. -/
def overNetwork (net : (q : Http.Request) → S → Http.Outcome × S) (r : Runtime) :
    (q : Call) → S → q.Answer × S :=
  fun q => (Call.make r q).run net

/-! ## Lemmas -/

theorem fetch_service_eq (url : Url) (caller : Caller) (s : S) :
    (((Supplier.service url).fetch caller).run net s).1 =
      Access.readReply (outcomeOfLookup net url caller s) := by
  unfold Supplier.fetch
  rw [Dialogue.run_bind]
  rfl

/-- An enabled service is the supplier, if it has an address that can be read; and else there is
no supplier at all. -/
theorem configure_of_enabled {e : Config.Entitlement} (h : e.enabled = true) :
    (∃ text url, e.url = some text ∧ Url.parse text = .ok url ∧
      Supplier.configure e.enabled e.url = .ok (.service url)) ∨
    ∃ u, Supplier.configure e.enabled e.url = .error u := by
  cases hc : Supplier.configure e.enabled e.url with
  | error u => exact .inr ⟨u, rfl⟩
  | ok supplier =>
    have hs := supplier_of_configure hc
    rw [IsSupplierOf, if_pos h] at hs
    obtain ⟨text, url, hu, hp, rfl⟩ := hs
    exact .inl ⟨text, url, hu, hp, rfl⟩

section Told

variable {settings : Config.Settings} {r : Runtime} {handler query : String}
variable {headers : List Header} {s : S}

theorem supplier_of_enabled (h : settings.entitlement.enabled = true)
    (hr : Runtime.build settings = .ok r) : ∃ url, r.supplier = .service url := by
  obtain ⟨-, -, -, -, hc⟩ := of_build hr
  obtain ⟨_, url, -, -, hu⟩ | ⟨u, hu⟩ := configure_of_enabled h
  · rw [hc] at hu
    exact ⟨url, Except.ok.inj hu⟩
  · rw [hc] at hu
    cases hu

/-- What a search gets for a caller's filter is read off what comes back. -/
theorem overNetwork_filter_eq {url : Url} (hurl : r.supplier = .service url) (caller : Caller)
    (s : S) :
    (overNetwork net r (.filter r.supplier caller) s).1 =
      Access.readReply (outcomeOfLookup net url caller s) := by
  rw [hurl]
  exact fetch_service_eq url caller s

/-- **A search that reaches the backend has been told the caller's filter**, in the call before,
and sends the filter that was told. -/
theorem search_told {url : Url} (hurl : r.supplier = .service url)
    (hbackend : ∃ q ∈ (answered (search r handler query headers)).asked (overNetwork net r) s,
      q.isBackend) :
    ∃ m fragment f,
      admission r handler (Query.parse query) = .ok m ∧
      Tells (outcomeOfLookup net url (callerOf r.settings.server headers) s) fragment ∧
      Filter.StandsFor f fragment ∧
      (answered (search r handler query headers)).asked (overNetwork net r) s =
        [.filter r.supplier (callerOf r.settings.server headers),
          .backend r.client handler (restrict f m.params)] := by
  obtain ⟨q, hq, hb⟩ := hbackend
  cases hm : admission r handler (Query.parse query) with
  | error e =>
    rw [calls_of_not_admitted _ s hm] at hq
    cases hq
  | ok m =>
    cases hf : (overNetwork net r (.filter r.supplier (callerOf r.settings.server headers)) s).1 with
    | error u =>
      rw [calls_of_unavailable _ s hm hf, List.mem_singleton] at hq
      rw [hq] at hb
      cases hb
    | ok f =>
      have hread := (overNetwork_filter_eq hurl _ s).symm.trans hf
      obtain ⟨fragment, htells, hstands⟩ := Access.readReply_eq_ok_iff.mp hread
      exact ⟨m, fragment, f, rfl, htells, hstands, calls_of_filter _ s hm hf⟩

end Told

/-! ## Top theorem -/

/-- **A failed look-up never means that there is no restriction.**  Over every network, a look-up
ends with a filter exactly if a fragment is told, with the filter that it stands for, and it is an
error otherwise.  An enabled service is asked or there is no supplier.  So where one is enabled, a
search goes to the backend only after its answer; the clauses of the filter that was told stand
behind the filters that are there anyway, and if nothing stands there, what was told is blank. -/
theorem unrestricted_onlyIfTold (net : (q : Http.Request) → S → Http.Outcome × S) :
    -- a look-up
    (∀ url caller s,
      let outcome := outcomeOfLookup net url caller s
      let fetched := (((Supplier.service url).fetch caller).run net s).1
      (∀ f, fetched = .ok f ↔ ∃ fragment, Tells outcome fragment ∧ f.StandsFor fragment)
      ∧ ((∃ u, fetched = .error u) ↔ ¬ ∃ fragment, Tells outcome fragment))
    -- what a configuration looks filters up in
    ∧ (∀ e : Config.Entitlement, e.enabled = true →
      (∃ text url, e.url = some text ∧ Url.parse text = .ok url ∧
        Supplier.configure e.enabled e.url = .ok (.service url)) ∨
      ∃ u, Supplier.configure e.enabled e.url = .error u)
    -- a search
    ∧ ∀ settings r handler query headers s,
      settings.entitlement.enabled = true → Runtime.build settings = .ok r →
      let caller := callerOf r.settings.server headers
      let calls := (answered (search r handler query headers)).asked (overNetwork net r) s
      (∃ q ∈ calls, q.isBackend) → ∃ url m outgoing fragment, ∃ f : Filter,
        r.supplier = .service url
        ∧ admission r handler (Query.parse query) = .ok m
        ∧ calls = [.filter (.service url) caller, .backend r.client handler outgoing]
        ∧ Tells (outcomeOfLookup net url caller s) fragment ∧ f.StandsFor fragment
        ∧ outgoing.valuesOf filterParam = m.params.valuesOf filterParam ++ f.clauses.map tag
        ∧ (outgoing.valuesOf filterParam = m.params.valuesOf filterParam →
          ∀ c ∈ fragment.toList, Text.isBlank c = true) := by
  refine ⟨fun url caller s => ?_, fun e => configure_of_enabled, ?_⟩
  · intro outcome fetched
    have hread : fetched = Access.readReply outcome := fetch_service_eq url caller s
    rw [hread]
    exact ⟨fun f => Access.readReply_eq_ok_iff, Access.readReply_eq_error_iff⟩
  · intro settings r handler query headers s henabled hr caller calls hbackend
    obtain ⟨url, hurl⟩ := supplier_of_enabled henabled hr
    obtain ⟨m, fragment, f, hm, htells, hstands, hcalls⟩ := search_told hurl hbackend
    have hvalues := valuesOf_restrict f m.params
    refine ⟨url, m, restrict f m.params, fragment, f, hurl, hm, hurl ▸ hcalls, htells, hstands,
      hvalues, fun hunfiltered => ?_⟩
    rw [hvalues, List.append_right_eq_self, List.map_eq_nil_iff] at hunfiltered
    exact hstands.blank_of_unrestricted hunfiltered

/-- A network in which every request is answered with a filter of blanks alone. -/
def blankNet : Http.Request → Unit → Http.Outcome × Unit :=
  fun _ s => (.ok ⟨200, some "application/json", none, "\x7b\"filter\": \"  \"\x7d"⟩, s)

/-- Whether a call goes to the backend without any filter. -/
def Call.isUnfiltered : Call → Bool
  | backend _ _ params => (params.valuesOf filterParam).isEmpty
  | _ => false

/-- Whether a search goes to the backend without any filter, over that network. -/
def goesUnfiltered (settings : Config.Settings) : Bool :=
  match Runtime.build settings with
  | .ok r =>
    ((answered (search r "select" "" [])).asked (overNetwork blankNet r) ()).any Call.isUnfiltered
  | .error _ => false

/-- There the backend is called without any filter, and the service has said that it may be. -/
theorem unrestricted_onlyIfTold_blank : ∃ r url outgoing fragment,
    restricted.entitlement.enabled = true ∧ Runtime.build restricted = .ok r ∧
    (answered (search r "select" "" [])).asked (overNetwork blankNet r) () =
      [.filter (.service url) (callerOf r.settings.server []),
        .backend r.client "select" outgoing] ∧
    outgoing.valuesOf filterParam = [] ∧
    Tells (outcomeOfLookup blankNet url (callerOf r.settings.server []) ()) fragment ∧
    ∀ c ∈ fragment.toList, Text.isBlank c = true := by
  have hgoes : goesUnfiltered restricted = true := by decide +kernel
  unfold goesUnfiltered at hgoes
  cases hr : Runtime.build restricted with
  | error e =>
    rw [hr] at hgoes
    cases hgoes
  | ok r =>
    simp only [hr, List.any_eq_true] at hgoes
    obtain ⟨q, hq, hunfiltered⟩ := hgoes
    have hbackend : q.isBackend = true := by
      cases q with
      | backend => rfl
      | _ => cases hunfiltered
    obtain ⟨-, -, hsearch⟩ := unrestricted_onlyIfTold blankNet
    obtain ⟨url, m, outgoing, fragment, f, -, -, hcalls, htells, -, hvalues, hblank⟩ :=
      hsearch restricted r "select" "" [] () rfl hr ⟨q, hq, hbackend⟩
    have hnone : outgoing.valuesOf filterParam = [] := by
      rw [hcalls] at hq
      obtain rfl | rfl : q = .filter (.service url) _ ∨ q = .backend r.client "select" outgoing := by
        simpa using hq
      · cases hunfiltered
      · exact List.isEmpty_iff.mp hunfiltered
    rw [hnone, eq_comm, List.append_eq_nil_iff] at hvalues
    exact ⟨r, url, outgoing, fragment, rfl, rfl, hcalls, hnone, htells,
      hblank (hnone.trans hvalues.1.symm)⟩

end SearchGateway.Gateway
