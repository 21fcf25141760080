import SearchGateway.Gateway.Routing
import SearchGateway.Proofs.Gateway.Admission
import SearchGateway.Proofs.Scripts

/-!
# Searching under the access filter

A search makes at most two calls: it asks for the caller's filter, and then it calls the
backend once.  It makes none at all for a request that is not admitted or whose handler is not
configured, and only the first where there is no filter to be had.  In the parameters of the
second the clauses of that filter stand behind whatever the merger has put under `fq`.

    (search r handler query headers).run        after admission        (search_eq_ask)
    Searched                                    how it can go          (ends_search)
    every call of a search, in every world                             (search_calls)

What the world answers is arbitrary and may depend on what it remembers.
-/

namespace SearchGateway.Gateway

open Access (Filter tag)
open Dialogue (Script Ends ends_ask_iff ends_done_iff)

/-! ## Algorithm -/

/-- Whether a call goes to the backend. -/
def Call.isBackend : Call → Bool
  | backend .. => true
  | _ => false

/-- What a search makes of the backend's answer. -/
def concluded (f : Filter) (outgoing : Params) (a : Except Backend.Fault Backend.Raw) :
    Except ApiError Response :=
  match a with
  | .error e => .error (.backend e)
  | .ok raw =>
    (cleaned f outgoing raw).map fun body =>
      ⟨200, some (raw.contentType.getD
        (formatType (.detect raw.contentType (outgoing.first? "wt")))), none, body⟩

/-- The answer that a result makes. -/
def shown : Except ApiError Response → Response
  | .ok a => a
  | .error e => e.response

/-- A search is refused before any call; or there is no filter for it; or the backend is called
under the filter. -/
inductive Searched (r : Runtime) (handler query : String) (headers : List Header) :
    Script Call Call.Answer → Response → Prop
  | refused (e : ApiError) (h : admission r handler (Query.parse query) = .error e) :
    Searched r handler query headers [] e.response
  | unfetched (u : Access.Unavailable) : Searched r handler query headers
      [⟨.filter r.supplier (callerOf r.settings.server headers), .error u⟩]
      (ApiError.entitlement u).response
  | called (f : Filter) (outgoing : Params) (a : Except Backend.Fault Backend.Raw) :
    Searched r handler query headers
      [⟨.filter r.supplier (callerOf r.settings.server headers), .ok f⟩,
        ⟨.backend r.client handler outgoing, a⟩]
      (shown (concluded f outgoing a))

/-! ## Lemmas -/

/-! ### The parameters of the backend's call -/

theorem filter_alter (k : String) (f : Option (List String) → List String)
    (es : List (String × List String)) :
    (Entries.alter k f es).filter (fun e => e.1 ≠ k) = es.filter fun e => e.1 ≠ k := by
  induction es with
  | nil => simp [Entries.alter]
  | cons e r ih =>
    obtain ⟨j, vs⟩ := e
    by_cases hj : j = k
    · simp [Entries.alter, hj]
    · rw [Entries.alter, if_neg hj, List.filter_cons_of_pos (by simp [hj]),
        List.filter_cons_of_pos (by simp [hj]), ih]

/-- The clauses of the filter stand behind the values that were there. -/
theorem valuesOf_restrict (f : Filter) (params : Params) :
    (restrict f params).valuesOf filterParam =
      params.valuesOf filterParam ++ f.clauses.map tag := by
  unfold restrict
  split
  · next h =>
    have hc : f.clauses = [] := List.isEmpty_iff.mp h
    rw [hc, List.map_nil, List.append_nil]
  · rw [Params.valuesOf, Params.addAll, Ordered.find?_alter, if_pos rfl]
    rfl

/-- The filter leaves every other parameter as it is and where it is. -/
theorem erase_restrict (f : Filter) (params : Params) :
    (restrict f params).erase filterParam = params.erase filterParam := by
  unfold restrict
  split
  · rfl
  · apply Ordered.ext
    exact filter_alter filterParam _ params.entries

/-! ### The calls of a search -/

theorem search_eq_done {r : Runtime} {handler query : String} {headers : List Header}
    {e : ApiError} (h : admission r handler (Query.parse query) = .error e) :
    (search r handler query headers).run = .done (.error e) := by
  unfold search
  rw [h]
  rfl

/-- A search after admission: the filter first, then the backend. -/
theorem search_eq_ask {r : Runtime} {handler query : String} {headers : List Header}
    {m : Merger} (h : admission r handler (Query.parse query) = .ok m) :
    (search r handler query headers).run =
      .ask (.filter r.supplier (callerOf r.settings.server headers))
        fun (a : Except Access.Unavailable Filter) =>
          match a with
          | .error u => .done (.error (.entitlement u))
          | .ok f => .ask (.backend r.client handler (restrict f m.params))
              fun (b : Except Backend.Fault Backend.Raw) =>
                .done (concluded f (restrict f m.params) b) := by
  unfold search
  rw [h]
  show Dialogue.ask _ _ = _
  congr 1
  funext a
  cases a with
  | error u => rfl
  | ok f =>
    show Dialogue.ask _ _ = _
    congr 1
    funext b
    cases b with
    | error e => rfl
    | ok raw =>
      show ExceptT.bindCont _ (cleaned f (restrict f m.params) raw) = _
      simp only [concluded]
      cases cleaned f (restrict f m.params) raw <;> rfl

/-- An answer is made of a result without any further call. -/
theorem asked_answered {S : Type} (world : (q : Call) → S → q.Answer × S)
    (h : Handling Response) (s : S) : (answered h).asked world s = h.run.asked world s := by
  unfold answered
  rw [Dialogue.asked_bind]
  cases (h.run.run world s).1 <;> simp [Dialogue.asked]

section Calls

variable {S : Type} (world : (q : Call) → S → q.Answer × S) (s : S)
variable {r : Runtime} {handler query : String} {headers : List Header}

/-- Without admission nothing is called. -/
theorem calls_of_not_admitted {e : ApiError}
    (h : admission r handler (Query.parse query) = .error e) :
    (answered (search r handler query headers)).asked world s = [] := by
  rw [asked_answered, search_eq_done h]
  rfl

/-- Without a filter nothing is called but the entitlement service. -/
theorem calls_of_unavailable {m : Merger} {u : Access.Unavailable}
    (h : admission r handler (Query.parse query) = .ok m)
    (hf : (world (.filter r.supplier (callerOf r.settings.server headers)) s).1 = .error u) :
    (answered (search r handler query headers)).asked world s =
      [.filter r.supplier (callerOf r.settings.server headers)] := by
  rw [asked_answered, search_eq_ask h]
  simp only [Dialogue.asked]
  rw [hf]
  rfl

theorem status_of_unavailable {m : Merger} {u : Access.Unavailable}
    (h : admission r handler (Query.parse query) = .ok m)
    (hf : (world (.filter r.supplier (callerOf r.settings.server headers)) s).1 = .error u) :
    ((answered (search r handler query headers)).run world s).1.status = 503 := by
  unfold answered
  rw [search_eq_ask h, Dialogue.run_bind]
  simp only [Dialogue.run]
  rw [hf]
  rfl

/-- With a filter the backend is called once, under that filter. -/
theorem calls_of_filter {m : Merger} {f : Filter}
    (h : admission r handler (Query.parse query) = .ok m)
    (hf : (world (.filter r.supplier (callerOf r.settings.server headers)) s).1 = .ok f) :
    (answered (search r handler query headers)).asked world s =
      [.filter r.supplier (callerOf r.settings.server headers),
        .backend r.client handler (restrict f m.params)] := by
  rw [asked_answered, search_eq_ask h]
  simp only [Dialogue.asked]
  rw [hf]
  rfl

end Calls

/-! ### How a search can go -/

section

variable {r : Runtime} {handler query : String} {headers : List Header}
variable {t : Script Call Call.Answer} {response : Response}

/-- **A search goes in one of these ways.** -/
theorem ends_search (h : Ends (answered (search r handler query headers)) t response) :
    Searched r handler query headers t response := by
  unfold answered at h
  cases hm : admission r handler (Query.parse query) with
  | error e =>
    rw [search_eq_done hm] at h
    obtain ⟨rfl, rfl⟩ := ends_done_iff.mp h
    exact .refused e hm
  | ok m =>
    rw [search_eq_ask hm] at h
    obtain ⟨a, rest, rfl, hrest⟩ := ends_ask_iff.mp h
    cases a with
    | error u =>
      obtain ⟨rfl, rfl⟩ := ends_done_iff.mp hrest
      exact .unfetched u
    | ok f =>
      obtain ⟨b, last, rfl, hlast⟩ := ends_ask_iff.mp hrest
      have hshown : last = [] ∧ shown (concluded f (restrict f m.params) b) = response := by
        dsimp only [Dialogue.bind] at hlast
        cases hb : concluded f (restrict f m.params) b with
        | ok x =>
          rw [hb] at hlast
          exact ends_done_iff.mp hlast
        | error e =>
          rw [hb] at hlast
          exact ends_done_iff.mp hlast
      obtain ⟨rfl, rfl⟩ := hshown
      exact .called f (restrict f m.params) b

end

/-! ## Top theorem -/

/-- **A search reaches the backend only under the caller's access filter**, in every world.
It makes its one call there exactly if the request is admitted, its handler is configured and
the filter is fetched.  The clauses of the filter then stand behind the values that the merger
has put under `fq`, whatever those are, and everything else is as the merger has put it. -/
theorem search_calls (r : Runtime) (handler query : String) (headers : List Header) {S : Type}
    (world : (q : Call) → S → q.Answer × S) (s : S) :
    let params := Query.parse query
    let lookup := Call.filter r.supplier (callerOf r.settings.server headers)
    let fetched : Except Access.Unavailable Filter := (world lookup s).1
    let admitted := (r.profile.decide handler params none).allowed
    let configured := r.settings.handler? handler
    let calls := (answered (search r handler query headers)).asked world s
    let response := ((answered (search r handler query headers)).run world s).1
    -- whether the backend is called
    ((∃ q ∈ calls, q.isBackend) ↔ admitted ∧ configured.isSome ∧ ∃ f, fetched = .ok f)
    -- how it is called
    ∧ (∀ h f, admitted → configured = some h → fetched = .ok f → ∃ m outgoing,
        admission r handler params = .ok m
        ∧ m.params.entries = outgoingPairs r h params
        ∧ calls = [lookup, .backend r.client handler outgoing]
        ∧ outgoing.valuesOf filterParam = m.params.valuesOf filterParam ++ f.clauses.map tag
        ∧ outgoing.erase filterParam = m.params.erase filterParam)
    -- what happens otherwise
    ∧ (¬ (admitted ∧ configured.isSome) → calls = [])
    ∧ (∀ u, admitted → configured.isSome → fetched = .error u →
        calls = [lookup] ∧ response.status = 503) := by
  intro params lookup fetched admitted configured calls response
  have hnone : ¬ (admitted ∧ configured.isSome) → calls = [] := by
    intro h
    cases ha : admitted with
    | false => exact calls_of_not_admitted world s (admission_of_denied ha)
    | true =>
      cases hc : configured with
      | none => exact calls_of_not_admitted world s (admission_of_unconfigured ha hc)
      | some c => exact absurd ⟨ha, by rw [hc]; rfl⟩ h
  have hone : ∀ h f, admitted → configured = some h → fetched = .ok f → ∃ m outgoing,
      admission r handler params = .ok m
      ∧ m.params.entries = outgoingPairs r h params
      ∧ calls = [lookup, .backend r.client handler outgoing]
      ∧ outgoing.valuesOf filterParam = m.params.valuesOf filterParam ++ f.clauses.map tag
      ∧ outgoing.erase filterParam = m.params.erase filterParam := by
    intro h f ha hc hf
    obtain ⟨m, hm, hp⟩ := admission_eq_ok ha hc
    exact ⟨m, restrict f m.params, hm, hp, calls_of_filter world s hm hf,
      valuesOf_restrict f m.params, erase_restrict f m.params⟩
  have hlost : ∀ u, admitted → configured.isSome → fetched = .error u →
      calls = [lookup] ∧ response.status = 503 := by
    intro u ha hc hf
    obtain ⟨h, hh⟩ := Option.isSome_iff_exists.mp hc
    obtain ⟨m, hm, -⟩ := admission_eq_ok ha hh
    exact ⟨calls_of_unavailable world s hm hf, status_of_unavailable world s hm hf⟩
  refine ⟨⟨?_, ?_⟩, hone, hnone, hlost⟩
  · rintro ⟨q, hq, hb⟩
    by_cases h : admitted ∧ configured.isSome
    · refine ⟨h.1, h.2, ?_⟩
      cases hf : fetched with
      | ok f => exact ⟨f, rfl⟩
      | error u =>
        rw [(hlost u h.1 h.2 hf).1, List.mem_singleton] at hq
        rw [hq] at hb
        cases hb
    · rw [hnone h] at hq
      cases hq
  · rintro ⟨ha, hc, f, hf⟩
    obtain ⟨h, hh⟩ := Option.isSome_iff_exists.mp hc
    obtain ⟨m, outgoing, -, -, hcalls, -, -⟩ := hone h f ha hh hf
    exact ⟨.backend r.client handler outgoing, by simp [hcalls], rfl⟩

end SearchGateway.Gateway
