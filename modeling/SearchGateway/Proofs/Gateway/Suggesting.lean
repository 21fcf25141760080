import SearchGateway.Gateway.Routing
import SearchGateway.Proofs.Gateway.Forwarding
import SearchGateway.Proofs.Gateway.Sessions

/-!
# Suggestions that the caller can find

The backend is called for candidates first.  Then their lists are screened, in one session, and
each list is cut down to the first candidates that the caller can find.  What fails on the way
fails the request, whatever was found until then.

    Suggested          the ways in which a request for suggestions can go
    ends_suggest       it goes in one of them
    Wants              how many suggestions a request wants
    Explained          how verdicts on all candidates explain an answer
    Spoilt a message   an answer to a probe that counts nothing
    Tells              a call's answer goes by one filter and one count for each title
    findable           what can be found of a response, by such a count
    suggest_findable   what is called and what is answered, in every world

What the world answers is arbitrary and may depend on what it remembers.  An answer is told as
JSON text: `Backend.document` is the document of lists behind a header, and `failure` is the
answer that tells of an error.
-/

namespace SearchGateway.Gateway

open Access (Asks Caller Enough Filter Inquiry Verdict firstVisible kept)
open Backend (Fault Raw SearchResponse SuggestResponse SuggestResult Suggestion document)
open Dialogue (Script Ends ends_ask_iff ends_bind_iff ends_done_iff ends_run)
open Json (ReadsBack Value)
open Number (IsNatural maxUInt64)

/-! ## How a request can go -/

/-- The answer to what screening has left. -/
def printed : Except ApiError SuggestResponse → Response
  | .ok kept => .json 200 kept.toJson.print
  | .error e => e.response

/-- A request for suggestions is refused before any call; or the backend gives no candidates;
or those that it gives are screened. -/
inductive Suggested (r : Runtime) (handler query : String) (headers : List Header) :
    Script Call Call.Answer → Response → Prop
  | refused (e : ApiError) : Suggested r handler query headers [] e.response
  | failed (outgoing : Params) (a : Except Fault Backend.Raw) (e : Fault)
    (h : SuggestResponse.ofRaw a = .error e) :
    Suggested r handler query headers [⟨.backend r.client handler outgoing, a⟩]
      (ApiError.backend e).response
  | screened (wanted : Nat) (outgoing : Params) (raw : Backend.Raw) (found : SuggestResponse)
    (u : Script Call Call.Answer) (res : Except ApiError SuggestResponse)
    (hwanted : wantedCount r.settings.suggest (Query.parse query) = .ok wanted)
    (houtgoing : candidateParams r handler (Query.parse query) wanted = .ok outgoing)
    (hfound : SuggestResponse.ofRaw (.ok raw) = .ok found)
    (h : Course r (callerOf r.settings.server headers) wanted found u res) :
    Suggested r handler query headers (⟨.backend r.client handler outgoing, .ok raw⟩ :: u)
      (printed res)

/-- How many suggestions a request wants: as many as its first value says, in decimal digits, or
else as many as is configured. -/
inductive Wants (s : Config.Suggest) (params : Params) : Nat → Prop
  | unsaid (h : params.valuesOf "suggest.count" = []) : Wants s params s.defaultCount
  | said (text : String) (others : List String) (n : Nat)
    (h : params.valuesOf "suggest.count" = text :: others) (hn : IsNatural text.toList n)
    (hmax : n ≤ maxUInt64) : Wants s params n

/-- How verdicts on all candidates explain an answer, and which calls they come from. -/
structure Explained (r : Runtime) (handler query : String) (headers : List Header)
    (t : Script Call Call.Answer) (response : Response) (wanted : Nat) (found : SuggestResponse)
    (verdicts : Ordered (Ordered (List Verdict))) : Prop where
  admitted : (r.profile.decide handler (Query.parse query) none).allowed = true
  wants : Wants r.settings.suggest (Query.parse query) wanted
  /-- There are verdicts on the backend's candidates, list by list, and on no others. -/
  about : verdicts.map (·.map (·.map Verdict.candidate)) =
    found.dictionaries.map (·.map SuggestResult.suggestions)
  enough : ∀ lists ∈ verdicts.values, ∀ vs ∈ lists.values, Enough wanted vs
  /-- Behind the backend's header each list is cut down to the first candidates that were found,
  and counted anew. -/
  response_eq : response = ⟨200, some "application/json", none,
    (document found.header (verdicts.map (·.map (kept wanted)))).print⟩
  /-- That is also what is read from the answer, as far as doubles read back from their print. -/
  read_eq : r.settings.suggest.defaultCount ≤ maxUInt64 →
    (∀ params, found.header.params = some params →
      ∀ x, .number (.float x) ∈ params :: params.parts → ReadsBack x) →
    SuggestResponse.read response.body = some ⟨found.header,
      verdicts.map (·.map fun vs => ⟨(kept wanted vs).length, kept wanted vs⟩)⟩
  script_eq : ∃ outgoing raw rest,
    candidateParams r handler (Query.parse query) wanted = .ok outgoing ∧
    outgoing.valuesOf "wt" = ["json"] ∧ SuggestResponse.read raw.body = some found ∧
    t = ⟨.backend r.client handler outgoing, .ok raw⟩ :: rest ∧
    CallsFor r (callerOf r.settings.server headers)
      (verdicts.values.flatMap fun lists => lists.values.flatten) rest

/-! ## What fails -/

/-- The answer that tells of an error and of nothing else. -/
def failure (status : Nat) (message : String) : Response :=
  ⟨status, some "application/json", none, (Value.object [
    ("responseHeader", .object [("status", .number (.int status))]),
    ("error", .object [("msg", .text message), ("code", .number (.int status))])]).print⟩

/-- An answer to a probe counts nothing, and this is what the caller is told of it. -/
inductive Spoilt : Except Fault Raw → String → Prop
  | refused (code : Nat) (message : String) : Spoilt (.error (.status code message)) message
  | broken (e : Fault) (h : ∀ code message, e ≠ .status code message) :
    Spoilt (.error e) "search backend unavailable"
  | undecodable (raw : Raw) (h : SearchResponse.read raw.body = none) :
    Spoilt (.ok raw) "search backend unavailable"

/-! ## What can be found -/

/-- A call is answered with this filter, or with this number of documents for a title. -/
structure Tells (r : Runtime) (caller : Caller) (f : Filter) (count : String → Nat)
    (e : (q : Call) × q.Answer) : Prop where
  fetched : ∀ a, e = ⟨.filter r.supplier caller, a⟩ → a = .ok f
  counted : ∀ title params a, e = ⟨.backend r.client r.settings.suggest.probeHandler params, a⟩ →
    Asks r.settings.suggest.titleField f title params →
    ∃ raw decoded, a = .ok raw ∧ SearchResponse.read raw.body = some decoded ∧
      decoded.response.found = count title

/-- In this script the backend gives these candidates, and every other call goes by one filter
and one count for each title. -/
structure Faultless (r : Runtime) (handler : String) (caller : Caller) (f : Filter)
    (count : String → Nat) (found : SuggestResponse) (t : Script Call Call.Answer) : Prop where
  first : ∃ outgoing raw, t.head? = some ⟨.backend r.client handler outgoing, .ok raw⟩ ∧
    SuggestResponse.read raw.body = some found
  rest : ∀ e ∈ t.tail, Tells r caller f count e

/-- The lists of what can be found of a response, whatever the backend says about numbers. -/
def findable (count : String → Nat) (found : SuggestResponse) :
    Ordered (Ordered (List Suggestion)) :=
  found.dictionaries.map (·.map fun s => s.suggestions.filter fun c => 0 < count c.term)

/-! ## Lemmas -/

/-! ### Requests -/

section

variable {r : Runtime} {handler query : String} {headers : List Header}

theorem suggest_eq_ask {wanted : Nat} {outgoing : Params}
    (hw : wantedCount r.settings.suggest (Query.parse query) = .ok wanted)
    (ho : candidateParams r handler (Query.parse query) wanted = .ok outgoing) :
    (suggest r handler query headers).run =
      .ask (.backend r.client handler outgoing) fun (a : Except Fault Backend.Raw) =>
        match SuggestResponse.ofRaw a with
        | .error e => .done (.error (.backend e))
        | .ok found =>
          (screenResponse r (callerOf r.settings.server headers) wanted found).run.bind fun res =>
            .done (res.map fun kept => .json 200 kept.toJson.print) := by
  show (settled (wantedCount r.settings.suggest (Query.parse query)) >>= _ :
    Handling Response).run = _
  rw [hw]
  show (settled (candidateParams r handler (Query.parse query) wanted) >>= _ :
    Handling Response).run = _
  rw [ho]
  show Dialogue.ask _ _ = _
  congr 1
  funext a
  cases a with
  | error e => rfl
  | ok raw =>
    show (settled ((SuggestResponse.ofRaw (.ok raw)).mapError .backend) >>= _ :
      Handling Response).run = _
    cases SuggestResponse.ofRaw (.ok raw) with
    | error e => rfl
    | ok found =>
      show Dialogue.bind (screenResponse r (callerOf r.settings.server headers) wanted found).run _
        = Dialogue.bind _ _
      congr 1
      funext res
      cases res <;> rfl

/-- **A request for suggestions goes in one of these ways.** -/
theorem ends_suggest {t : Script Call Call.Answer} {response : Response}
    (h : Ends (answered (suggest r handler query headers)) t response) :
    Suggested r handler query headers t response := by
  unfold answered at h
  cases hw : wantedCount r.settings.suggest (Query.parse query) with
  | error e =>
    have hrun : (suggest r handler query headers).run = .done (.error e) := by
      show (settled (wantedCount r.settings.suggest (Query.parse query)) >>= _ :
        Handling Response).run = _
      rw [hw]
      rfl
    rw [hrun] at h
    obtain ⟨rfl, rfl⟩ := ends_done_iff.mp h
    exact .refused e
  | ok wanted =>
    cases ho : candidateParams r handler (Query.parse query) wanted with
    | error e =>
      have hrun : (suggest r handler query headers).run = .done (.error e) := by
        show (settled (wantedCount r.settings.suggest (Query.parse query)) >>= _ :
          Handling Response).run = _
        rw [hw]
        show (settled (candidateParams r handler (Query.parse query) wanted) >>= _ :
          Handling Response).run = _
        rw [ho]
        rfl
      rw [hrun] at h
      obtain ⟨rfl, rfl⟩ := ends_done_iff.mp h
      exact .refused e
    | ok outgoing =>
      rw [suggest_eq_ask hw ho] at h
      obtain ⟨a, rest, rfl, hrest⟩ := ends_ask_iff.mp h
      cases hfound : SuggestResponse.ofRaw a with
      | error e =>
        simp only [hfound] at hrest
        obtain ⟨rfl, rfl⟩ := ends_done_iff.mp hrest
        exact .failed outgoing a e hfound
      | ok found =>
        cases a with
        | error e => cases hfound
        | ok raw =>
          simp only [hfound] at hrest
          obtain ⟨u, last, res, rfl, hscreen, hlast⟩ := ends_bind_iff.mp hrest
          obtain ⟨first, last', res', rfl, hfirst, hlast'⟩ := ends_bind_iff.mp hscreen
          obtain ⟨rfl, rfl⟩ := ends_done_iff.mp hlast'
          have hcourse := ends_screenResponse hfirst
          have hprinted : last = [] ∧ printed res' = response := by
            cases res' <;> exact ends_done_iff.mp hlast
          obtain ⟨rfl, rfl⟩ := hprinted
          rw [List.append_nil, List.append_nil]
          exact .screened wanted outgoing raw found first res' hw ho hfound hcourse

end

/-! ### What is wanted, and what comes back -/

theorem wantedCount_eq_ok_iff {s : Config.Suggest} {params : Params} {n : Nat} :
    wantedCount s params = .ok n ↔ Wants s params n := by
  unfold wantedCount Params.first?
  constructor
  · intro h
    cases hvalues : params.valuesOf countParam with
    | nil =>
      rw [hvalues] at h
      cases h
      exact .unsaid hvalues
    | cons text others =>
      rw [hvalues] at h
      cases hn : Number.uint64? text.toList with
      | none => simp [hn] at h
      | some m =>
        obtain rfl : m = n := by simpa [hn] using h
        obtain ⟨hnatural, hmax⟩ := Number.uint64?_eq_some_iff.mp hn
        exact .said text others m hvalues hnatural hmax
  · intro h
    cases h with
    | unsaid h =>
      have hvalues : params.valuesOf countParam = [] := h
      rw [hvalues]
      rfl
    | said text others n h hn hmax =>
      have hvalues : params.valuesOf countParam = text :: others := h
      have hread : Number.uint64? text.toList = some n :=
        Number.uint64?_eq_some_iff.mpr ⟨hn, hmax⟩
      simp [hvalues, hread]

theorem Wants.le {s : Config.Suggest} {params : Params} {n : Nat} (h : Wants s params n)
    (hdefault : s.defaultCount ≤ maxUInt64) : n ≤ maxUInt64 := by
  cases h with
  | unsaid => exact hdefault
  | said text others n _ _ hmax => exact hmax

/-- Candidates are asked for in JSON, and only for a request that is admitted. -/
theorem of_candidateParams {r : Runtime} {handler : String} {params outgoing : Params}
    {wanted : Nat} (h : candidateParams r handler params wanted = .ok outgoing) :
    (r.profile.decide handler params none).allowed = true ∧
      outgoing.valuesOf "wt" = ["json"] := by
  unfold candidateParams at h
  cases ha : (r.profile.decide handler params none).allowed with
  | false =>
    rw [admission_of_denied ha] at h
    cases h
  | true =>
    refine ⟨rfl, ?_⟩
    split at h
    · cases h
    · split at h
      · cases h
        unfold Params.valuesOf Backend.Client.askJson
        rw [Ordered.find?_insert, if_pos rfl]
        rfl
      · cases h

theorem ofRaw_eq_ok_iff {raw : Raw} {found : SuggestResponse} :
    SuggestResponse.ofRaw (.ok raw) = .ok found ↔ SuggestResponse.read raw.body = some found := by
  unfold SuggestResponse.ofRaw Backend.Client.decoded
  cases hread : SuggestResponse.read raw.body <;> simp [hread]

theorem json_toJson_counted (header : Backend.Header)
    (lists : Ordered (Ordered (List Suggestion))) :
    Response.json 200 (SuggestResponse.toJson
      ⟨header, lists.map (·.map fun list => ⟨list.length, list⟩)⟩).print =
        ⟨200, some "application/json", none, (document header lists).print⟩ := by
  rw [Backend.toJson_counted]
  rfl

/-- Verdicts on the candidates of a response are verdicts on one of its lists each. -/
theorem exists_result {found : SuggestResponse} {verdicts : Ordered (Ordered (List Verdict))}
    (h : verdicts.map (·.map (·.map Verdict.candidate)) =
      found.dictionaries.map (·.map SuggestResult.suggestions))
    {lists : Ordered (List Verdict)} (hlists : lists ∈ verdicts.values) {vs : List Verdict}
    (hvs : vs ∈ lists.values) : ∃ d ∈ found.dictionaries.values, ∃ result ∈ d.values,
      result.suggestions = vs.map Verdict.candidate := by
  have hvalues := congrArg Ordered.values h
  rw [Ordered.values_map, Ordered.values_map] at hvalues
  have hmem : lists.map (·.map Verdict.candidate) ∈
      found.dictionaries.values.map (·.map SuggestResult.suggestions) :=
    hvalues ▸ List.mem_map_of_mem hlists
  obtain ⟨d, hd, heq⟩ := List.mem_map.mp hmem
  have hvalues' := congrArg Ordered.values heq
  rw [Ordered.values_map, Ordered.values_map] at hvalues'
  have hmem' : vs.map Verdict.candidate ∈ d.values.map SuggestResult.suggestions :=
    hvalues' ▸ List.mem_map_of_mem hvs
  obtain ⟨result, hresult, heq'⟩ := List.mem_map.mp hmem'
  exact ⟨d, hd, result, hresult, heq'⟩

/-- Lists that are cut down stay in range. -/
theorem inRange_kept {found : SuggestResponse} {verdicts : Ordered (Ordered (List Verdict))}
    (hfound : found.InRange) (h : verdicts.map (·.map (·.map Verdict.candidate)) =
      found.dictionaries.map (·.map SuggestResult.suggestions))
    {wanted : Nat} (hwanted : wanted ≤ maxUInt64) :
    SuggestResponse.InRange ⟨found.header,
      verdicts.map (·.map fun vs => ⟨(kept wanted vs).length, kept wanted vs⟩)⟩ := by
  refine ⟨hfound.header, ?_⟩
  intro d hd result hresult
  rw [Ordered.values_map] at hd
  obtain ⟨lists, hlists, rfl⟩ := List.mem_map.mp hd
  rw [Ordered.values_map] at hresult
  obtain ⟨vs, hvs, rfl⟩ := List.mem_map.mp hresult
  obtain ⟨d, hd, result, hresult, heq⟩ := exists_result h hlists hvs
  refine ⟨Nat.le_trans (List.length_take_le _ _) hwanted, fun c hc => ?_⟩
  obtain ⟨v, hv, rfl⟩ := List.mem_map.mp (List.mem_of_mem_take hc)
  refine (hfound.results d hd result hresult).suggestions v.candidate ?_
  rw [heq]
  exact List.mem_map_of_mem (List.mem_of_mem_filter hv)

/-! ### What can be found -/

section

variable {β γ δ ω : Type}

/-- If verdicts with a property leave only one thing to become of each value, they do so for
values under names. -/
theorem Account.eq_of_explains_ordered {a : Account β γ ω δ} {p : Verdict → Prop} {g : β → γ}
    (h : ∀ b vs x, a.Explains b vs x → (∀ v ∈ vs, p v) → x = g b) {o : Ordered β}
    {vs : List Verdict} {x : Ordered γ} (hx : a.ordered.Explains o vs x) (hp : ∀ v ∈ vs, p v) :
    x = o.map g := by
  obtain ⟨w, habout, hsound, rfl, rfl⟩ := hx
  have hentries : ∀ (ws : List (String × ω)) (es : List (String × β)),
      ws.map (fun e => (e.1, a.about e.2)) = es.map (fun e => (e.1, a.subject e.2)) →
      (∀ e ∈ ws, a.sound e.2 ∧ ∀ v ∈ a.verdicts e.2, p v) →
      ws.map (fun e => (e.1, a.result e.2)) = es.map fun e => (e.1, g e.2) := by
    intro ws
    induction ws with
    | nil =>
      intro es heq _
      rw [List.map_eq_nil_iff.mp heq.symm]
      rfl
    | cons e ws ih =>
      intro es heq hall
      cases es with
      | nil => cases heq
      | cons b es =>
        obtain ⟨hhead, htail⟩ := List.cons.inj heq
        obtain ⟨hname, hsubject⟩ := Prod.mk.inj hhead
        obtain ⟨hs, hv⟩ := hall e List.mem_cons_self
        have hresult : a.result e.2 = g b.2 := h b.2 _ _ ⟨e.2, hsubject, hs, rfl, rfl⟩ hv
        rw [List.map_cons, List.map_cons, hname, hresult,
          ih es htail fun e he => hall e (List.mem_cons_of_mem _ he)]
  refine Ordered.ext (hentries w.entries o.entries (congrArg Ordered.entries habout) ?_)
  intro e he
  have hmem : e.2 ∈ w.values := List.mem_map_of_mem he
  exact ⟨hsound e.2 hmem, fun v hv => hp v (List.mem_flatMap.mpr ⟨e.2, hmem, hv⟩)⟩

/-- Of a list with a count for each title the first that count are kept. -/
theorem Account.eq_of_explains_ofResult {wanted : Nat} {count : String → Nat} {s x : SuggestResult}
    {vs : List Verdict} (hx : (Account.ofResult wanted).Explains s vs x)
    (hn : ∀ v ∈ vs, ∀ n, v.count = some n → n = count v.candidate.term) :
    x = s.keep (firstVisible (fun title => .ok (count title)) wanted s.suggestions) := by
  obtain ⟨w, habout, hsound, hw, rfl⟩ := hx
  rw [hw] at hn
  have hkept : kept wanted w = firstVisible (fun title => .ok (count title)) wanted s.suggestions :=
    Access.kept_eq_firstVisible ⟨habout, hsound⟩ hn
  show SuggestResult.mk (kept wanted w).length (kept wanted w) = _
  rw [hkept]
  rfl

end

section

variable {r : Runtime} {caller : Caller} {wanted : Nat} {found : SuggestResponse}
variable {u : Script Call Call.Answer} {res : Except ApiError SuggestResponse}
variable {f : Filter} {count : String → Nat}

/-- A probe that goes by the count has counted so many. -/
theorem Tells.countOf_eq {e : (q : Call) × q.Answer} {title : String}
    {a : Except Fault Raw} (h : Tells r caller f count e) (he : e = ⟨probeCall r f title, a⟩) :
    Access.countOf a = .ok (count title) :=
  Access.countOf_eq_ok_iff.mpr (h.counted title _ a he (Access.asks_probeParams _ f title))

/-- Where all calls go by one filter and one count, each list is cut down to the first of what
can be found. -/
theorem Course.eq_of_tells (h : Course r caller wanted found u res)
    (ht : ∀ e ∈ u, Tells r caller f count e) :
    res = .ok (found.mapResults fun s =>
      s.keep ((s.suggestions.filter fun c => 0 < count c.term).take wanted)) := by
  -- a probe that was made has counted what is counted for its title
  have hcounts : ∀ {vs dictionaries},
      (Account.ofResponse wanted).Explains found.dictionaries vs dictionaries →
      (∀ v ∈ vs, ∀ n, v.count = some n → n = count v.candidate.term) →
      { found with dictionaries } = found.mapResults fun s =>
        s.keep ((s.suggestions.filter fun c => 0 < count c.term).take wanted) := by
    intro vs dictionaries hvs hn
    have hlists := Account.eq_of_explains_ordered (fun b vs x hx hp =>
      Account.eq_of_explains_ordered (fun s vs x hx hp =>
        Account.eq_of_explains_ofResult hx hp) hx hp) hvs hn
    rw [hlists]
    rfl
  cases h with
  | idle vs dictionaries hnone h =>
    rw [hcounts h fun v hv n hn => by rw [hnone v hv] at hn; cases hn]
  | unfetched x =>
    have hfetched := (ht _ List.mem_cons_self).fetched _ rfl
    cases hfetched
  | fetched g made t res hu h =>
    have hfetched := (ht _ List.mem_cons_self).fetched _ rfl
    cases hfetched
    have hmade : ∀ title x, (⟨.probe f title, x⟩ : (q : Inquiry) × q.Answer) ∈ t →
        x = .ok (count title) := by
      intro title x hx
      obtain ⟨e, he, hsettles⟩ := exists_rel_of_mem hu.flip hx
      obtain ⟨a, rfl, rfl⟩ := Settles.eq_probe hsettles
      exact (ht _ (List.mem_cons_of_mem _ he)).countOf_eq rfl
    cases h with
    | through vs dictionaries hvs =>
      rw [← hcounts hvs fun v hv n hn => ?_]
      · rfl
      · have hok := hmade v.candidate.term (.ok n) (Access.mem_probes_iff.mpr ⟨v, hv, n, hn, rfl⟩)
        exact Except.ok.inj hok
    | broken vs title e =>
      cases hmade title (.error e) (List.mem_append_right _ List.mem_cons_self)

end

/-! ### What a request tells -/

/-- What a failed lookup is answered with. -/
theorem response_entitlement (x : Access.Unavailable) :
    (ApiError.entitlement x).response = failure 503 "entitlement service unavailable" := rfl

/-- An answer to a probe that counts nothing is a fault, and the caller is told this of it. -/
theorem Spoilt.exists_fault {a : Except Fault Raw} {message : String} (h : Spoilt a message) :
    ∃ e, Access.countOf a = .error e ∧ (ApiError.backend e).response = failure 502 message := by
  cases h with
  | refused code message => exact ⟨_, rfl, rfl⟩
  | broken e h =>
    refine ⟨e, rfl, ?_⟩
    cases e with
    | status code message => exact absurd rfl (h code message)
    | _ => rfl
  | undecodable raw h =>
    exact ⟨_, Access.countOf_of_read_eq_none h, rfl⟩

/-- No error is answered as a success. -/
theorem ApiError.response_status_ne (e : ApiError) : e.response.status ≠ 200 := by
  show e.status ≠ 200
  unfold ApiError.status
  split
  · split <;> omega
  all_goals omega

section

variable {r : Runtime} {handler query : String} {headers : List Header}
variable {t : Script Call Call.Answer} {response : Response}

/-- The backend is called for candidates first, and then under one filter. -/
theorem Suggested.underOneFilter (h : Suggested r handler query headers t response) :
    t = [] ∨ ∃ outgoing a rest, t = ⟨.backend r.client handler outgoing, a⟩ :: rest ∧
      UnderOneFilter r (callerOf r.settings.server headers) rest := by
  cases h with
  | refused e => exact .inl rfl
  | failed outgoing a e h => exact .inr ⟨outgoing, a, [], rfl, .inl rfl⟩
  | screened wanted outgoing raw found u res hwanted houtgoing hfound h =>
    exact .inr ⟨outgoing, .ok raw, u, rfl, h.underOneFilter⟩

/-- An answer is explained by verdicts. -/
theorem Suggested.explained (h : Suggested r handler query headers t response)
    (hs : response.status = 200) :
    ∃ wanted found verdicts,
      Explained r handler query headers t response wanted found verdicts := by
  cases h with
  | refused e => exact absurd hs e.response_status_ne
  | failed outgoing a e h => exact absurd hs (ApiError.response_status_ne _)
  | screened wanted outgoing raw found u res hwanted houtgoing hfound h =>
    cases res with
    | error e => exact absurd hs e.response_status_ne
    | ok answer =>
      obtain ⟨vs, dictionaries, rfl, ⟨verdicts, habout, hsound, rfl, rfl⟩, hcalls⟩ :=
        h.exists_verdicts
      have hall : (Account.ofResponse wanted).verdicts verdicts =
          verdicts.values.flatMap fun lists => lists.values.flatten := by
        show (verdicts.values.flatMap fun lists => lists.values.flatMap id) = _
        simp only [List.flatMap_id]
      rw [hall] at hcalls
      have hread : SuggestResponse.read raw.body = some found := ofRaw_eq_ok_iff.mp hfound
      have hwants : Wants r.settings.suggest (Query.parse query) wanted :=
        wantedCount_eq_ok_iff.mp hwanted
      obtain ⟨hadmitted, hjson⟩ := of_candidateParams houtgoing
      refine ⟨wanted, found, verdicts, hadmitted, hwants, habout, hsound, ?_, ?_,
        outgoing, raw, u, houtgoing, hjson, hread, rfl, hcalls⟩
      · rw [← json_toJson_counted, Ordered.map_map]
        simp only [Ordered.map_map]
        rfl
      · intro hdefault hdoubles
        exact Backend.read_print_toJson
          (inRange_kept (Backend.inRange_of_read hread) habout (hwants.le hdefault)) hdoubles

/-- Without a filter the answer is an error. -/
theorem Suggested.of_unfetched (h : Suggested r handler query headers t response)
    {x : Access.Unavailable}
    (hx : ⟨.filter r.supplier (callerOf r.settings.server headers), .error x⟩ ∈ t) :
    response = (ApiError.entitlement x).response := by
  cases h with
  | refused e => cases hx
  | failed outgoing a e h => cases List.mem_singleton.mp hx
  | screened wanted outgoing raw found u res hwanted houtgoing hfound h =>
    rcases List.mem_cons.mp hx with hx | hx
    · cases hx
    · rw [h.unfetched_of_mem hx]
      rfl

/-- Where a probe fails the answer is an error. -/
theorem Suggested.of_fault (h : Suggested r handler query headers t response)
    {c : Backend.Client} {path : String} {params : Params} {a : Except Fault Backend.Raw}
    {e : Fault} (ha : ⟨.backend c path params, a⟩ ∈ t.tail) (he : Access.countOf a = .error e) :
    response = (ApiError.backend e).response := by
  cases h with
  | refused e => cases ha
  | failed outgoing a e h => cases ha
  | screened wanted outgoing raw found u res hwanted houtgoing hfound h =>
    rw [h.fault_of_mem ha he]
    rfl

/-- Without a failure the answer is the first of what can be found, list by list. -/
theorem Suggested.of_faultless (h : Suggested r handler query headers t response) {f : Filter}
    {count : String → Nat} {found : SuggestResponse}
    (ht : Faultless r handler (callerOf r.settings.server headers) f count found t) :
    ∃ wanted, wantedCount r.settings.suggest (Query.parse query) = .ok wanted ∧
      response = ⟨200, some "application/json", none,
        (document found.header ((findable count found).map (·.map (·.take wanted)))).print⟩ := by
  obtain ⟨outgoing', raw', hhead, hfound'⟩ := ht.first
  rw [← ofRaw_eq_ok_iff] at hfound'
  cases h with
  | refused e => cases hhead
  | failed outgoing a e h =>
    cases hhead
    rw [hfound'] at h
    cases h
  | screened wanted outgoing raw found' u res hwanted houtgoing hfound h =>
    cases hhead
    rw [hfound'] at hfound
    cases hfound
    refine ⟨wanted, hwanted, ?_⟩
    rw [h.eq_of_tells ht.rest, ← json_toJson_counted]
    unfold findable
    simp only [Ordered.map_map]
    rfl

end

/-! ## Top theorem -/

/-- **Suggestions are only what the caller can find**, in every world.  An answer is the
backend's response with each list cut down to the first candidates whose probe under the
caller's filter has counted something.  The filter is looked up at most once; where that or a
probe fails, the answer is an error that tells of the failure alone.  What the caller cannot
find makes no difference to the answer. -/
theorem suggest_findable (r : Runtime) (handler query : String) (headers : List Header) {S : Type}
    (world : (q : Call) → S → q.Answer × S) (s : S) :
    let caller := callerOf r.settings.server headers
    let script := (answered (suggest r handler query headers)).script world s
    let response := ((answered (suggest r handler query headers)).run world s).1
    -- what is called
    (script = [] ∨ ∃ outgoing a rest, script = ⟨.backend r.client handler outgoing, a⟩ :: rest ∧
      UnderOneFilter r caller rest)
    -- what is answered
    ∧ (response.status = 200 → ∃ wanted found verdicts,
        Explained r handler query headers script response wanted found verdicts)
    -- what fails
    ∧ (∀ x, ⟨.filter r.supplier caller, .error x⟩ ∈ script →
        response = failure 503 "entitlement service unavailable")
    ∧ (∀ c path params a message, ⟨.backend c path params, a⟩ ∈ script.tail →
        Spoilt a message → response = failure 502 message)
    -- what makes no difference
    ∧ ∀ {S' : Type} (world' : (q : Call) → S' → q.Answer × S') (s' : S') f count found found',
        let script' := (answered (suggest r handler query headers)).script world' s'
        let response' := ((answered (suggest r handler query headers)).run world' s').1
        Faultless r handler caller f count found script →
        Faultless r handler caller f count found' script' →
        found.header = found'.header → findable count found = findable count found' →
        response' = response ∧ response.status = 200 := by
  intro caller script response
  have h : Suggested r handler query headers script response := ends_suggest (ends_run world _ s)
  refine ⟨h.underOneFilter, h.explained, ?_, ?_, ?_⟩
  · intro x hx
    exact (h.of_unfetched hx).trans (response_entitlement x)
  · intro c path params a message ha hspoilt
    obtain ⟨e, he, hresponse⟩ := hspoilt.exists_fault
    exact (h.of_fault ha he).trans hresponse
  · intro S' world' s' f count found found' script' response' ht ht' hheader hlists
    have h' : Suggested r handler query headers script' response' :=
      ends_suggest (ends_run world' _ s')
    obtain ⟨wanted, hwanted, hresponse⟩ := h.of_faultless ht
    obtain ⟨wanted', hwanted', hresponse'⟩ := h'.of_faultless ht'
    rw [hwanted] at hwanted'
    cases hwanted'
    rw [hresponse, hresponse', hheader, hlists]
    exact ⟨rfl, rfl⟩

/-! ## A title that the caller cannot find -/

/-- A gateway that gives one suggestion. -/
def shelfRuntime : Runtime :=
  { sampleRuntime with
    settings := { sampleRuntime.settings with
      suggest := { Config.Suggest.default with defaultCount := 1 }
      handlers := Ordered.ofList [("suggest", .default)] }
    profile := { sampleRuntime.profile with
      components := Roster.ofList [Policy.Component.bare "suggest"] } }

/-- Candidates of one dictionary. -/
def shelf (titles : List String) : Ordered (Ordered (List Suggestion)) :=
  Ordered.ofList [("titles", Ordered.ofList [("c", titles.map Suggestion.ofTerm)])]

/-- A response with these candidates. -/
def shelfResponse (titles : List String) : SuggestResponse :=
  ⟨.default, (shelf titles).map (·.map fun list => ⟨list.length, list⟩)⟩

/-- How many documents there are with a title. -/
def shelved (title : String) : Nat := if title = "cats" then 1 else 0

/-- The reply to a probe that has found so many documents. -/
def shelfCount (n : Nat) : Raw :=
  ⟨200, some "application/json",
    (Value.object [("response", .object [("numFound", .ofNat n)])]).print⟩

/-- The title that the query of a probe tells. -/
def titleAsked (params : Params) : Option String := do
  let q ← params.first? "q"
  let phrased ← Access.Phrased.read q.toList
  return String.ofList phrased.text

/-- A world in which the backend suggests these titles and counts what it is asked for. -/
def shelfWorld (titles : List String) : (q : Call) → Unit → q.Answer × Unit
  | .runtime, s => (shelfRuntime, s)
  | .filter .., s => (.ok ⟨["project:7"]⟩, s)
  | .backend _ path params, s =>
    if path = "suggest" then
      (.ok ⟨200, some "application/json", (shelfResponse titles).toJson.print⟩, s)
    else (.ok (shelfCount (shelved ((titleAsked params).getD ""))), s)

/-- What is called and answered in that world. -/
def shelfScript (titles : List String) : Script Call Call.Answer :=
  (answered (suggest shelfRuntime "suggest" "q=c" [])).script (shelfWorld titles) ()

theorem titleAsked_of_asks {f : Filter} {title : String} {params : Params}
    (h : Asks "title" f title params) : titleAsked params = some title := by
  obtain ⟨q, hq, hread⟩ := h.read_query (by decide)
  unfold titleAsked Params.first?
  rw [hq]
  show (Access.Phrased.read q.toList).bind _ = _
  rw [hread]
  show some (String.ofList title.toList) = _
  rw [String.ofList_toList]

theorem countOf_shelfCount (title : String) :
    Access.countOf (.ok (shelfCount (shelved title))) = .ok (shelved title) := by
  unfold shelved
  split
  · decide +kernel
  · decide +kernel

theorem inRange_shelfResponse (titles : List String) (h : titles.length ≤ maxUInt64) :
    (shelfResponse titles).InRange := by
  refine ⟨Backend.inRange_default, ?_⟩
  intro d hd result hresult
  obtain rfl := List.mem_singleton.mp hd
  obtain rfl := List.mem_singleton.mp hresult
  refine ⟨by simpa using h, fun s hs => ?_⟩
  obtain ⟨title, -, rfl⟩ := List.mem_map.mp hs
  exact (by decide : Number.minInt64 ≤ 0 ∧ 0 ≤ Number.maxInt64)

theorem faultless_shelf (titles : List String) (hlen : titles.length ≤ maxUInt64)
    (hscript : shelfScript titles ≠ []) :
    Faultless shelfRuntime "suggest" (callerOf shelfRuntime.settings.server []) ⟨["project:7"]⟩
      shelved (shelfResponse titles) (shelfScript titles) := by
  constructor
  · have h : Suggested shelfRuntime "suggest" "q=c" [] (shelfScript titles) _ :=
      ends_suggest (ends_run (shelfWorld titles) _ ())
    obtain hnil | ⟨outgoing, a, rest, heq, -⟩ := h.underOneFilter
    · exact absurd hnil hscript
    · obtain ⟨s, he⟩ := Dialogue.exists_answer_of_mem (heq ▸ List.mem_cons_self :
        ⟨.backend shelfRuntime.client "suggest" outgoing, a⟩ ∈ shelfScript titles)
      rw [heq, he]
      exact ⟨outgoing, _, rfl, Backend.read_print_toJson (inRange_shelfResponse titles hlen)
        fun p hp => nomatch hp⟩
  · rintro ⟨q, x⟩ he
    obtain ⟨s, he⟩ := Dialogue.exists_answer_of_mem (List.mem_of_mem_tail he)
    rw [he]
    cases q with
    | runtime => exact ⟨fun a ha => (nomatch ha), fun title params a ha => (nomatch ha)⟩
    | filter supplier caller =>
      refine ⟨fun a ha => ?_, fun title params a ha => (nomatch ha)⟩
      cases ha
      rfl
    | backend client path params =>
      refine ⟨fun a ha => (nomatch ha), fun title params' a ha hasks => ?_⟩
      have htitle := titleAsked_of_asks hasks
      cases ha
      obtain ⟨raw, decoded, hraw, hdecoded⟩ :=
        Access.countOf_eq_ok_iff.mp (countOf_shelfCount title)
      refine ⟨raw, decoded, ?_, hdecoded⟩
      rw [← hraw]
      show Except.ok (shelfCount (shelved ((titleAsked params).getD ""))) = _
      rw [htitle]
      rfl

/-- Whether the backend suggests it or not, the answer is the same. -/
theorem suggest_findable_unseen :
    let answer titles :=
      ((answered (suggest shelfRuntime "suggest" "q=c" [])).run (shelfWorld titles) ()).1
    answer ["dogs", "cats"] = answer ["cats"] ∧ answer ["cats"] =
      ⟨200, some "application/json", none, (document .default (shelf ["cats"])).print⟩ := by
  intro answer
  have hboth : shelfScript ["dogs", "cats"] ≠ [] := by
    rw [← List.length_pos_iff]
    decide +kernel
  have hone : shelfScript ["cats"] ≠ [] := by
    rw [← List.length_pos_iff]
    decide +kernel
  obtain ⟨-, -, -, -, hsame⟩ :=
    suggest_findable shelfRuntime "suggest" "q=c" [] (shelfWorld ["cats"]) ()
  have hfindable : findable shelved (shelfResponse ["cats"]) =
      findable shelved (shelfResponse ["dogs", "cats"]) := by decide +kernel
  refine ⟨(hsame (shelfWorld ["dogs", "cats"]) () _ _ _ _ (faultless_shelf _ (by decide) hone)
    (faultless_shelf _ (by decide) hboth) rfl hfindable).1, ?_⟩
  decide +kernel

end SearchGateway.Gateway
