import SearchGateway.Proofs.Access.Markup
import SearchGateway.Proofs.Access.Redaction
import SearchGateway.Proofs.Gateway.Forwarding

/-!
# What a repeated filter shows

The backend repeats the parameters that it was called with, so a reply in which no clause carries
the marker shows that the filter did not arrive, and it is refused.  The check looks at the marker
alone.  It tells whether some marked string is there, not whose it is: a caller may send one, and
a document may hold one.

    Carries format body clause    a marked string where redaction looks for it
    redact_isOk_iff               redaction succeeds exactly if there is one
    search_status_iff             a search is answered exactly if there is one
    not_forall_unrepeated_refused a caller's own marked filter is enough
-/

namespace SearchGateway.Gateway

open Access (Filter Format redact tag)
open Json (Value)

/-! ## Algorithm -/

/-- Whether a body carries a clause behind the marker: as an element or a member's value of a
document, at any depth, or in an element of its markup. -/
def Carries (format : Format) (body clause : String) : Prop :=
  match format with
  | .json => ∃ v, Value.read body = .ok v ∧ .text (tag clause) ∈ v.parts
  | .xml => Access.HoldsMarked body.toList clause.toList

/-! ## Lemmas -/

theorem redactJson_isOk_iff (body : String) :
    (∃ out, redact .json body = .ok out) ↔ ∃ clause, Carries .json body clause := by
  show (∃ out, Access.redactJson body = .ok out) ↔ _
  cases hv : Value.read body with
  | error e =>
    constructor
    · rintro ⟨out, hout⟩
      unfold Access.redactJson at hout
      rw [hv] at hout
      cases hout
    · rintro ⟨clause, v, hread, -⟩
      rw [hv] at hread
      cases hread
  | ok v =>
    rw [Access.exists_redactJson_iff hv]
    constructor
    · rintro ⟨w, hw, clause, rfl⟩
      exact ⟨clause, v, hv, hw⟩
    · rintro ⟨clause, v', hread, hw⟩
      rw [hv] at hread
      cases hread
      exact ⟨_, hw, clause, rfl⟩

theorem redactMarkup_isOk_iff (body : String) :
    (∃ out, redact .xml body = .ok out) ↔ ∃ clause, Carries .xml body clause := by
  have hmarked : Access.hasMarked body.toList = true ↔ ∃ clause, Carries .xml body clause := by
    rw [Access.hasMarked_iff]
    constructor
    · rintro ⟨clause, h⟩
      refine ⟨String.ofList clause, ?_⟩
      show Access.HoldsMarked body.toList (String.ofList clause).toList
      rw [String.toList_ofList]
      exact h
    · rintro ⟨clause, h⟩
      exact ⟨clause.toList, h⟩
  rw [← hmarked]
  show (∃ out, Access.redactMarkup body = .ok out) ↔ _
  unfold Access.redactMarkup
  constructor
  · rintro ⟨out, hout⟩
    split at hout
    · next h => exact h
    · cases hout
  · intro h
    exact ⟨_, if_pos h⟩

theorem redact_isOk_iff (format : Format) (body : String) :
    (∃ out, redact format body = .ok out) ↔ ∃ clause, Carries format body clause := by
  cases format with
  | json => exact redactJson_isOk_iff body
  | xml => exact redactMarkup_isOk_iff body

section

variable {r : Runtime} {handler query : String} {m : Merger} {f : Filter} {raw : Backend.Raw}
variable {S : Type} (world : (q : Call) → S → q.Answer × S) (s : S) (headers : List Header)

/-- What a search makes of the backend's answer is what it answers. -/
theorem run_search {a : Except Backend.Fault Backend.Raw}
    (hm : admission r handler (Query.parse query) = .ok m)
    (hf : (world (.filter r.supplier (callerOf r.settings.server headers)) s).1 = .ok f)
    (ha : (world (.backend r.client handler (restrict f m.params))
      (world (.filter r.supplier (callerOf r.settings.server headers)) s).2).1 = a) :
    ((answered (search r handler query headers)).run world s).1 =
      match concluded f (restrict f m.params) a with
      | .ok response => response
      | .error e => e.response := by
  unfold answered
  rw [search_eq_ask hm, Dialogue.run_bind]
  simp only [Dialogue.run]
  rw [hf]
  simp only [Dialogue.run]
  rw [ha]
  cases concluded f (restrict f m.params) a <;> rfl

/-- Under a filter that the backend repeats, a reply is passed on redacted, or the request fails
with it. -/
theorem run_search_of_reply {format : Format}
    (hm : admission r handler (Query.parse query) = .ok m)
    (hf : (world (.filter r.supplier (callerOf r.settings.server headers)) s).1 = .ok f)
    (hsome : f.isUnrestricted = false) (hecho : echoes (restrict f m.params) = true)
    (hraw : (world (.backend r.client handler (restrict f m.params))
      (world (.filter r.supplier (callerOf r.settings.server headers)) s).2).1 = .ok raw)
    (hformat : Format.detect raw.contentType ((restrict f m.params).first? "wt") = format) :
    ((answered (search r handler query headers)).run world s).1 =
      match redact format raw.body with
      | .ok body => ⟨200, some (raw.contentType.getD (formatType format)), none, body⟩
      | .error e => (ApiError.redaction e).response := by
  subst hformat
  have hcleaned : cleaned f (restrict f m.params) raw =
      (redact (Format.detect raw.contentType ((restrict f m.params).first? "wt"))
        raw.body).mapError .redaction := by
    unfold cleaned
    rw [hsome, hecho]
    rfl
  refine (run_search world s headers hm hf hraw).trans ?_
  simp only [concluded]
  rw [hcleaned]
  cases redact (Format.detect raw.contentType ((restrict f m.params).first? "wt")) raw.body <;> rfl

/-! ## Top theorem -/

/-- **Under a filter that the backend repeats, a search is answered exactly if its reply carries
some marked string**, and else refused; what is passed on has been redacted.  As long as nobody
else uses the marker, a reply with none of the filter's clauses is refused. -/
theorem search_status_iff (hm : admission r handler (Query.parse query) = .ok m)
    (hf : (world (.filter r.supplier (callerOf r.settings.server headers)) s).1 = .ok f)
    (hsome : f.isUnrestricted = false) (hecho : echoes (restrict f m.params) = true)
    (hraw : (world (.backend r.client handler (restrict f m.params))
      (world (.filter r.supplier (callerOf r.settings.server headers)) s).2).1 = .ok raw) :
    let format := Format.detect raw.contentType ((restrict f m.params).first? "wt")
    let response := ((answered (search r handler query headers)).run world s).1
    (response.status = 200 ↔ ∃ clause, Carries format raw.body clause) ∧
      (response.status = 502 ↔ ∀ clause, ¬ Carries format raw.body clause) ∧
      (response.status = 200 → redact format raw.body = .ok response.body) ∧
      ((∀ clause, Carries format raw.body clause → clause ∈ f.clauses) →
        (∀ clause ∈ f.clauses, ¬ Carries format raw.body clause) → response.status = 502) := by
  intro format response
  have hformat : Format.detect raw.contentType ((restrict f m.params).first? "wt") = format := rfl
  have hresponse : response = _ := run_search_of_reply world s headers hm hf hsome hecho hraw hformat
  have hok := redact_isOk_iff format raw.body
  cases hredact : redact format raw.body with
  | ok body =>
    rw [hredact] at hresponse hok
    obtain ⟨clause, hclause⟩ := hok.mp ⟨body, rfl⟩
    have hstatus : response.status = 200 := by rw [hresponse]
    refine ⟨iff_of_true hstatus ⟨clause, hclause⟩, ?_, fun _ => by rw [hresponse], ?_⟩
    · rw [hstatus]
      exact iff_of_false (by decide) fun h => h clause hclause
    · intro hown hnone
      exact absurd hclause (hnone clause (hown clause hclause))
  | error e =>
    rw [hredact] at hresponse hok
    have hnone : ∀ clause, ¬ Carries format raw.body clause := by
      intro clause h
      obtain ⟨out, hout⟩ := hok.mpr ⟨clause, h⟩
      cases hout
    have hstatus : response.status = 502 := by
      rw [hresponse]
      rfl
    refine ⟨?_, iff_of_true hstatus hnone, ?_, fun _ _ => hstatus⟩
    · rw [hstatus]
      refine iff_of_false (by decide) ?_
      rintro ⟨clause, h⟩
      exact hnone clause h
    · rw [hstatus]
      exact fun h => absurd h (by decide)

end

/-! ## A marked string of the caller's -/

/-- A world in which the caller may see one project only and the backend replies with a body. -/
def repliedWorld (body : String) : (q : Call) → Unit → q.Answer × Unit
  | .runtime, s => (sampleRuntime, s)
  | .filter .., s => (.ok ⟨["project:7"]⟩, s)
  | .backend .., s => (.ok ⟨200, some "application/json", body⟩, s)

/-- Whether a search is admitted and the backend repeats its parameters. -/
def echoesAdmitted (query : String) : Bool :=
  match admission sampleRuntime "select" (Query.parse query) with
  | .ok m => echoes (restrict ⟨["project:7"]⟩ m.params)
  | .error _ => false

theorem exists_of_echoesAdmitted (query : String) (h : echoesAdmitted query = true) :
    ∃ m, admission sampleRuntime "select" (Query.parse query) = .ok m ∧
      echoes (restrict ⟨["project:7"]⟩ m.params) = true := by
  unfold echoesAdmitted at h
  split at h
  · next m hm => exact ⟨m, hm, h⟩
  · cases h

/-- A reply without any parameters is refused. -/
theorem search_status_iff_unmarked :
    ((answered (search sampleRuntime "select" "q=x" [])).run
      (repliedWorld "\x7b\x7d") ()).1.status = 502 := by
  obtain ⟨m, hm, hecho⟩ := exists_of_echoesAdmitted "q=x" (by decide +kernel)
  have h := search_status_iff (repliedWorld "\x7b\x7d") () [] hm rfl rfl hecho rfl
  refine h.2.1.mpr ?_
  rintro clause ⟨v, hv, hmem⟩
  have hread : Value.read "\x7b\x7d" = .ok (.object []) := rfl
  rw [hread] at hv
  cases hv
  cases hmem

/-- A reply that repeats the caller's own filters and not the gateway's. -/
def callersEcho : Value :=
  .object [("responseHeader", .object [("params", .object [("fq", .array [.text (tag "mine")])])]),
    ("response", .object [("numFound", .number (.int 1))])]

theorem parts_callersEcho : callersEcho.parts =
    [.object [("params", .object [("fq", .array [.text (tag "mine")])])],
      .object [("fq", .array [.text (tag "mine")])], .array [.text (tag "mine")],
      .text (tag "mine"), .object [("numFound", .number (.int 1))], .number (.int 1)] := rfl

theorem fits_callersEcho : callersEcho.Fits Json.maxDepth := by
  refine .object (by decide) fun m hm => ?_
  simp only [List.mem_cons, List.not_mem_nil, or_false] at hm
  rcases hm with rfl | rfl
  · refine .object (by decide) fun m hm => ?_
    rw [List.mem_singleton.mp hm]
    refine .object (by decide) fun m hm => ?_
    rw [List.mem_singleton.mp hm]
    refine .array fun v hv => ?_
    rw [List.mem_singleton.mp hv]
    exact .text
  · refine .object (by decide) fun m hm => ?_
    rw [List.mem_singleton.mp hm]
    exact .int (by decide) (by decide)

theorem read_callersEcho : Value.read callersEcho.print = .ok callersEcho := by
  refine Value.read_print fits_callersEcho fun x hx => ?_
  rw [parts_callersEcho] at hx
  simp [callersEcho] at hx

/-- **A filter that did not arrive is not always noticed.**  The caller's own filter carries the
marker, the reply repeats that one alone, and the search is answered. -/
theorem not_forall_unrepeated_refused :
    ¬ ∀ {r : Runtime} {handler query : String} {m : Merger} {f : Filter} {raw : Backend.Raw}
      {S : Type} (world : (q : Call) → S → q.Answer × S) (s : S) (headers : List Header),
      admission r handler (Query.parse query) = .ok m →
      (world (.filter r.supplier (callerOf r.settings.server headers)) s).1 = .ok f →
      f.isUnrestricted = false → echoes (restrict f m.params) = true →
      (world (.backend r.client handler (restrict f m.params))
        (world (.filter r.supplier (callerOf r.settings.server headers)) s).2).1 = .ok raw →
      (∀ clause ∈ f.clauses, Text.occursIn (tag clause).toList raw.body.toList = false ∧
        ¬ Carries (Format.detect raw.contentType ((restrict f m.params).first? "wt"))
          raw.body clause) →
      ((answered (search r handler query headers)).run world s).1.status = 502 := by
  intro h
  let query := "q=x&fq=%7B!cache%3Dtrue+tag%3Dsolrgate_access%7Dmine"
  obtain ⟨m, hm, hecho⟩ := exists_of_echoesAdmitted query (by decide +kernel)
  have hrefused := h (repliedWorld callersEcho.print) () [] hm rfl rfl hecho rfl ?_
  · have hanswered : ((answered (search sampleRuntime "select" query [])).run
        (repliedWorld callersEcho.print) ()).1.status = 200 := by decide +kernel
    rw [hanswered] at hrefused
    cases hrefused
  · intro clause hclause
    have heq : clause = "project:7" := List.mem_singleton.mp hclause
    rw [heq]
    refine ⟨by decide +kernel, ?_⟩
    rintro ⟨v, hv, hmem⟩
    have hread : Value.read callersEcho.print = .ok v := hv
    rw [read_callersEcho] at hread
    cases hread
    rw [parts_callersEcho] at hmem
    have hmine : tag "project:7" = tag "mine" := by simpa [callersEcho] using hmem
    exact absurd hmine (by decide)

end SearchGateway.Gateway
