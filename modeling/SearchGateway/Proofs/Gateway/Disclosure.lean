import SearchGateway.Gateway.State
import SearchGateway.Proofs.Gateway.Forwarding
import SearchGateway.Proofs.Gateway.Suggesting
import SearchGateway.Proofs.Relating

/-!
# What a failing backend gives away

A reply of the backend that is no success has a status and a body, and the body may say anything:
where the backend runs, what it was asked, how it broke.  On its way to the caller it goes through
the extraction of a message, the errors of the backend's client, those of screening and those of
the gateway.  What is left is the text at `error.msg`, or the usual words for the status where
there is no such text.  Of a reply that cannot be decoded nothing is left at all.

    Alike o o'               outcomes that differ in nothing but the rest of a failing body
    refusal message          the answer that a caller gets
    Undecodable              a reply that is not what the suggestions of a request need
    backend_tells_message    what the caller gets, at each place where the backend is called

The replies may come to a search, to the call for suggestions or to a probe.
-/

namespace SearchGateway.Gateway

open Backend (Fault Raw Says SearchResponse SuggestResponse errorMessage?_eq_some_iff)
open Backend.Client (complaint interpret)
open Dialogue (Ends GoAlong Related Script)
open Http (Outcome Reply)

/-! ## Algorithm -/

/-- Outcomes that are the same, but that a reply which is no success may have another type and
body, with the same message or again with none. -/
inductive Alike : Outcome → Outcome → Prop
  | same (o : Outcome) : Alike o o
  | failing (a b : Reply) (hfails : Http.isSuccess a.status = false)
    (hstatus : b.status = a.status) (hlocation : b.location = a.location)
    (hmessage : ∀ message, Says b.body message ↔ Says a.body message) : Alike (.ok a) (.ok b)

/-- The answer that a caller gets where the backend has failed, in the shape of its own errors. -/
def refusal (message : String) : Response := failure 502 message

/-- Among the calls for suggestions there is one whose reply is a success and not what is needed:
candidates from the first call, and a number from the others. -/
def Undecodable (t : Script Call Call.Answer) : Prop :=
  ∃ c path params raw,
    (t.head? = some ⟨.backend c path params, .ok raw⟩ ∧ SuggestResponse.read raw.body = none) ∨
    (⟨.backend c path params, .ok raw⟩ ∈ t.tail ∧ SearchResponse.read raw.body = none)

/-! ## Lemmas -/

/-! ### One exchange -/

theorem interpret_eq {o o' : Outcome} (h : Alike o o') : interpret o = interpret o' := by
  cases h with
  | same => rfl
  | failing a b hfails hstatus _ hmessage =>
    unfold interpret
    simp [hstatus, hfails, Backend.complaint_eq hmessage]

theorem readReply_eq {o o' : Outcome} (h : Alike o o') :
    Access.readReply o = Access.readReply o' := by
  cases h with
  | same => rfl
  | failing a b hfails hstatus =>
    unfold Access.readReply
    simp [hstatus, hfails]

/-- A reply sends a request elsewhere by its status and location alone. -/
theorem redirect?_eq (q : Http.Request) {a b : Reply} (hstatus : b.status = a.status)
    (hlocation : b.location = a.location) : Http.redirect? q b = Http.redirect? q a := by
  unfold Http.redirect?
  rw [hstatus, hlocation]

theorem related_attempt (q : Http.Request) {onward : Http.Request → Http.Exchange Outcome}
    (h : ∀ next, Related (fun _ => Alike) Alike (onward next) (onward next)) :
    Related (fun _ => Alike) Alike (Http.attempt q onward) (Http.attempt q onward) := by
  unfold Http.attempt
  split
  · exact .done _ _ (.same _)
  · refine .ask q _ _ fun o o' ho => ?_
    cases ho with
    | same =>
      cases o with
      | error e => exact .done _ _ (.same _)
      | ok a =>
        dsimp only
        cases Http.redirect? q a with
        | none => exact .done _ _ (.same _)
        | some next => exact h next
    | failing a b hfails hstatus hlocation hmessage =>
      dsimp only
      rw [redirect?_eq q hstatus hlocation]
      cases Http.redirect? q a with
      | none => exact .done _ _ (.failing a b hfails hstatus hlocation hmessage)
      | some next => exact h next

/-- Alike replies send a request along the same way, to alike outcomes. -/
theorem related_send (q : Http.Request) :
    Related (fun _ => Alike) Alike (Http.send q) (Http.send q) := by
  unfold Http.send
  induction Http.maxRedirections generalizing q with
  | zero => exact related_attempt q fun next => .done _ _ (.same _)
  | succ n ih => exact related_attempt q ih

/-- What a call is answered with does not tell alike replies apart. -/
theorem related_make (r : Runtime) (q : Call) :
    Related (fun _ => Alike) Eq (Call.make r q) (Call.make r q) := by
  cases q with
  | runtime => exact .done _ _ rfl
  | filter supplier caller =>
    cases supplier with
    | unrestricted => exact .done _ _ rfl
    | service url => exact (related_send _).bind fun o o' ho => .done _ _ (readReply_eq ho)
  | backend c handler params =>
    exact (related_send _).bind fun o o' ho => .done _ _ (interpret_eq ho)

/-! ### The answer to a request -/

section

variable {r : Runtime} {handler query : String} {headers : List Header}
variable {t : Script Call Call.Answer} {response : Response}
variable {c : Backend.Client} {path : String} {params : Params} {e : Fault}

/-- Where the backend fails a search fails with it. -/
theorem Searched.of_fault (h : Searched r handler query headers t response)
    (he : ⟨.backend c path params, .error e⟩ ∈ t) :
    response = (ApiError.backend e).response := by
  cases h with
  | refused x _ => cases he
  | unfetched u => cases List.mem_singleton.mp he
  | called f outgoing b =>
    rcases List.mem_cons.mp he with he | he
    · cases he
    · cases List.mem_singleton.mp he
      rfl

/-- Where the backend fails a request for suggestions fails with it, whichever call it was. -/
theorem Suggested.of_backend (h : Suggested r handler query headers t response)
    (he : ⟨.backend c path params, .error e⟩ ∈ t) :
    response = (ApiError.backend e).response := by
  have htail : ⟨.backend c path params, .error e⟩ ∈ t.tail →
      response = (ApiError.backend e).response := fun he => h.of_fault he rfl
  cases h with
  | refused x => cases he
  | failed outgoing a x hx =>
    cases List.mem_singleton.mp he
    cases hx
    rfl
  | screened wanted outgoing raw found u res hwanted houtgoing hfound h =>
    rcases List.mem_cons.mp he with he | he
    · cases he
    · exact htail he

theorem response_of_status (code : Nat) (message : String) :
    (ApiError.backend (.status code message)).response = refusal message := rfl

theorem response_of_decode (detail : String) :
    (ApiError.backend (.decode detail)).response = refusal "search backend unavailable" := rfl

theorem ofRaw_of_read_eq_none {raw : Raw} (h : SuggestResponse.read raw.body = none) :
    SuggestResponse.ofRaw (.ok raw) = .error (.decode "unexpected response") := by
  simp only [SuggestResponse.ofRaw, Backend.Client.decoded, h]

/-- Where a reply cannot be decoded nothing is told of it. -/
theorem Suggested.of_undecodable (h : Suggested r handler query headers t response)
    (hu : Undecodable t) : response = refusal "search backend unavailable" := by
  obtain ⟨c, path, params, raw, ⟨hhead, hread⟩ | ⟨hmem, hread⟩⟩ := hu
  · cases h with
    | refused e => cases hhead
    | failed outgoing a e he =>
      cases hhead
      rw [ofRaw_of_read_eq_none hread] at he
      cases he
      exact response_of_decode _
    | screened wanted outgoing raw' found u res hwanted houtgoing hfound h =>
      cases hhead
      rw [ofRaw_of_read_eq_none hread] at hfound
      cases hfound
  · rw [h.of_fault hmem (Access.countOf_of_read_eq_none hread), response_of_decode]

end

/-! ## Top theorem -/

/-- **Of a failing reply the caller gets nothing but its message.**  Networks that go along with
each other, but for the rest of failing bodies, are called in the same way and give the same
answer to a search or to a request for suggestions, and to each call by itself, whenever it is
made.  The answer to a failing reply is a refusal with the message that it says, or with the usual
words for its status; that to one that cannot be decoded is always the same. -/
theorem backend_tells_message (r : Runtime) (handler query : String) (headers : List Header) :
    (∀ h ∈ [search r handler query headers, suggest r handler query headers],
      -- two networks
      (∀ {S S' : Type} (Belong : S → S' → Prop) (net : Http.Request → S → Outcome × S)
        (net' : Http.Request → S' → Outcome × S') (s : S) (s' : S'),
        GoAlong (fun _ => Alike) Belong net net' → Belong s s' →
        let d := (answered h).answer (Call.make r)
        (d.run net s).1 = (d.run net' s').1 ∧ d.asked net s = d.asked net' s') ∧
      -- a reply that is no success
      ∀ t response c path params a, Ends (answered h) t response →
        ⟨.backend c path params, interpret (.ok a)⟩ ∈ t → Http.isSuccess a.status = false →
        (∀ message, Says a.body message → response = refusal message) ∧
        ((∀ message, ¬ Says a.body message) →
          response = refusal ((Http.reason? a.status).getD "unknown error"))) ∧
    -- a reply that cannot be decoded
    (∀ t response, Ends (answered (suggest r handler query headers)) t response →
      Undecodable t → response = refusal "search backend unavailable") ∧
    (∀ detail, (ApiError.backend (.decode detail)).response =
      refusal "search backend unavailable") ∧
    -- each call by itself
    ∀ {S S' : Type} (Belong : S → S' → Prop) (net : Http.Request → S → Outcome × S)
      (net' : Http.Request → S' → Outcome × S') (s : S) (s' : S') (q : Call),
      GoAlong (fun _ => Alike) Belong net net' → Belong s s' →
      ((Call.make r q).run net s).1 = ((Call.make r q).run net' s').1 := by
  have hfault : ∀ (a : Reply), Http.isSuccess a.status = false →
      interpret (.ok a) = .error (.status a.status (complaint a.status a.body)) := by
    intro a ha
    simp [interpret, ha]
  refine ⟨fun h hmem => ⟨?_, ?_⟩, fun t response h hu => (ends_suggest h).of_undecodable hu,
    response_of_decode, fun Belong net net' s s' q hw hs => ((related_make r q).run hw hs).1⟩
  · intro S S' Belong net net' s s' hw hs
    exact (Dialogue.Related.answer (related_make r) _).run hw hs
  · intro t response c path params a hends ha hfails
    rw [hfault a hfails] at ha
    have hresponse : response = refusal (complaint a.status a.body) := by
      rw [← response_of_status a.status]
      rcases List.mem_cons.mp hmem with rfl | hmem
      · exact (ends_search hends).of_fault ha
      · rw [List.mem_singleton.mp hmem] at hends
        exact (ends_suggest hends).of_backend ha
    constructor
    · intro message hsaid
      rw [hresponse, Backend.complaint_of_said hsaid]
    · intro hsaid
      rw [hresponse, Backend.complaint_of_unsaid hsaid]

/-! ## A search that the backend refuses -/

/-- A network in which the caller may see one project only and every call of the backend fails
with the same body. -/
def failingNet (body : String) : Http.Request → Unit → Outcome × Unit
  | ⟨.post, _, _⟩, s =>
    (.ok ⟨200, some "application/json", none, "\x7b\"filter\":\"project:7\"\x7d"⟩, s)
  | ⟨.get, _, _⟩, s => (.ok ⟨400, some "application/json", none, body⟩, s)

/-- An error body that tells where the backend runs, and one that does not. -/
def talkative : String :=
  "\x7b\"error\":\x7b\"msg\":\"undefined field x\",\"trace\":\"at 10.0.0.7\"\x7d\x7d"

def terse : String := "\x7b\"error\":\x7b\"msg\":\"undefined field x\"\x7d\x7d"

/-- The caller gets the same of both. -/
theorem backend_tells_message_talkative :
    let d := (answered (search sampleRuntime "select" "q=x" [])).answer (Call.make sampleRuntime)
    talkative ≠ terse ∧ (d.run (failingNet talkative) ()).1 = (d.run (failingNet terse) ()).1 ∧
      (d.run (failingNet talkative) ()).1 = refusal "undefined field x" := by
  intro d
  have hmessage : ∀ message, Says terse message ↔ Says talkative message := by
    have heq : Backend.errorMessage? terse = Backend.errorMessage? talkative := by decide +kernel
    intro message
    rw [← errorMessage?_eq_some_iff, ← errorMessage?_eq_some_iff, heq]
  have hw : GoAlong (fun _ => Alike) Eq (failingNet talkative) (failingNet terse) := by
    rintro ⟨_ | _, _, _⟩ _ _ _
    · exact ⟨.failing _ _ rfl rfl rfl hmessage, rfl⟩
    · exact ⟨.same _, rfl⟩
  obtain ⟨hhandlers, -⟩ := backend_tells_message sampleRuntime "select" "q=x" []
  have hsame := ((hhandlers _ List.mem_cons_self).1 Eq _ _ () () hw rfl).1
  refine ⟨by decide, hsame, ?_⟩
  show (d.run (failingNet talkative) ()).1 = _
  decide +kernel

end SearchGateway.Gateway
