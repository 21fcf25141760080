import SearchGateway.Backend.Client
import SearchGateway.Proofs.Json.Documents

/-!
# What responses say

A response with suggestions is printed as one document, and reads back from it.  Of a response
with documents only their number is taken, of an error body only its message; each stands in one
place of the body.

    document header lists      lists of suggestions as they are printed behind a header
    toJson_counted             a response whose lists are counted anew is printed so
    read_print_toJson          a response in range reads back from its print
    inRange_of_read            every response that is read is in range
    Counts body n              a body tells a number of documents
    counts_of_read             it is the number that is read
    Counts.unique              and the only one
    Says body message          an error body says a message
    errorMessage?_eq_some_iff  it is the message that is taken
-/

namespace SearchGateway.Backend

open Json (Decoder HasField Node ReadsBack Record Undoes Value hasField_of_read of_required)
open Number (maxInt64 maxUInt64 minInt64)

/-! ## Algorithm -/

/-- A header as it is printed; the parameters stand there only if the backend has repeated
them. -/
def heading (h : Header) : List (String × Value) :=
  let times := [("status", .number (.int h.status)), ("QTime", .number (.int h.time))]
  match h.params with
  | none => times
  | some params => times ++ [("params", params)]

/-- A list of suggestions as it is printed, behind its length. -/
def listing (suggestions : List Suggestion) : List (String × Value) :=
  [("numFound", .number (.int suggestions.length)),
    ("suggestions", .array (suggestions.map fun s =>
      .object [("term", .text s.term), ("weight", .number (.int s.weight)),
        ("payload", .text s.payload)]))]

/-- Lists of suggestions as they are printed behind a header, under the name of a dictionary and
of what was typed. -/
def document (header : Header) (lists : Ordered (Ordered (List Suggestion))) : Value :=
  .object [("responseHeader", .object (heading header)),
    ("suggest", .object (lists.entries.map fun dictionary =>
      (dictionary.1, .object (dictionary.2.entries.map fun typed =>
        (typed.1, .object (listing typed.2))))))]

/-- Numbers are of the sizes that are read, and the parameters are a value that has been read. -/
structure Header.InRange (h : Header) : Prop where
  status : -0x80000000 ≤ h.status ∧ h.status ≤ 0x7FFFFFFF
  time : minInt64 ≤ h.time ∧ h.time ≤ maxInt64
  params : ∀ p, h.params = some p → p.Fits paramsRoom ∧ p ≠ .null

def Suggestion.InRange (s : Suggestion) : Prop := minInt64 ≤ s.weight ∧ s.weight ≤ maxInt64

structure SuggestResult.InRange (r : SuggestResult) : Prop where
  found : r.found ≤ maxUInt64
  suggestions : ∀ s ∈ r.suggestions, s.InRange

structure SuggestResponse.InRange (r : SuggestResponse) : Prop where
  header : r.header.InRange
  results : ∀ d ∈ r.dictionaries.values, ∀ result ∈ d.values, result.InRange

/-- A body tells a number of documents: it is a document that gives a response, and that gives
the number. -/
def Counts (body : String) (n : Nat) : Prop :=
  ∃ document response, Node.read body = .ok document ∧
    HasField ["responseHeader", "response"] "response" response document ∧
    HasField ["numFound", "start", "numFoundExact", "docs"] "numFound"
      (.number (some (.int n))) response

/-- An error body says a message: it is an object whose member `error` is an object, and that has
the message as its member `msg`. -/
def Says (body message : String) : Prop :=
  ∃ members inner, Value.read body = .ok (.object members) ∧
    members.lookup "error" = some (.object inner) ∧ inner.lookup "msg" = some (.text message)

/-! ## Lemmas -/

/-! ### Plain values -/

theorem integer_eq_some_iff {low high i : Int} {n : Node} :
    Source.integer low high n = some i ↔ n = .number (some (.int i)) ∧ low ≤ i ∧ i ≤ high := by
  show Decoder.intIn low high n = some i ↔ _
  unfold Decoder.intIn
  split
  · next j =>
    constructor
    · intro h
      obtain ⟨hj, heq⟩ := Option.ite_none_right_eq_some.mp h
      cases heq
      exact ⟨rfl, hj⟩
    · rintro ⟨hj, hrange⟩
      cases hj
      exact if_pos hrange
  · next hn =>
    constructor
    · intro h
      cases h
    · rintro ⟨rfl, -⟩
      exact absurd rfl (hn i)

theorem unsigned_eq_some_iff {n : Node} {m : Nat} :
    Source.unsigned 64 n = some m ↔ n = .number (some (.int m)) ∧ m ≤ maxUInt64 := by
  show (Source.integer 0 (maxUInt64 : Int) n).map Int.toNat = some m ↔ _
  rw [Option.map_eq_some_iff]
  simp only [integer_eq_some_iff]
  constructor
  · rintro ⟨i, ⟨rfl, hlow, hhigh⟩, rfl⟩
    rw [Int.toNat_of_nonneg hlow]
    exact ⟨rfl, by omega⟩
  · rintro ⟨rfl, hm⟩
    exact ⟨m, ⟨rfl, by omega, by omega⟩, Int.toNat_natCast m⟩

theorem undoes_integer (low high : Int) :
    Undoes (Source.integer low high) .ofInt fun i => low ≤ i ∧ i ≤ high where
  back _ hi := integer_eq_some_iff.mpr ⟨rfl, hi⟩
  sound _ _ _ hread := (integer_eq_some_iff.mp hread).2

theorem undoes_int32 :
    Undoes Source.int32 .ofInt fun i => -0x80000000 ≤ i ∧ i ≤ 0x7FFFFFFF := undoes_integer _ _

theorem undoes_int64 : Undoes Source.int64 .ofInt fun i => minInt64 ≤ i ∧ i ≤ maxInt64 :=
  undoes_integer _ _

theorem undoes_unsigned : Undoes (Source.unsigned 64) .ofNat fun m => m ≤ maxUInt64 where
  back _ hm := unsigned_eq_some_iff.mpr ⟨rfl, hm⟩
  sound _ _ _ hread := (unsigned_eq_some_iff.mp hread).2

/-! ### Reading and printing -/

theorem undoes_suggestion : Undoes Suggestion.decode Suggestion.toJson Suggestion.InRange where
  back s hs := by
    have hread : Source.record ["term", "weight", "payload"] s.toJson.toNode =
        some [("term", .text (some s.term)), ("weight", (Value.ofInt s.weight).toNode),
          ("payload", .text (some s.payload))] := rfl
    unfold Suggestion.decode
    rw [hread]
    show (Source.int64 (Value.ofInt s.weight).toNode).bind _ = _
    rw [undoes_int64.back _ hs]
    rfl
  sound n s hn hread := by
    obtain ⟨r, hr, hread⟩ := Option.bind_eq_some_iff.mp hread
    obtain ⟨term, -, hread⟩ := Option.bind_eq_some_iff.mp hread
    obtain ⟨weight, hweight, hread⟩ := Option.bind_eq_some_iff.mp hread
    obtain ⟨payload, -, hread⟩ := Option.bind_eq_some_iff.mp hread
    cases hread
    exact undoes_int64.of_optional (by decide) hn hr (by simp) hweight

theorem undoes_suggestResult :
    Undoes SuggestResult.decode SuggestResult.toJson SuggestResult.InRange where
  back r hr := by
    have hread : Source.record ["numFound", "suggestions"] r.toJson.toNode =
        some [("numFound", (Value.ofNat r.found).toNode),
          ("suggestions", (Value.array (r.suggestions.map Suggestion.toJson)).toNode)] := rfl
    unfold SuggestResult.decode
    rw [hread]
    show (Source.unsigned 64 (Value.ofNat r.found).toNode).bind _ = _
    rw [undoes_unsigned.back _ hr.found]
    show (Source.list Suggestion.decode
      (Value.array (r.suggestions.map Suggestion.toJson)).toNode).bind _ = _
    rw [undoes_suggestion.list.back _ hr.suggestions]
    rfl
  sound n r hn hread := by
    obtain ⟨fields, hfields, hread⟩ := Option.bind_eq_some_iff.mp hread
    obtain ⟨found, hfound, hread⟩ := Option.bind_eq_some_iff.mp hread
    obtain ⟨suggestions, hsuggestions, hread⟩ := Option.bind_eq_some_iff.mp hread
    cases hread
    exact ⟨undoes_unsigned.of_required hn hfields (by simp) hfound,
      undoes_suggestion.list.of_optional (by simp) hn hfields (by simp) hsuggestions⟩

/-- Only null is read as null. -/
theorem eq_null_of_ofNode? {room : Nat} {n : Node} (h : Value.ofNode? room n = some .null) :
    n = .null := by
  cases n with
  | null => rfl
  | bool b => cases h
  | number | text =>
    obtain ⟨_, -, h⟩ := Option.map_eq_some_iff.mp h
    cases h
  | array | object =>
    cases room with
    | zero => cases h
    | succ room =>
      obtain ⟨_, -, h⟩ := Option.map_eq_some_iff.mp h
      cases h

/-- Parameters that the backend has repeated are a value, and not null. -/
theorem option_value_eq_some_iff {room : Nat} {n : Node} {p : Value} :
    Source.option (Decoder.value room) n = some (some p) ↔
      Value.ofNode? room n = some p ∧ p ≠ .null := by
  unfold Source.option Decoder.value
  cases hnull : Source.isNull n with
  | true =>
    have hn : n = .null := by
      cases n with
      | null => rfl
      | _ => cases hnull
    subst hn
    constructor
    · intro h
      cases h
    · rintro ⟨h, hne⟩
      cases h
      exact absurd rfl hne
  | false =>
    show (Value.ofNode? room n).map some = some (some p) ↔ _
    simp only [Option.map_eq_some_iff, Option.some.injEq, exists_eq_right]
    constructor
    · intro h
      refine ⟨h, ?_⟩
      rintro rfl
      rw [eq_null_of_ofNode? h] at hnull
      cases hnull
    · exact fun h => h.1

/-- Parameters are written as they are, and left out where there are none. -/
theorem undoes_params (room : Nat) :
    Undoes (Source.option (Decoder.value room)) (fun params => params.getD .null) fun params =>
      ∀ p, params = some p → p.Fits room ∧ p ≠ .null where
  back params hparams := by
    cases params with
    | none => rfl
    | some p =>
      obtain ⟨hfits, hnull⟩ := hparams p rfl
      exact option_value_eq_some_iff.mpr ⟨Value.ofNode?_toNode hfits, hnull⟩
  sound n params hn hread := by
    rintro p rfl
    obtain ⟨hp, hnull⟩ := option_value_eq_some_iff.mp hread
    exact ⟨Value.fits_of_ofNode? hn hp, hnull⟩

theorem inRange_default : Header.default.InRange :=
  ⟨by decide, by decide, fun p hp => nomatch hp⟩

theorem undoes_header : Undoes Header.decode Header.toJson Header.InRange where
  back h hh := by
    let fields : Record := [("status", (Value.ofInt h.status).toNode),
      ("QTime", (Value.ofInt h.time).toNode)] ++
        (h.params.map fun p => ("params", p.toNode)).toList
    have hread : Source.record ["status", "QTime", "params"] h.toJson.toNode = some fields := by
      unfold fields Header.toJson
      cases h.params <;> rfl
    have hparams : Source.optional fields "params"
        (Source.option (Decoder.value paramsRoom)) none = some h.params := by
      have hback := (undoes_params paramsRoom).back h.params hh.params
      unfold fields
      cases hp : h.params with
      | none => rfl
      | some p =>
        rw [hp] at hback
        exact hback
    unfold Header.decode
    rw [hread]
    show (Source.int32 (Value.ofInt h.status).toNode).bind _ = _
    rw [undoes_int32.back _ hh.status]
    show (Source.int64 (Value.ofInt h.time).toNode).bind _ = _
    rw [undoes_int64.back _ hh.time]
    show (Source.optional fields "params" _ none).bind _ = _
    rw [hparams]
    rfl
  sound n h hn hread := by
    obtain ⟨r, hr, hread⟩ := Option.bind_eq_some_iff.mp hread
    obtain ⟨status, hstatus, hread⟩ := Option.bind_eq_some_iff.mp hread
    obtain ⟨time, htime, hread⟩ := Option.bind_eq_some_iff.mp hread
    obtain ⟨params, hparams, hread⟩ := Option.bind_eq_some_iff.mp hread
    cases hread
    exact ⟨undoes_int32.of_optional inRange_default.status hn hr (by simp) hstatus,
      undoes_int64.of_optional inRange_default.time hn hr (by simp) htime,
      (undoes_params _).of_optional inRange_default.params hn hr (by simp) hparams⟩

theorem undoes_suggestResponse :
    Undoes SuggestResponse.decode SuggestResponse.toJson SuggestResponse.InRange where
  back x hx := by
    have hread : Source.record ["responseHeader", "suggest"] x.toJson.toNode =
        some [("responseHeader", x.header.toJson.toNode),
          ("suggest", (Value.ofMap (.ofMap SuggestResult.toJson) x.dictionaries).toNode)] := rfl
    unfold SuggestResponse.decode
    rw [hread]
    show (Header.decode x.header.toJson.toNode).bind _ = _
    rw [undoes_header.back _ hx.header]
    show (Source.map (Source.map SuggestResult.decode)
      (Value.ofMap (.ofMap SuggestResult.toJson) x.dictionaries).toNode).bind _ = _
    rw [undoes_suggestResult.map.map.back _ hx.results]
    rfl
  sound n x hn hread := by
    obtain ⟨r, hr, hread⟩ := Option.bind_eq_some_iff.mp hread
    obtain ⟨header, hheader, hread⟩ := Option.bind_eq_some_iff.mp hread
    obtain ⟨dictionaries, hdictionaries, hread⟩ := Option.bind_eq_some_iff.mp hread
    cases hread
    exact ⟨undoes_header.of_optional inRange_default hn hr (by simp) hheader,
      undoes_suggestResult.map.map.of_optional (fun d hd => absurd hd List.not_mem_nil) hn hr
        (by simp) hdictionaries⟩

/-! ### What is printed -/

section

variable {room : Nat} {x : Float}

theorem Suggestion.InRange.fits {s : Suggestion} (h : s.InRange) : s.toJson.Fits (room + 1) := by
  have hhigh : s.weight ≤ maxUInt64 := Int.le_trans h.2 (by decide)
  refine .object (by simp) ?_
  simp only [List.forall_mem_cons, List.not_mem_nil, false_implies, implies_true, and_true]
  exact ⟨.text, Value.fits_ofInt h.1 hhigh, .text⟩

theorem SuggestResult.InRange.fits {r : SuggestResult} (h : r.InRange) :
    r.toJson.Fits (room + 3) := by
  have hlow : minInt64 ≤ (r.found : Int) := Int.le_trans (by decide) (Int.natCast_nonneg _)
  have hhigh : (r.found : Int) ≤ maxUInt64 := Int.ofNat_le.mpr h.found
  refine .object (by simp) ?_
  simp only [List.forall_mem_cons, List.not_mem_nil, false_implies, implies_true, and_true]
  refine ⟨Value.fits_ofInt hlow hhigh, .array fun v hv => ?_⟩
  obtain ⟨s, hs, rfl⟩ := List.mem_map.mp hv
  exact (h.suggestions s hs).fits

theorem Header.InRange.fits {h : Header} (hh : h.InRange) : h.toJson.Fits (paramsRoom + 1) := by
  obtain ⟨⟨hslow, hshigh⟩, ⟨htlow, hthigh⟩, hparams⟩ := hh
  have hstatus : (Value.ofInt h.status).Fits paramsRoom :=
    Value.fits_ofInt (Int.le_trans (by decide) hslow) (Int.le_trans hshigh (by decide))
  have htime : (Value.ofInt h.time).Fits paramsRoom :=
    Value.fits_ofInt htlow (Int.le_trans hthigh (by decide))
  unfold Header.toJson
  cases hp : h.params with
  | none =>
    refine .object (by simp) ?_
    simpa using ⟨hstatus, htime⟩
  | some p =>
    refine .object (by simp) ?_
    simpa using ⟨hstatus, htime, (hparams p hp).1⟩

theorem SuggestResponse.InRange.fits {r : SuggestResponse} (h : r.InRange) :
    r.toJson.Fits Json.maxDepth := by
  refine .object (by simp) ?_
  simp only [List.forall_mem_cons, List.not_mem_nil, false_implies, implies_true, and_true]
  exact ⟨h.header.fits, Value.fits_ofMap fun d hd => Value.fits_ofMap fun result hresult =>
    (h.results d hd result hresult).fits⟩

theorem float_notMem_suggestResult (r : SuggestResult) :
    .number (.float x) ∉ r.toJson :: r.toJson.parts := by
  intro hx
  obtain ⟨m, hm, hx⟩ := Value.float_mem_object.mp hx
  simp only [List.mem_cons, List.not_mem_nil, or_false] at hm
  rcases hm with rfl | rfl
  · cases List.mem_singleton.mp hx
  · obtain ⟨v, hv, hx⟩ := Value.float_mem_array.mp hx
    obtain ⟨s, hs, rfl⟩ := List.mem_map.mp hv
    obtain ⟨m, hm, hx⟩ := Value.float_mem_object.mp hx
    simp only [List.mem_cons, List.not_mem_nil, or_false] at hm
    rcases hm with rfl | rfl | rfl <;> cases List.mem_singleton.mp hx

/-- The doubles of a response stand in the parameters that the backend has repeated. -/
theorem float_mem_toJson {r : SuggestResponse}
    (hx : .number (.float x) ∈ r.toJson :: r.toJson.parts) :
    ∃ p, r.header.params = some p ∧ .number (.float x) ∈ p :: p.parts := by
  obtain ⟨m, hm, hx⟩ := Value.float_mem_object.mp hx
  simp only [List.mem_cons, List.not_mem_nil, or_false] at hm
  rcases hm with rfl | rfl
  · obtain ⟨m, hm, hx⟩ := Value.float_mem_object.mp hx
    simp only [List.mem_append, List.mem_cons, List.not_mem_nil, or_false] at hm
    rcases hm with (rfl | rfl) | hm
    · cases List.mem_singleton.mp hx
    · cases List.mem_singleton.mp hx
    · obtain ⟨p, hp, rfl⟩ := Option.map_eq_some_iff.mp (Option.mem_toList.mp hm)
      exact ⟨p, hp, hx⟩
  · obtain ⟨d, -, hx⟩ := Value.float_mem_ofMap hx
    obtain ⟨result, -, hx⟩ := Value.float_mem_ofMap hx
    exact absurd hx (float_notMem_suggestResult result)

end

/-- **A response in range reads back from its print**, as far as the doubles in its parameters
do. -/
theorem read_print_toJson {r : SuggestResponse} (h : r.InRange)
    (hx : ∀ p, r.header.params = some p → ∀ x, .number (.float x) ∈ p :: p.parts → ReadsBack x) :
    SuggestResponse.read r.toJson.print = some r := by
  have hread : Node.read r.toJson.print = .ok r.toJson.toNode := by
    refine Node.read_print h.fits fun x hmem => ?_
    obtain ⟨p, hp, hmem⟩ := float_mem_toJson hmem
    exact hx p hp x hmem
  unfold SuggestResponse.read readBody
  rw [hread]
  exact undoes_suggestResponse.back r h

/-- **What a body is read as is in range.** -/
theorem inRange_of_read {body : String} {r : SuggestResponse}
    (h : SuggestResponse.read body = some r) : r.InRange := by
  unfold SuggestResponse.read readBody at h
  split at h
  · next n hn => exact undoes_suggestResponse.sound n r (Json.fits_of_nodeRead hn) h
  · cases h

/-- A response whose lists are counted anew is printed as the document of these lists. -/
theorem toJson_counted (header : Header) (lists : Ordered (Ordered (List Suggestion))) :
    SuggestResponse.toJson ⟨header, lists.map (·.map fun list => ⟨list.length, list⟩)⟩ =
      document header lists := by
  have hheader : header.toJson = .object (heading header) := by
    unfold Header.toJson heading
    cases header.params <;> rfl
  unfold SuggestResponse.toJson document
  simp only [hheader, Value.ofMap_map]
  rfl

/-! ### Numbers and messages -/

/-- The number of documents stands in its place. -/
theorem Documents.hasField_found {n : Node} {d : Documents} (h : Documents.decode n = some d) :
    HasField ["numFound", "start", "numFoundExact", "docs"] "numFound"
      (.number (some (.int d.found))) n := by
  obtain ⟨fields, hfields, h⟩ := Option.bind_eq_some_iff.mp h
  obtain ⟨found, hfound, h⟩ := Option.bind_eq_some_iff.mp h
  obtain ⟨start, -, h⟩ := Option.bind_eq_some_iff.mp h
  obtain ⟨isExact, -, h⟩ := Option.bind_eq_some_iff.mp h
  obtain ⟨documents, -, h⟩ := Option.bind_eq_some_iff.mp h
  cases h
  obtain ⟨m, hm, hunsigned⟩ := of_required hfound
  obtain ⟨rfl, -⟩ := unsigned_eq_some_iff.mp hunsigned
  exact hasField_of_read (by simp) hfields hm

/-- **The number of documents is the one that the body tells.** -/
theorem counts_of_read {body : String} {r : SearchResponse}
    (h : SearchResponse.read body = some r) : Counts body r.response.found := by
  unfold SearchResponse.read readBody at h
  split at h
  · next n hn =>
    obtain ⟨fields, hfields, h⟩ := Option.bind_eq_some_iff.mp h
    obtain ⟨header, -, h⟩ := Option.bind_eq_some_iff.mp h
    obtain ⟨documents, hdocuments, h⟩ := Option.bind_eq_some_iff.mp h
    cases h
    obtain ⟨response, hresponse, hdecode⟩ := of_required hdocuments
    exact ⟨n, response, hn, hasField_of_read (by simp) hfields hresponse,
      Documents.hasField_found hdecode⟩
  · cases h

/-- A body tells one number only. -/
theorem Counts.unique {body : String} {n m : Nat} (hn : Counts body n) (hm : Counts body m) :
    n = m := by
  obtain ⟨document, response, hread, hresponse, hn⟩ := hn
  obtain ⟨document', response', hread', hresponse', hm⟩ := hm
  rw [hread] at hread'
  cases hread'
  obtain rfl := hresponse.unique (by decide) hresponse'
  have heq := hn.unique (by decide) hm
  cases heq
  rfl

/-- **The message of an error body is the text at `error.msg`.** -/
theorem errorMessage?_eq_some_iff {body message : String} :
    errorMessage? body = some message ↔ Says body message := by
  unfold errorMessage? Says
  cases Value.read body with
  | error e => simp
  | ok v =>
    simp only [Option.bind_eq_bind, Option.bind_eq_some_iff, Value.member?_eq_some_iff,
      Value.text?_eq_some_iff, Except.ok.injEq]
    constructor
    · rintro ⟨_, ⟨members, rfl, herror⟩, _, ⟨inner, rfl, hmessage⟩, rfl⟩
      exact ⟨members, inner, rfl, herror, hmessage⟩
    · rintro ⟨members, inner, rfl, herror, hmessage⟩
      exact ⟨_, ⟨members, rfl, herror⟩, _, ⟨inner, rfl, hmessage⟩, rfl⟩

/-- A reply that is no success is told by its message, if it says one. -/
theorem complaint_of_said {status : Nat} {body message : String} (h : Says body message) :
    Client.complaint status body = message := by
  unfold Client.complaint
  rw [errorMessage?_eq_some_iff.mpr h]
  rfl

/-- Else it is told by its status alone. -/
theorem complaint_of_unsaid {status : Nat} {body : String} (h : ∀ message, ¬ Says body message) :
    Client.complaint status body = (Http.reason? status).getD "unknown error" := by
  have hnone : errorMessage? body = none :=
    Option.eq_none_iff_forall_ne_some.mpr fun message hmessage =>
      h message (errorMessage?_eq_some_iff.mp hmessage)
  unfold Client.complaint
  rw [hnone]
  rfl

/-- So bodies that say the same are told alike. -/
theorem complaint_eq {status : Nat} {a b : String} (h : ∀ message, Says b message ↔ Says a message) :
    Client.complaint status b = Client.complaint status a := by
  by_cases hsaid : ∃ message, Says a message
  · obtain ⟨message, hsaid⟩ := hsaid
    rw [complaint_of_said hsaid, complaint_of_said ((h message).mpr hsaid)]
  · have hnot : ∀ message, ¬ Says a message := not_exists.mp hsaid
    rw [complaint_of_unsaid hnot,
      complaint_of_unsaid fun message hb => hnot message ((h message).mp hb)]

end SearchGateway.Backend
