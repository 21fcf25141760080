import SearchGateway.Access.Entitlement
import SearchGateway.Proofs.Text.Trimming

/-!
# When a caller is told to be unrestricted

A look-up of a caller's filter ends well in one way only: the service answers with success, and
its answer is a document that gives the filter as a string.  A string of blanks then restricts
nothing, any other is one clause.  Every other answer, and every failure on the way, is an error.

    Gives                     a document gives a field, once
    Tells                     what came back tells a fragment
    Filter.StandsFor          the filter that a fragment means
    readReply_eq_ok_iff       a look-up ends well
    readReply_eq_error_iff    it fails
-/

namespace SearchGateway.Access

open Json (Node Record)

/-! ## Algorithm -/

/-- A member with a name that means something, and another one than this. -/
def Other (name : String) (m : Option String × Node) : Prop := ∃ k, m.1 = some k ∧ k ≠ name

/-- A document gives a field of that name: it is an object with one such member, or an array of
the field alone. -/
inductive Gives (name : String) (v : Node) : Node → Prop
  | member (before after : List (Option String × Node)) (hbefore : ∀ m ∈ before, Other name m)
    (hafter : ∀ m ∈ after, Other name m) :
    Gives name v (.object (before ++ (some name, v) :: after))
  | item : Gives name v (.array [v])

/-- What came back is a success, and the document in its body gives a fragment as the filter. -/
def Tells (o : Http.Outcome) (fragment : String) : Prop :=
  ∃ reply document, o = .ok reply ∧ 200 ≤ reply.status ∧ reply.status < 300 ∧
    Node.read reply.body = .ok document ∧ Gives "filter" (.text (some fragment)) document

/-- A fragment of blanks means that there is no restriction; any other is one clause, without the
blanks at its ends. -/
def Filter.StandsFor (f : Filter) (fragment : String) : Prop :=
  (f.clauses = [] ∧ ∀ c ∈ fragment.toList, Text.isBlank c = true) ∨
    ∃ clause, f.clauses = [clause] ∧ clause ≠ "" ∧
      Text.Trims fragment.toList clause.toList

/-! ## Lemmas -/

/-! ### Records of one field -/

section Records

variable {name : String} {v : Node} {ms : List (Option String × Node)} {r : Record}

/-- Once the field is found, all the other members have to be others. -/
theorem ofMembers_found_iff : Record.ofMembers [name] [(name, v)] ms = some r ↔
    r = [(name, v)] ∧ ∀ m ∈ ms, Other name m := by
  induction ms with
  | nil => simp [Record.ofMembers, eq_comm]
  | cons m ms ih =>
    obtain ⟨_ | k, n⟩ := m
    · simp [Record.ofMembers, Other]
    · by_cases hk : k = name
      · simp [Record.ofMembers, Other, hk]
      · simp [Record.ofMembers, Other, hk, ih]

theorem not_gives_nil : ¬ Gives name v (.object []) := by
  intro h
  generalize hms : Node.object [] = n at h
  cases h with
  | member before after =>
    injection hms with hms
    cases before <;> cases hms
  | item => cases hms

/-- The first member is the field, and all behind it are others; or it is another one, and the
field is given behind it. -/
theorem gives_cons_iff {m : Option String × Node} : Gives name v (.object (m :: ms)) ↔
    (m = (some name, v) ∧ ∀ m ∈ ms, Other name m) ∨
      (Other name m ∧ Gives name v (.object ms)) := by
  constructor
  · intro h
    -- where the field stands is not known yet, so the document is not a pattern
    generalize hms : Node.object (m :: ms) = n at h
    cases h with
    | member before after hbefore hafter =>
      injection hms with hms
      cases before with
      | nil =>
        injection hms with hm hms
        subst hm hms
        exact .inl ⟨rfl, hafter⟩
      | cons b before =>
        injection hms with hm hms
        subst hm hms
        obtain ⟨hother, hbefore⟩ := List.forall_mem_cons.mp hbefore
        exact .inr ⟨hother, .member before after hbefore hafter⟩
    | item => cases hms
  · rintro (⟨rfl, hafter⟩ | ⟨hother, ⟨before, after, hbefore, hafter⟩ | _⟩)
    · exact .member [] ms (by simp) hafter
    · exact .member (m :: before) after (List.forall_mem_cons.mpr ⟨hother, hbefore⟩) hafter

/-- The members of an object give a field if it is found among them and the record is not
spoilt. -/
theorem ofMembers_lookup_iff :
    (∃ r, Record.ofMembers [name] [] ms = some r ∧ r.lookup name = some v) ↔
      Gives name v (.object ms) := by
  induction ms with
  | nil => simp [Record.ofMembers, not_gives_nil]
  | cons m ms ih =>
    rw [gives_cons_iff, ← ih]
    -- a name that means nothing, the field, another member
    obtain ⟨_ | k, n⟩ := m
    · simp [Record.ofMembers, Other]
    · by_cases hk : k = name
      · simp [Record.ofMembers, Other, hk, ofMembers_found_iff, and_comm]
      · simp [Record.ofMembers, Other, hk]

theorem read_lookup_iff {n : Node} :
    (∃ r, Record.read [name] n = some r ∧ r.lookup name = some v) ↔ Gives name v n := by
  cases n with
  | object ms => exact ofMembers_lookup_iff
  | array items =>
    constructor
    · rintro ⟨r, hr, hv⟩
      match items, hr with
      | [], hr =>
        cases hr
        cases hv
      | [n], hr =>
        cases hr
        have hn : n = v := by simpa using hv
        subst hn
        exact .item
      | _ :: _ :: _, hr => simp [Record.read] at hr
    · rintro ⟨⟩
      exact ⟨[(name, v)], rfl, by simp⟩
  | null | bool _ | number _ | text _ =>
    constructor
    · rintro ⟨r, hr, -⟩
      cases hr
    · rintro ⟨⟩

end Records

/-! ### What is told -/

section Telling

variable {body fragment : String} {f : Filter} {o : Http.Outcome}

/-- Of all values, only a string that means something is read as a filter: null is read as none
at all, and so is what is missing. -/
theorem optional_text_eq_iff {r : Record} {name : String} :
    Source.optional r name (Source.option Source.text) none = some (some fragment) ↔
      r.lookup name = some (.text (some fragment)) := by
  unfold Source.optional
  cases r.lookup name with
  | none => simp
  | some n => cases n <;> simp [Source.option, Source.isNull, Source.text, Json.Decoder.text]

/-- The body gives the filter as a string. -/
theorem readFragment_eq_some_iff : readFragment body = some (some fragment) ↔
    ∃ n, Node.read body = .ok n ∧ Gives "filter" (.text (some fragment)) n := by
  unfold readFragment
  cases Node.read body with
  | error e => simp
  | ok n =>
    show (Record.read ["filter"] n).bind _ = _ ↔ _
    simp only [Option.bind_eq_some_iff, optional_text_eq_iff, read_lookup_iff, Except.ok.injEq,
      exists_eq_left']

theorem ofFragment_eq_iff : Filter.ofFragment fragment = f ↔ f.StandsFor fragment := by
  obtain ⟨clauses⟩ := f
  unfold Filter.ofFragment Filter.StandsFor
  cases ht : Text.trimChars fragment.toList with
  | nil =>
    have hblank := Text.trimChars_eq_nil_iff.mp ht
    have hnone : ¬ ∃ clause : String, clauses = [clause] ∧ clause ≠ "" ∧
        Text.Trims fragment.toList clause.toList := by
      rintro ⟨clause, -, hne, htrims⟩
      rw [← Text.trimChars_eq_iff, ht] at htrims
      exact hne (String.toList_eq_nil_iff.mp htrims.symm)
    simp only [hnone, or_false, and_iff_left hblank, Filter.unrestricted, Filter.mk.injEq]
    exact eq_comm
  | cons c cs =>
    have hsome : ¬ ∀ c ∈ fragment.toList, Text.isBlank c = true := by
      rw [← Text.trimChars_eq_nil_iff, ht]
      simp
    simp only [hsome, and_false, false_or, ← Text.trimChars_eq_iff, ht, Filter.mk.injEq]
    constructor
    · rintro rfl
      exact ⟨_, rfl, by simp, by simp⟩
    · rintro ⟨clause, rfl, -, hc⟩
      rw [hc, String.ofList_toList]

theorem Filter.StandsFor.blank_of_unrestricted (h : f.StandsFor fragment) (hf : f.clauses = []) :
    ∀ c ∈ fragment.toList, Text.isBlank c = true := by
  rcases h with ⟨-, hblank⟩ | ⟨clause, hclause, -⟩
  · exact hblank
  · rw [hf] at hclause
    cases hclause

theorem tells_ok_iff {a : Http.Reply} : Tells (.ok a) fragment ↔
    Http.isSuccess a.status = true ∧ readFragment a.body = some (some fragment) := by
  rw [readFragment_eq_some_iff, Http.isSuccess, Bool.and_eq_true, decide_eq_true_eq,
    decide_eq_true_eq]
  constructor
  · rintro ⟨_, n, ⟨⟩, hlow, hhigh, hread, hgives⟩
    exact ⟨⟨hlow, hhigh⟩, n, hread, hgives⟩
  · rintro ⟨⟨hlow, hhigh⟩, n, hread, hgives⟩
    exact ⟨a, n, rfl, hlow, hhigh, hread, hgives⟩

/-- **A look-up ends well exactly if a fragment is told**, and then with the filter that the
fragment stands for. -/
theorem readReply_eq_ok_iff : readReply o = .ok f ↔
    ∃ fragment, Tells o fragment ∧ f.StandsFor fragment := by
  simp only [← ofFragment_eq_iff]
  cases o with
  | error e =>
    constructor
    · intro h
      cases e <;> cases h
    · rintro ⟨_, ⟨_, _, h, -⟩, -⟩
      cases h
  | ok a =>
    simp only [tells_ok_iff]
    unfold readReply
    cases hs : Http.isSuccess a.status with
    | false => simp [hs]
    | true =>
      rcases hr : readFragment a.body with _ | _ | s
      · simp [hs, hr]
      · simp [hs, hr]
      · simp [hs, hr]

/-- It fails exactly if none is told. -/
theorem readReply_eq_error_iff : (∃ u, readReply o = .error u) ↔
    ¬ ∃ fragment, Tells o fragment := by
  have hok : (∃ f, readReply o = .ok f) ↔ ∃ fragment, Tells o fragment := by
    simp only [readReply_eq_ok_iff, ← ofFragment_eq_iff]
    constructor
    · rintro ⟨_, fragment, h, -⟩
      exact ⟨fragment, h⟩
    · rintro ⟨fragment, h⟩
      exact ⟨_, fragment, h, rfl⟩
  rw [← hok]
  cases readReply o <;> simp

end Telling

end SearchGateway.Access
