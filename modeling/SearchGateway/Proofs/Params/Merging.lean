import Mathlib.Data.List.TakeWhile
import SearchGateway.Proofs.Params.Pairs

/-!
# A merger over whole runs

A merger is called any number of times, and what a call gives back depends on the calls before
it.  `History.answer` tells that from the history alone, without a state: the working pairs
start as the defaults or, after a clearing, as what that left, and are edited by the writes up
to the first read; every later read gives the overlay of those same pairs, and a write after
it is refused.

    (start defaults forced cumulative).replies calls =
      History.answers defaults forced cumulative [] calls            (replies_eq_answers)

`Follows` is the invariant that carries the proof: it says what the merger holds after a
history.  `call_follows` keeps it over one call.
-/

namespace SearchGateway.Merger

open Entries (amend)

/-! ## Calls -/

/-- Something that is asked of a merger. -/
inductive Call
  | put (key value : String)
  | putAll (key : String) (values : List String)
  | add (key value : String)
  | addAll (key : String) (values : List String)
  | remove (key : String)
  | get (key : String)
  | params
  | pairs
  | clear (keepDefaults : Bool)
  deriving DecidableEq, Repr

inductive Reply
  | done
  | refused (why : Refused)
  | values (values : Option (List String))
  | params (entries : List (String × List String))
  | pairs (pairs : List (String × String))
  deriving DecidableEq, Repr

/-- A refused write leaves the merger as it is. -/
def written (m : Merger) : Except Refused Merger → Reply × Merger
  | .ok m' => (.done, m')
  | .error e => (.refused e, m)

/-- One call: the reply, and the merger afterwards. -/
def call (m : Merger) : Call → Reply × Merger
  | .put k v => m.written (m.put k v)
  | .putAll k vs => m.written (m.putAll k vs)
  | .add k v => m.written (m.add k v)
  | .addAll k vs => m.written (m.addAll k vs)
  | .remove k => m.written (m.remove k)
  | .get k => (.values (m.get? k), m.freeze)
  | .params => (.params m.params.entries, m.freeze)
  | .pairs => (.pairs m.params.pairs, m.freeze)
  | .clear keep => (.done, m.clear keep)

/-- The replies to calls made one after the other. -/
def replies (m : Merger) : List Call → List Reply
  | [] => []
  | c :: r => (m.call c).1 :: (m.call c).2.replies r

/-- The merger after calls. -/
def after (m : Merger) (calls : List Call) : Merger := calls.foldl (fun m c => (m.call c).2) m

namespace Call

/-- Whether a call reads, and so freezes. -/
def reads : Call → Bool
  | get _ | params | pairs => true
  | _ => false

def clears : Call → Bool
  | clear _ => true
  | _ => false

/-- The name that a write is about. -/
def key? : Call → Option String
  | put k _ | putAll k _ | add k _ | addAll k _ | remove k => some k
  | _ => none

/-- What a write makes of the working pairs. -/
def edit : Call → List (String × List String) → List (String × List String)
  | put k v, es => amend k (fun _ => [v]) es
  | putAll k vs, es => amend k (fun _ => vs) es
  | add k v, es => amend k (fun old => old.getD [] ++ [v]) es
  | addAll k vs, es => amend k (fun old => old.getD [] ++ vs) es
  | remove k, es => es.filter fun e => e.1 ≠ k
  | _, es => es

end Call

/-! ## Histories -/

/-- The calls made so far, the first one first. -/
abbrev History := List Call

namespace History

/-- What the working pairs were when the merger was last cleared, and the calls since. -/
def span (defaults : Params) (past : History) : List (String × List String) × List Call :=
  past.foldl (fun s c =>
    match c with
    | .clear keep => (if keep then defaults.entries else [], [])
    | c => (s.1, s.2 ++ [c])) (defaults.entries, [])

/-- Whether something has been read since the last clearing. -/
def closed (defaults : Params) (past : History) : Bool := (span defaults past).2.any Call.reads

/-- The working pairs as they stood at the first read since the last clearing; where there was
none, as they stand. -/
def working (defaults : Params) (past : History) : List (String × List String) :=
  ((span defaults past).2.takeWhile fun c => !c.reads).foldl (fun es c => c.edit es)
    (span defaults past).1

variable (defaults forced : Params) (cumulative : List String)

/-- What a read sees. -/
def seen (past : History) : List (String × List String) :=
  overlay cumulative forced.entries (working defaults past)

/-- The reply to a call after a history. -/
def answer (past : History) (c : Call) : Reply :=
  match c with
  | .get k => .values (Entries.find? k (seen defaults forced cumulative past))
  | .params => .params (seen defaults forced cumulative past)
  | .pairs => .pairs ((seen defaults forced cumulative past).flatMap fun e =>
      e.2.map fun v => (e.1, v))
  | .clear _ => .done
  | .put k _ | .putAll k _ | .add k _ | .addAll k _ | .remove k =>
    if closed defaults past then .refused ⟨k⟩ else .done

/-- The replies to calls made after a history. -/
def answers (past : History) : List Call → List Reply
  | [] => []
  | c :: r => answer defaults forced cumulative past c :: answers (past ++ [c]) r

/-! ## Lemmas on histories -/

variable {defaults}

theorem span_clear (past : History) (keep : Bool) :
    span defaults (past ++ [.clear keep]) = (if keep then defaults.entries else [], []) := by
  simp [span, List.foldl_append]

theorem span_snoc {past : History} {c : Call} (h : c.clears = false) :
    span defaults (past ++ [c]) =
      ((span defaults past).1, (span defaults past).2 ++ [c]) := by
  unfold span
  rw [List.foldl_append]
  cases c with
  | clear keep => simp [Call.clears] at h
  | _ => rfl

theorem closed_snoc {past : History} {c : Call} (h : c.clears = false) :
    closed defaults (past ++ [c]) = (closed defaults past || c.reads) := by
  simp [closed, span_snoc h]

/-- Up to the first call that passes, a list does not change when something is added. -/
theorem takeWhile_snoc_of_any {past : List Call} (c : Call) (h : past.any Call.reads = true) :
    (past ++ [c]).takeWhile (fun c => !c.reads) = past.takeWhile fun c => !c.reads := by
  rw [List.takeWhile_append, if_neg]
  intro hlen
  obtain ⟨d, hd, hr⟩ := List.any_eq_true.mp h
  have hpre : past.takeWhile (fun c => !c.reads) = past :=
    (List.takeWhile_prefix _).eq_of_length hlen
  have := List.takeWhile_eq_self_iff.mp hpre d hd
  simp [hr] at this

/-- After a read the working pairs stay as they were. -/
theorem working_of_closed {past : History} {c : Call} (hc : c.clears = false)
    (h : closed defaults past = true) :
    working defaults (past ++ [c]) = working defaults past := by
  unfold working
  rw [span_snoc hc, takeWhile_snoc_of_any c h]

/-- Before that each call edits them. -/
theorem working_of_open {past : History} {c : Call} (hc : c.clears = false)
    (h : closed defaults past = false) :
    working defaults (past ++ [c]) = c.edit (working defaults past) := by
  have hall : ∀ d ∈ (span defaults past).2, d.reads = false := by
    intro d hd
    have := List.any_eq_false.mp h d hd
    simpa using this
  have htake : (span defaults past).2.takeWhile (fun c => !c.reads) = (span defaults past).2 :=
    List.takeWhile_eq_self_iff.mpr fun d hd => by simp [hall d hd]
  unfold working
  rw [span_snoc hc, htake, List.takeWhile_append, htake, if_pos rfl, List.foldl_append]
  cases c <;> rfl

end History

/-! ## The invariant -/

/-- What a merger holds after a history. -/
structure Follows (defaults forced : Params) (cumulative : List String) (past : History)
    (m : Merger) : Prop where
  defaults_eq : m.defaults = defaults
  forced_eq : m.forced = forced
  cumulative_eq : m.cumulative = cumulative
  frozen_eq : m.frozen = History.closed defaults past
  values_eq : m.values.entries =
    if History.closed defaults past then History.seen defaults forced cumulative past
    else History.working defaults past

section
variable {defaults forced : Params} {cumulative : List String} {past : History} {m : Merger}

theorem follows_start : Follows defaults forced cumulative [] (start defaults forced cumulative) :=
  ⟨rfl, rfl, rfl, rfl, rfl⟩

/-- Frozen or not, a reader sees the overlay of the working pairs. -/
theorem Follows.params_eq (h : Follows defaults forced cumulative past m) :
    m.params.entries = History.seen defaults forced cumulative past := by
  have hv := h.values_eq
  unfold params freeze
  cases hf : m.frozen with
  | true =>
    have hc : History.closed defaults past = true := h.frozen_eq ▸ hf
    simpa [hc] using hv
  | false =>
    have hc : History.closed defaults past = false := h.frozen_eq ▸ hf
    have hw : m.values.entries = History.working defaults past := by simpa [hc] using hv
    simp only [Bool.false_eq_true, if_false]
    rw [entries_merged, h.forced_eq, h.cumulative_eq, hw]
    rfl

theorem freeze_fields (m : Merger) : m.freeze.defaults = m.defaults ∧
    m.freeze.forced = m.forced ∧ m.freeze.cumulative = m.cumulative := by
  unfold freeze
  split <;> exact ⟨rfl, rfl, rfl⟩

/-- A read freezes and changes nothing that a later read sees. -/
theorem Follows.freeze {c : Call} (h : Follows defaults forced cumulative past m)
    (hc : c.reads = true) : Follows defaults forced cumulative (past ++ [c]) m.freeze := by
  have hclr : c.clears = false := by cases c <;> first | rfl | cases hc
  have hclosed : History.closed defaults (past ++ [c]) = true := by
    rw [History.closed_snoc hclr, hc, Bool.or_true]
  have hworking : History.working defaults (past ++ [c]) = History.working defaults past := by
    cases ho : History.closed defaults past with
    | true => exact History.working_of_closed hclr ho
    | false =>
      rw [History.working_of_open hclr ho]
      cases c <;> first | rfl | cases hc
  obtain ⟨hd, hf, hk⟩ := freeze_fields m
  refine ⟨hd.trans h.defaults_eq, hf.trans h.forced_eq, hk.trans h.cumulative_eq, ?_, ?_⟩
  · rw [hclosed, frozen_freeze]
  · rw [hclosed, if_pos rfl]
    unfold History.seen
    rw [hworking]
    exact h.params_eq

theorem Follows.clear (h : Follows defaults forced cumulative past m) (keep : Bool) :
    Follows defaults forced cumulative (past ++ [.clear keep]) (m.clear keep) := by
  have hclosed : History.closed defaults (past ++ [.clear keep]) = false := by
    simp [History.closed, History.span_clear]
  refine ⟨h.defaults_eq, h.forced_eq, h.cumulative_eq, hclosed.symm, ?_⟩
  rw [hclosed]
  unfold History.working
  rw [History.span_clear]
  cases keep with
  | true => simp [Merger.clear, h.defaults_eq]
  | false => simp [Merger.clear, Ordered.empty]

/-- Every write goes through `write`, with a change that edits the pairs. -/
theorem call_of_key {c : Call} {k : String} (h : c.key? = some k) (m : Merger) :
    ∃ f : Params → Params, (∀ ps, (f ps).entries = c.edit ps.entries) ∧
      m.call c = m.written (m.write k f) := by
  cases c with
  | put k' v =>
    cases h
    exact ⟨fun ps => ps.insert k [v], fun ps => ps.entries_insert _ _, rfl⟩
  | putAll k' vs =>
    cases h
    exact ⟨fun ps => ps.insert k vs, fun ps => ps.entries_insert _ _, rfl⟩
  | add k' v =>
    cases h
    exact ⟨fun ps => ps.addAll k [v], fun ps => ps.entries_alter _ _, rfl⟩
  | addAll k' vs =>
    cases h
    exact ⟨fun ps => ps.addAll k vs, fun ps => ps.entries_alter _ _, rfl⟩
  | remove k' =>
    cases h
    exact ⟨fun ps => ps.erase k, fun ps => ps.entries_erase _, rfl⟩
  | _ => cases h

theorem answer_of_key {c : Call} {k : String} (h : c.key? = some k) :
    History.answer defaults forced cumulative past c =
      if History.closed defaults past then .refused ⟨k⟩ else .done := by
  cases c <;> simp_all [Call.key?, History.answer]

/-- A write is refused after a read and edits the working pairs before. -/
theorem Follows.write {c : Call} {k : String} (h : Follows defaults forced cumulative past m)
    (hk : c.key? = some k) :
    (m.call c).1 = History.answer defaults forced cumulative past c ∧
      Follows defaults forced cumulative (past ++ [c]) (m.call c).2 := by
  obtain ⟨f, hf, hcall⟩ := call_of_key hk m
  have hclr : c.clears = false := by cases c <;> first | rfl | cases hk
  have hrd : c.reads = false := by cases c <;> first | rfl | cases hk
  have hclosed : History.closed defaults (past ++ [c]) = History.closed defaults past := by
    rw [History.closed_snoc hclr, hrd, Bool.or_false]
  rw [answer_of_key hk, hcall, Merger.write]
  cases ho : History.closed defaults past with
  | true =>
    have hfr : m.frozen = true := h.frozen_eq.trans ho
    rw [if_pos hfr]
    refine ⟨rfl, h.defaults_eq, h.forced_eq, h.cumulative_eq, ?_, ?_⟩
    · rw [hclosed]
      exact h.frozen_eq
    · rw [hclosed]
      unfold History.seen
      rw [History.working_of_closed hclr ho]
      exact h.values_eq
  | false =>
    have hfr : m.frozen = false := h.frozen_eq.trans ho
    have hv : m.values.entries = History.working defaults past := by
      simpa [ho] using h.values_eq
    rw [if_neg (by simp [hfr])]
    refine ⟨rfl, h.defaults_eq, h.forced_eq, h.cumulative_eq, ?_, ?_⟩
    · rw [hclosed]
      exact h.frozen_eq
    · rw [hclosed, ho, if_neg (by simp), History.working_of_open hclr ho, ← hv]
      exact hf m.values

/-- One call: the reply is the one that the history gives, and the invariant is kept. -/
theorem call_follows (h : Follows defaults forced cumulative past m) (c : Call) :
    (m.call c).1 = History.answer defaults forced cumulative past c ∧
      Follows defaults forced cumulative (past ++ [c]) (m.call c).2 := by
  cases c with
  | get k =>
    refine ⟨?_, h.freeze rfl⟩
    show Reply.values (Entries.find? k m.params.entries) = _
    rw [h.params_eq]
    rfl
  | params =>
    refine ⟨?_, h.freeze rfl⟩
    show Reply.params m.params.entries = _
    rw [h.params_eq]
    rfl
  | pairs =>
    refine ⟨?_, h.freeze rfl⟩
    show Reply.pairs (m.params.entries.flatMap _) = _
    rw [h.params_eq]
    rfl
  | clear keep => exact ⟨rfl, h.clear keep⟩
  | _ => exact h.write rfl

/-- Any number of calls after a history. -/
theorem replies_of_follows (h : Follows defaults forced cumulative past m) (calls : List Call) :
    m.replies calls = History.answers defaults forced cumulative past calls := by
  induction calls generalizing m past with
  | nil => rfl
  | cons c r ih =>
    obtain ⟨hreply, hnext⟩ := call_follows h c
    simp only [replies, History.answers]
    rw [hreply, ih hnext]

end

/-- Until it is cleared a frozen merger stays as it is. -/
theorem after_of_frozen {m : Merger} {calls : List Call} (hm : m.frozen = true)
    (h : ∀ c ∈ calls, c.clears = false) : m.after calls = m := by
  have hfreeze : m.freeze = m := by simp [freeze, hm]
  induction calls with
  | nil => rfl
  | cons c r ih =>
    have hstep : (m.call c).2 = m := by
      cases hk : c.key? with
      | some k =>
        obtain ⟨f, -, hcall⟩ := call_of_key hk m
        rw [hcall, Merger.write, hm]
        rfl
      | none =>
        cases c with
        | get k => exact hfreeze
        | params => exact hfreeze
        | pairs => exact hfreeze
        | clear keep => exact absurd (h _ List.mem_cons_self) (by simp [Call.clears])
        | _ => cases hk
    unfold after
    rw [List.foldl_cons, hstep]
    exact ih fun d hd => h d (List.mem_cons_of_mem _ hd)

theorem after_append (m : Merger) (calls later : List Call) :
    m.after (calls ++ later) = (m.after calls).after later := List.foldl_append

/-! ## Top theorem -/

/-- **A merger answers as its history says**, whatever is asked of it and in which order.  Once
it is frozen nothing but a clearing changes it. -/
theorem replies_eq_answers (defaults forced : Params) (cumulative : List String)
    (calls : List Call) :
    (start defaults forced cumulative).replies calls =
        History.answers defaults forced cumulative [] calls ∧
      ∀ later : List Call, (∀ c ∈ later, c.clears = false) →
        ((start defaults forced cumulative).after calls).frozen = true →
        (start defaults forced cumulative).after (calls ++ later) =
          (start defaults forced cumulative).after calls := by
  refine ⟨replies_of_follows follows_start calls, ?_⟩
  intro later hlater hfrozen
  rw [after_append]
  exact after_of_frozen hfrozen hlater

example :
    (start (Params.ofPairs [("rows", "10")]) (Params.ofPairs [("fq", "open:1")]) ["fq"]).replies
        [.add "fq" "lang:en", .get "fq", .put "rows" "20", .clear true, .params] =
      [.done, .values (some ["lang:en", "open:1"]), .refused ⟨"rows"⟩, .done,
        .params [("rows", ["10"]), ("fq", ["open:1"])]] := by
  decide

end SearchGateway.Merger
