import Mathlib.Data.List.Induction

/-!
# What is replaced as a whole or not at all

Something is in force.  A call makes a new one of its input and puts it in force, or it fails;
in between there is nothing.  Whoever asks what is in force is handed it and keeps it.  What
this means for a whole history of calls does not depend on what is kept.

    Kept                      how something is replaced, and what is handed out of it
    Kept.run                  a history: calls, and askings in between
    Swaps make                a call puts in force what is made of its input, or changes nothing
    InForce make start is s   after the inputs `is` it is `s` that is in force
    Swaps.allOrNothing        every history of something that swaps
-/

namespace SearchGateway

variable {σ ι τ ε : Type}

/-! ## Histories -/

/-- Something in force: what a call does to it, and what is handed out of it. -/
structure Kept (σ ι τ ε : Type) where
  call : σ → ι → σ × Except ε Unit
  hand : σ → τ

namespace Kept

/-- What can happen to something in force. -/
inductive Event (ι : Type)
  | call (input : ι)
  | ask

/-- What has come of a history: what is in force, what was handed out, and how the calls
ended. -/
structure Past (σ τ ε : Type) where
  current : σ
  handed : List τ
  outcomes : List (Except ε Unit)

variable (k : Kept σ ι τ ε)

def step (p : Past σ τ ε) : Event ι → Past σ τ ε
  | .call i =>
    let (current, outcome) := k.call p.current i
    { p with current, outcomes := p.outcomes ++ [outcome] }
  | .ask => { p with handed := p.handed ++ [k.hand p.current] }

/-- A history from what is in force at first. -/
def run (start : σ) (es : List (Event ι)) : Past σ τ ε := es.foldl k.step ⟨start, [], []⟩

/-- The inputs of the calls in a history. -/
def inputs (es : List (Event ι)) : List ι :=
  es.filterMap fun
    | .call i => some i
    | .ask => none

/-! ## All or nothing -/

/-- What is in force after some inputs: what the last of them of which something could be made
has become, or what was there at first if nothing could be made of any of them. -/
inductive InForce (make : ι → Except ε σ) (start : σ) : List ι → σ → Prop
  | first (inputs : List ι) (h : ∀ i ∈ inputs, ∃ e, make i = .error e) :
    InForce make start inputs start
  | last (before : List ι) (i : ι) (after : List ι) (s : σ) (h : make i = .ok s)
    (hafter : ∀ j ∈ after, ∃ e, make j = .error e) :
    InForce make start (before ++ i :: after) s

/-- A call puts in force what is made of its input; where nothing can be made of it, the call
says why and changes nothing. -/
structure Swaps (make : ι → Except ε σ) : Prop where
  of_ok : ∀ s i n, make i = .ok n → k.call s i = (n, .ok ())
  of_error : ∀ s i e, make i = .error e → k.call s i = (s, .error e)

/-- What holds of every history that begins with `start`. -/
structure AllOrNothing (make : ι → Except ε σ) (start : σ) : Prop where
  inForce : ∀ es, InForce make start (inputs es) (k.run start es).current
  /-- A call that succeeds replaces everything. -/
  replaced : ∀ es i n, make i = .ok n → k.run start (es ++ [.call i]) =
    { k.run start es with current := n, outcomes := (k.run start es).outcomes ++ [.ok ()] }
  /-- A call that fails returns the error and leaves everything as it was. -/
  unmoved : ∀ es i e, make i = .error e → k.run start (es ++ [.call i]) =
    { k.run start es with outcomes := (k.run start es).outcomes ++ [.error e] }
  /-- What is handed out at some time is what is in force then, whatever happens later. -/
  handed : ∀ before after,
    (k.run start (before ++ .ask :: after)).handed[(k.run start before).handed.length]? =
      some (k.hand (k.run start before).current)

/-! ## Lemmas -/

variable {k} {make : ι → Except ε σ} {start : σ}

theorem swaps_of_eq (h : ∀ s i, k.call s i = match make i with
    | .ok n => (n, .ok ())
    | .error e => (s, .error e)) : k.Swaps make where
  of_ok s i n hi := by rw [h, hi]
  of_error s i e hi := by rw [h, hi]

theorem run_concat (es : List (Event ι)) (e : Event ι) :
    k.run start (es ++ [e]) = k.step (k.run start es) e := by
  unfold run
  rw [List.foldl_append]
  rfl

theorem inputs_concat_call (es : List (Event ι)) (i : ι) :
    inputs (es ++ [.call i]) = inputs es ++ [i] := by
  simp [inputs]

theorem inputs_map_call (is : List ι) : inputs (is.map .call) = is := by
  induction is with
  | nil => rfl
  | cons i r ih => exact congrArg (i :: ·) ih

theorem inputs_concat_ask (es : List (Event ι)) : inputs (es ++ [.ask]) = inputs es := by
  simp [inputs]

/-- A history that goes on takes nothing back of what was handed out. -/
theorem handed_run_append (k : Kept σ ι τ ε) (start : σ) (before after : List (Event ι)) :
    (k.run start before).handed <+: (k.run start (before ++ after)).handed := by
  induction after using List.reverseRecOn with
  | nil => simp
  | append_singleton after e ih =>
    rw [← List.append_assoc, run_concat]
    cases e with
    | call i => exact ih
    | ask => exact ih.trans (List.prefix_append _ _)

namespace InForce

variable {is : List ι} {i : ι} {s n : σ} {e : ε}

theorem concat_of_ok (h : make i = .ok n) : InForce make start (is ++ [i]) n :=
  .last is i [] n h fun j hj => by cases hj

theorem concat_of_error (hs : InForce make start is s) (h : make i = .error e) :
    InForce make start (is ++ [i]) s := by
  have hconcat : ∀ {js : List ι}, (∀ j ∈ js, ∃ e, make j = .error e) →
      ∀ j ∈ js ++ [i], ∃ e, make j = .error e := by
    intro js hjs j hj
    rcases List.mem_append.mp hj with hj | hj
    · exact hjs j hj
    · rw [List.mem_singleton.mp hj]
      exact ⟨e, h⟩
  cases hs with
  | first _ hall => exact .first _ (hconcat hall)
  | last before j after _ hj hafter =>
    rw [List.append_assoc, List.cons_append]
    exact .last before j _ s hj (hconcat hafter)

/-- If something can be made of the last input, it is in force. -/
theorem eq_of_getLast? (h : InForce make start is s) (hlast : is.getLast? = some i)
    (hi : make i = .ok n) : s = n := by
  have hgood : ∀ e, make i ≠ .error e := fun e he => by
    rw [hi] at he
    cases he
  cases h with
  | first _ hall =>
    obtain ⟨e, he⟩ := hall i (List.mem_of_getLast? hlast)
    exact absurd he (hgood e)
  | last before j after _ hj hafter =>
    rw [List.getLast?_append, List.getLast?_cons] at hlast
    cases hl : after.getLast? with
    | none =>
      rw [hl] at hlast
      cases hlast
      exact Except.ok.inj (hj.symm.trans hi)
    | some k =>
      have hk : k = i := by
        rw [hl] at hlast
        exact Option.some.inj hlast
      obtain ⟨e, he⟩ := hafter i (hk ▸ List.mem_of_getLast? hl)
      exact absurd he (hgood e)

/-- What is in force was there at first, or was made of an input. -/
theorem eq_or_made (h : InForce make start is s) : s = start ∨ ∃ i ∈ is, make i = .ok s := by
  cases h with
  | first => exact .inl rfl
  | last before i after _ hi => exact .inr ⟨i, by simp, hi⟩

end InForce

/-! ## Every history -/

/-- Each call has ended somehow. -/
theorem length_outcomes_run (k : Kept σ ι τ ε) (start : σ) (es : List (Event ι)) :
    (k.run start es).outcomes.length = (inputs es).length := by
  induction es using List.reverseRecOn with
  | nil => rfl
  | append_singleton es e ih =>
    rw [run_concat]
    cases e with
    | call i =>
      rw [inputs_concat_call, List.length_append, ← ih]
      exact List.length_append
    | ask =>
      rw [inputs_concat_ask, ← ih]
      rfl

namespace Swaps

theorem step_of_ok (h : k.Swaps make) {i : ι} {n : σ} (hi : make i = .ok n)
    (p : Past σ τ ε) :
    k.step p (.call i) = { p with current := n, outcomes := p.outcomes ++ [.ok ()] } := by
  simp only [step, h.of_ok p.current i n hi]

theorem step_of_error (h : k.Swaps make) {i : ι} {e : ε} (hi : make i = .error e)
    (p : Past σ τ ε) :
    k.step p (.call i) = { p with outcomes := p.outcomes ++ [.error e] } := by
  simp only [step, h.of_error p.current i e hi]

theorem inForce_run (h : k.Swaps make) (start : σ) (es : List (Event ι)) :
    InForce make start (inputs es) (k.run start es).current := by
  induction es using List.reverseRecOn with
  | nil => exact .first [] fun i hi => by cases hi
  | append_singleton es e ih =>
    rw [run_concat]
    cases e with
    | ask =>
      rw [inputs_concat_ask]
      exact ih
    | call i =>
      rw [inputs_concat_call]
      cases hi : make i with
      | ok n =>
        rw [h.step_of_ok hi]
        exact .concat_of_ok hi
      | error e =>
        rw [h.step_of_error hi]
        exact ih.concat_of_error hi

/-- **Something that swaps is replaced as a whole or not at all**, over any history. -/
theorem allOrNothing (h : k.Swaps make) (start : σ) : k.AllOrNothing make start where
  inForce es := h.inForce_run start es
  replaced es i n hi := by rw [run_concat, h.step_of_ok hi]
  unmoved es i e hi := by rw [run_concat, h.step_of_error hi]
  handed before after := by
    have hask : (k.run start (before ++ [.ask])).handed =
        (k.run start before).handed ++ [k.hand (k.run start before).current] := by
      rw [run_concat]
      rfl
    have hprefix := handed_run_append k start (before ++ [.ask]) after
    rw [List.append_assoc, List.singleton_append, hask] at hprefix
    obtain ⟨rest, hrest⟩ := hprefix
    rw [← hrest, List.append_assoc, List.getElem?_append_right (Nat.le_refl _), Nat.sub_self]
    rfl

/-- What holds at first and of all that is made holds of whatever is in force. -/
theorem current_run (h : k.Swaps make) {P : σ → Prop} (hstart : P start)
    (hmade : ∀ i n, make i = .ok n → P n) (es : List (Event ι)) :
    P (k.run start es).current := by
  rcases (h.inForce_run start es).eq_or_made with hs | ⟨i, -, hi⟩
  · rw [hs]
    exact hstart
  · exact hmade i _ hi

/-- What holds at first and of all that is made holds of all that was handed out. -/
theorem handed_run (h : k.Swaps make) {P : τ → Prop} (hstart : P (k.hand start))
    (hmade : ∀ i n, make i = .ok n → P (k.hand n)) (es : List (Event ι)) :
    ∀ t ∈ (k.run start es).handed, P t := by
  induction es using List.reverseRecOn with
  | nil =>
    intro t ht
    cases ht
  | append_singleton es e ih =>
    rw [run_concat]
    cases e with
    | call i => exact ih
    | ask =>
      intro t ht
      rcases List.mem_append.mp ht with ht | ht
      · exact ih t ht
      · rw [List.mem_singleton.mp ht]
        exact h.current_run (P := fun s => P (k.hand s)) hstart hmade es

end Swaps

end Kept

end SearchGateway
