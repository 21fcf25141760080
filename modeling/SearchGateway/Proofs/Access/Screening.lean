import SearchGateway.Access.Screening

/-!
# Screening keeps the first candidates that can be found

A branch stops at its own quota and knows nothing of the others, so together the branches may
keep too much.  Cutting their lists off at the end gives what one branch over all candidates
would have kept.

    firstVisible                 the first candidates that can be found
    flatten_map_take             cutting off each part changes nothing about the start
    run_leaf, asked_leaf         what one branch keeps, and what it probes
    run_branches, asked_branches the same for branches from left to right
    length_slices_le             there are no more branches than allowed, nor than candidates
    screen_keeps                 what comes out of all branches, cut off

What a probe says depends on the filter and the title alone.
-/

namespace SearchGateway.Access

open Backend (Suggestion)

/-! ## Algorithm -/

/-- Whether a candidate can be found, going by what its probe says. -/
def isVisible (outcome : String → Except Backend.Fault Nat) (c : Suggestion) : Bool :=
  match outcome c.term with
  | .ok n => 0 < n
  | .error _ => false

/-- The first candidates that can be found, up to a wanted number. -/
def firstVisible (outcome : String → Except Backend.Fault Nat) (wanted : Nat)
    (candidates : List Suggestion) : List Suggestion :=
  (candidates.filter (isVisible outcome)).take wanted

/-- Whether the probe of every candidate says something. -/
def AllProbed (outcome : String → Except Backend.Fault Nat) (candidates : List Suggestion) : Prop :=
  ∀ c ∈ candidates, ∃ n, outcome c.term = .ok n

/-- A world in which the same probe always has the same outcome. -/
def Consistent {S : Type} (world : (q : Inquiry) → S → q.Answer × S)
    (outcome : Filter → String → Except Backend.Fault Nat) : Prop :=
  ∀ f t s, (world (.probe f t) s).1 = outcome f t

/-! ## Lemmas -/

/-! ### Prefixes of parts -/

/-- Cutting off each part at a length leaves the start of that length as it is. -/
theorem flatten_map_take {α : Type} (n : Nat) (parts : List (List α)) :
    (parts.map (·.take n)).flatten.take n = parts.flatten.take n := by
  induction parts with
  | nil => rfl
  | cons p r ih =>
    -- behind the first part only a part of the start is left to compare
    have hrest : ∀ m ≤ n, (r.map (·.take n)).flatten.take m = r.flatten.take m := by
      intro m hm
      have h := congrArg (·.take m) ih
      simp only [List.take_take, Nat.min_eq_left hm] at h
      exact h
    rw [List.map_cons, List.flatten_cons, List.flatten_cons, List.take_append, List.take_append,
      List.take_take, Nat.min_self, List.length_take, hrest _ (by omega)]
    congr 2
    omega

theorem firstVisible_of_nothing (outcome : String → Except Backend.Fault Nat) {wanted : Nat}
    {candidates : List Suggestion} (h : wanted = 0 ∨ candidates = []) :
    firstVisible outcome wanted candidates = [] := by
  unfold firstVisible
  rcases h with rfl | rfl
  · exact List.take_zero
  · exact List.take_nil

theorem flatten_map_firstVisible (outcome : String → Except Backend.Fault Nat) (wanted : Nat)
    (parts : List (List Suggestion)) :
    (parts.map (firstVisible outcome wanted)).flatten.take wanted =
      firstVisible outcome wanted parts.flatten := by
  have h := flatten_map_take wanted (parts.map (List.filter (isVisible outcome)))
  rw [List.map_map, ← List.filter_flatten] at h
  exact h

/-! ### Branches of the candidates -/

theorem length_slices_le (branches : Nat) (candidates : List Suggestion) :
    (slices branches candidates).length ≤ max branches 1 ∧
      (slices branches candidates).length ≤ max candidates.length 1 := by
  fun_induction slices branches candidates with
  | case1 n cs h =>
    rw [List.length_singleton]
    omega
  | case2 n cs h half ih₁ ih₂ =>
    simp only [List.length_take, List.length_drop] at ih₁ ih₂
    simp only [List.length_append]
    have hhalf : half = cs.length / 2 := rfl
    omega

theorem slices_ne_nil (branches : Nat) {candidates : List Suggestion} (h : candidates ≠ []) :
    slices branches candidates ≠ [] := by
  intro hs
  have hflat := flatten_slices branches candidates
  rw [hs] at hflat
  exact h hflat.symm

/-! ### One branch -/

namespace Screening

variable {S : Type} {world : (q : Inquiry) → S → q.Answer × S}
variable {outcome : Filter → String → Except Backend.Fault Nat}

theorem firstVisible_cons (outcome : String → Except Backend.Fault Nat) (wanted : Nat)
    (c : Suggestion) (r : List Suggestion) :
    firstVisible outcome (wanted + 1) (c :: r) =
      if isVisible outcome c then c :: firstVisible outcome wanted r
      else firstVisible outcome (wanted + 1) r := by
  unfold firstVisible
  rw [List.filter_cons]
  split <;> rfl

/-- What one branch keeps, where it gets through. -/
theorem run_leaf (hw : Consistent world outcome) (f : Filter) (candidates : List Suggestion) :
    ∀ (wanted : Nat) (s : S) (kept : List Suggestion),
      ((leaf f wanted candidates).run world s).1 = .ok kept →
        kept = firstVisible (outcome f) wanted candidates := by
  induction candidates with
  | nil =>
    intro wanted s kept h
    cases wanted <;> (simp only [leaf, Dialogue.run, Except.ok.injEq] at h; rw [← h]; rfl)
  | cons c r ih =>
    intro wanted s kept h
    cases wanted with
    | zero =>
      simp only [leaf, Dialogue.run, Except.ok.injEq] at h
      rw [← h]
      rfl
    | succ wanted =>
      simp only [leaf, Dialogue.run] at h
      rw [hw] at h
      rw [firstVisible_cons]
      unfold isVisible
      cases ho : outcome f c.term with
      | error e =>
        rw [ho] at h
        cases h
      | ok n =>
        rw [ho] at h
        cases n with
        | zero =>
          simp only [Nat.lt_irrefl, decide_false, Bool.false_eq_true, if_false]
          exact ih (wanted + 1) _ kept h
        | succ n =>
          simp only [Nat.zero_lt_succ, decide_true, if_true]
          simp only [Dialogue.run_bind, Dialogue.run] at h
          cases hr : ((leaf f wanted r).run world (world (.probe f c.term) s).2).1 with
          | error e =>
            rw [hr] at h
            cases h
          | ok rest =>
            rw [hr] at h
            simp only [Except.map, Except.ok.injEq] at h
            rw [← h, ih wanted _ rest hr]

/-- A branch gets through if its probes do. -/
theorem run_leaf_isOk (hw : Consistent world outcome) (f : Filter) (candidates : List Suggestion) :
    ∀ (wanted : Nat) (s : S), AllProbed (outcome f) candidates →
      ∃ kept, ((leaf f wanted candidates).run world s).1 = .ok kept := by
  induction candidates with
  | nil =>
    intro wanted s _
    cases wanted <;> exact ⟨[], rfl⟩
  | cons c r ih =>
    intro wanted s hall
    cases wanted with
    | zero => exact ⟨[], rfl⟩
    | succ wanted =>
      obtain ⟨n, ho⟩ := hall c List.mem_cons_self
      have hr : AllProbed (outcome f) r := fun d hd => hall d (List.mem_cons_of_mem c hd)
      simp only [leaf, Dialogue.run]
      rw [hw, ho]
      cases n with
      | zero => exact ih (wanted + 1) _ hr
      | succ n =>
        obtain ⟨kept, hk⟩ := ih wanted (world (.probe f c.term) s).2 hr
        refine ⟨c :: kept, ?_⟩
        simp only [Dialogue.run_bind, Dialogue.run]
        rw [hk]
        rfl

/-- A branch probes its candidates in order, each of them once, and asks nothing else. -/
theorem asked_leaf (hw : Consistent world outcome) (f : Filter) (candidates : List Suggestion) :
    ∀ (wanted : Nat) (s : S), (leaf f wanted candidates).asked world s <+:
      candidates.map fun c => .probe f c.term := by
  induction candidates with
  | nil =>
    intro wanted s
    cases wanted <;> exact List.prefix_rfl
  | cons c r ih =>
    intro wanted s
    cases wanted with
    | zero => exact List.nil_prefix
    | succ wanted =>
      simp only [leaf, Dialogue.asked, List.map_cons, List.prefix_cons_inj]
      rw [hw]
      cases outcome f c.term with
      | error e => exact List.nil_prefix
      | ok n =>
        cases n with
        | zero => exact ih (wanted + 1) _
        | succ n =>
          simp only [Dialogue.asked_bind, Dialogue.asked, List.append_nil]
          exact ih wanted _

/-! ### Branches from left to right -/

/-- Without a filter the first branch fetches one, and the rest goes on under it. -/
theorem branches_eq_ask (wanted : Nat) (slice : List Suggestion) (r : List (List Suggestion)) :
    branches .fresh wanted (slice :: r) = .ask .filter fun (a : Except Unavailable Filter) =>
      match a with
      | .error e => .done (.error (.entitlement e), .fresh)
      | .ok f => branches ⟨some f⟩ wanted (slice :: r) := by
  unfold branches branch
  show Dialogue.ask _ _ = _
  congr 1
  funext a
  cases a <;> rfl

/-- With a filter no branch fetches one. -/
theorem branches_cons (f : Filter) (wanted : Nat) (slice : List Suggestion)
    (r : List (List Suggestion)) :
    branches ⟨some f⟩ wanted (slice :: r) = (leaf f wanted slice).bind fun a =>
      match a with
      | .error e => .done (.error (.probe e), ⟨some f⟩)
      | .ok kept => (branches ⟨some f⟩ wanted r).bind fun b =>
          .done (b.1.map (kept ++ ·), b.2) := by
  show ((leaf f wanted slice).bind fun a => _).bind _ = _
  rw [Dialogue.bind_assoc]
  congr 1
  funext a
  cases a <;> rfl

/-- What branches keep under a filter, where all of them get through. -/
theorem run_branches (hw : Consistent world outcome) (f : Filter) (wanted : Nat)
    (parts : List (List Suggestion)) :
    ∀ (s : S), ((branches ⟨some f⟩ wanted parts).run world s).1.2 = ⟨some f⟩ ∧
      ∀ kept, ((branches ⟨some f⟩ wanted parts).run world s).1.1 = .ok kept →
        kept = (parts.map (firstVisible (outcome f) wanted)).flatten := by
  induction parts with
  | nil =>
    intro s
    refine ⟨rfl, fun kept h => ?_⟩
    simp only [branches, Dialogue.run, Except.ok.injEq] at h
    rw [← h]
    rfl
  | cons slice r ih =>
    intro s
    rw [branches_cons, Dialogue.run_bind]
    cases hl : ((leaf f wanted slice).run world s).1 with
    | error e => exact ⟨rfl, fun kept h => by cases h⟩
    | ok first =>
      simp only [Dialogue.run_bind, Dialogue.run]
      obtain ⟨hsession, hkept⟩ := ih ((leaf f wanted slice).run world s).2
      refine ⟨hsession, fun kept h => ?_⟩
      cases hr : ((branches ⟨some f⟩ wanted r).run world
          ((leaf f wanted slice).run world s).2).1.1 with
      | error e =>
        rw [hr] at h
        cases h
      | ok rest =>
        rw [hr] at h
        simp only [Except.map, Except.ok.injEq] at h
        rw [← h, List.map_cons, List.flatten_cons, ← run_leaf hw f slice wanted s first hl,
          ← hkept rest hr]

/-- Branches get through if their probes do. -/
theorem run_branches_isOk (hw : Consistent world outcome) (f : Filter) (wanted : Nat)
    (parts : List (List Suggestion)) :
    ∀ (s : S), AllProbed (outcome f) parts.flatten →
      ∃ kept, ((branches ⟨some f⟩ wanted parts).run world s).1.1 = .ok kept := by
  induction parts with
  | nil => exact fun s _ => ⟨[], rfl⟩
  | cons slice r ih =>
    intro s hall
    rw [List.flatten_cons] at hall
    obtain ⟨first, hl⟩ := run_leaf_isOk hw f slice wanted s fun c hc =>
      hall c (List.mem_append_left _ hc)
    obtain ⟨rest, hr⟩ := ih ((leaf f wanted slice).run world s).2 fun c hc =>
      hall c (List.mem_append_right _ hc)
    refine ⟨first ++ rest, ?_⟩
    rw [branches_cons, Dialogue.run_bind, hl]
    simp only [Dialogue.run_bind, Dialogue.run]
    rw [hr]
    rfl

/-- Under a filter branches probe their candidates in order, each at most once. -/
theorem asked_branches (hw : Consistent world outcome) (f : Filter) (wanted : Nat)
    (parts : List (List Suggestion)) :
    ∀ (s : S), ((branches ⟨some f⟩ wanted parts).asked world s).Sublist
      (parts.flatten.map fun c => .probe f c.term) := by
  induction parts with
  | nil => exact fun s => List.Sublist.refl []
  | cons slice r ih =>
    intro s
    rw [branches_cons, Dialogue.asked_bind, List.flatten_cons, List.map_append]
    refine (asked_leaf hw f slice wanted s).sublist.append ?_
    cases ((leaf f wanted slice).run world s).1 with
    | error e => exact List.nil_sublist _
    | ok first =>
      simp only [Dialogue.asked_bind, Dialogue.asked, List.append_nil]
      exact ih _

end Screening

/-! ### All branches -/

section Screen

open Screening (branches branches_eq_ask run_branches run_branches_isOk asked_branches)

variable {S : Type} {world : (q : Inquiry) → S → q.Answer × S}
variable {outcome : Filter → String → Except Backend.Fault Nat}
variable (parallelism : Nat) {wanted : Nat} {candidates : List Suggestion}

/-- Where nothing is wanted, or there is nothing to screen, nothing is asked. -/
theorem screen_of_nothing (h : wanted = 0 ∨ candidates = []) (s : Session) :
    screen parallelism s candidates wanted = .done (.ok [], s) := by
  unfold screen
  rw [if_pos h]

/-- With a filter the branches go on at once. -/
theorem screen_of_filter (h : ¬ (wanted = 0 ∨ candidates = [])) (f : Filter) :
    screen parallelism ⟨some f⟩ candidates wanted =
      (branches ⟨some f⟩ wanted (slices (max parallelism 1) candidates)).bind fun r =>
        .done (r.1.map (·.take wanted), r.2) := by
  unfold screen
  rw [if_neg h]

/-- Without one it is fetched first, and then all is as if it had been there. -/
theorem screen_of_fresh (h : ¬ (wanted = 0 ∨ candidates = [])) :
    screen parallelism .fresh candidates wanted =
      .ask .filter fun (a : Except Unavailable Filter) =>
        match a with
        | .error e => .done (.error (.entitlement e), .fresh)
        | .ok f => screen parallelism ⟨some f⟩ candidates wanted := by
  obtain ⟨slice, r, hs⟩ := List.exists_cons_of_ne_nil
    (slices_ne_nil (max parallelism 1) fun hc => h (Or.inr hc))
  simp only [screen_of_filter parallelism h]
  unfold screen
  rw [if_neg h, hs, branches_eq_ask]
  show Dialogue.ask _ _ = _
  congr 1
  funext a
  cases a <;> rfl

theorem run_screen_fresh (h : ¬ (wanted = 0 ∨ candidates = [])) (s : S) :
    (screen parallelism .fresh candidates wanted).run world s =
      match ((world .filter s).1 : Except Unavailable Filter) with
      | .error e => ((.error (.entitlement e), .fresh), (world .filter s).2)
      | .ok f => (screen parallelism ⟨some f⟩ candidates wanted).run world (world .filter s).2 := by
  rw [screen_of_fresh parallelism h]
  simp only [Dialogue.run]
  cases (world .filter s).1 <;> rfl

theorem asked_screen_fresh (h : ¬ (wanted = 0 ∨ candidates = [])) (s : S) :
    (screen parallelism .fresh candidates wanted).asked world s = .filter ::
      match ((world .filter s).1 : Except Unavailable Filter) with
      | .error _ => []
      | .ok f => (screen parallelism ⟨some f⟩ candidates wanted).asked world (world .filter s).2 := by
  rw [screen_of_fresh parallelism h]
  simp only [Dialogue.asked]
  cases (world .filter s).1 <;> rfl

theorem run_screen (hw : Consistent world outcome) (h : ¬ (wanted = 0 ∨ candidates = []))
    (f : Filter) (s : S) :
    ((screen parallelism ⟨some f⟩ candidates wanted).run world s).1.2 = ⟨some f⟩ ∧
      ∀ kept, ((screen parallelism ⟨some f⟩ candidates wanted).run world s).1.1 = .ok kept →
        kept = firstVisible (outcome f) wanted candidates := by
  rw [screen_of_filter parallelism h, Dialogue.run_bind]
  simp only [Dialogue.run]
  obtain ⟨hsession, hkept⟩ := run_branches hw f wanted (slices (max parallelism 1) candidates) s
  refine ⟨hsession, fun kept hk => ?_⟩
  cases hr : ((branches ⟨some f⟩ wanted
      (slices (max parallelism 1) candidates)).run world s).1.1 with
  | error e =>
    rw [hr] at hk
    cases hk
  | ok all =>
    rw [hr] at hk
    simp only [Except.map, Except.ok.injEq] at hk
    rw [← hk, hkept all hr, flatten_map_firstVisible, flatten_slices]

theorem run_screen_isOk (hw : Consistent world outcome) (h : ¬ (wanted = 0 ∨ candidates = []))
    (f : Filter) (s : S) (hall : AllProbed (outcome f) candidates) :
    ∃ kept, ((screen parallelism ⟨some f⟩ candidates wanted).run world s).1.1 = .ok kept := by
  obtain ⟨all, hr⟩ := run_branches_isOk hw f wanted (slices (max parallelism 1) candidates) s
    (by rw [flatten_slices]; exact hall)
  refine ⟨all.take wanted, ?_⟩
  rw [screen_of_filter parallelism h, Dialogue.run_bind]
  simp only [Dialogue.run]
  rw [hr]
  rfl

theorem asked_screen (hw : Consistent world outcome) (h : ¬ (wanted = 0 ∨ candidates = []))
    (f : Filter) (s : S) :
    ((screen parallelism ⟨some f⟩ candidates wanted).asked world s).Sublist
      (candidates.map fun c => .probe f c.term) := by
  rw [screen_of_filter parallelism h, Dialogue.asked_bind]
  simp only [Dialogue.asked, List.append_nil]
  have hs := asked_branches hw f wanted (slices (max parallelism 1) candidates) s
  rw [flatten_slices] at hs
  exact hs

/-- Under a filter, be it the session's own or one just fetched, what comes out is what that
filter lets through, and something comes out if the probes can be made. -/
theorem screen_under (hw : Consistent world outcome) (h : ¬ (wanted = 0 ∨ candidates = []))
    (f : Filter) (s : S) :
    let run := (screen parallelism ⟨some f⟩ candidates wanted).run world s
    (∀ kept, run.1.1 = .ok kept → ∃ g, kept = firstVisible (outcome g) wanted candidates ∧
      (wanted ≠ 0 → candidates ≠ [] → run.1.2.filter = some g)) ∧
    (∀ g, (.ok f : Except Unavailable Filter) = .ok g → AllProbed (outcome g) candidates →
      ∃ kept, run.1.1 = .ok kept) := by
  intro run
  obtain ⟨hsession, hkept⟩ := run_screen parallelism hw h f s
  refine ⟨fun kept hk => ⟨f, hkept kept hk, fun _ _ => congrArg Session.filter hsession⟩, ?_⟩
  intro g hg hall
  cases hg
  exact run_screen_isOk parallelism hw h f s hall

/-- **One branch after the other keeps what one branch over all candidates keeps**, and asks
for the filter at most once and for each candidate at most once. -/
theorem screen_keeps (hw : Consistent world outcome) (wanted : Nat)
    (candidates : List Suggestion) (session : Session) (s : S) :
    let run := (screen parallelism session candidates wanted).run world s
    let asked := (screen parallelism session candidates wanted).asked world s
    (∀ kept, run.1.1 = .ok kept → ∃ f, kept = firstVisible (outcome f) wanted candidates ∧
      (wanted ≠ 0 → candidates ≠ [] → run.1.2.filter = some f)) ∧
    (∀ f, (session.get.run world s).1.1 = .ok f → AllProbed (outcome f) candidates →
      ∃ kept, run.1.1 = .ok kept) ∧
    (∃ f, asked.Sublist (.filter :: candidates.map fun c => .probe f c.term)) ∧
    (wanted = 0 ∨ candidates = [] → run.1.1 = .ok [] ∧ asked = []) := by
  intro run asked
  by_cases h : wanted = 0 ∨ candidates = []
  · have hd := screen_of_nothing parallelism h session
    have hrun : run = ((.ok [], session), s) := by
      show Dialogue.run _ _ _ = _
      rw [hd]
      rfl
    have hasked : asked = [] := by
      show Dialogue.asked _ _ _ = _
      rw [hd]
      rfl
    rw [hrun, hasked]
    refine ⟨?_, fun _ _ _ => ⟨[], rfl⟩, ⟨.unrestricted, List.nil_sublist _⟩, fun _ => ⟨rfl, rfl⟩⟩
    intro kept hk
    refine ⟨.unrestricted, ?_, fun h₁ h₂ => absurd h (not_or.mpr ⟨h₁, h₂⟩)⟩
    rw [firstVisible_of_nothing _ h]
    exact (Except.ok.inj hk).symm
  · cases hf : session.filter with
    | some f =>
      obtain rfl : session = ⟨some f⟩ := congrArg Session.mk hf
      obtain ⟨hkept, hok⟩ := screen_under parallelism hw h f s
      exact ⟨hkept, hok, ⟨f, (asked_screen parallelism hw h f s).cons _⟩, fun h' => absurd h' h⟩
    | none =>
      obtain rfl : session = .fresh := congrArg Session.mk hf
      have hget : (Session.fresh.get.run world s).1.1 = (world .filter s).1 := by
        simp only [Session.get, Session.fresh, Dialogue.run]
        cases (world .filter s).1 <;> rfl
      simp only [run, asked, run_screen_fresh parallelism h, asked_screen_fresh parallelism h, hget]
      cases (world .filter s).1 with
      | error e =>
        refine ⟨fun kept hk => ?_, fun g hg _ => ?_, ⟨.unrestricted, ?_⟩, fun h' => absurd h' h⟩
        · cases hk
        · cases hg
        · exact (List.nil_sublist _).cons_cons _
      | ok f =>
        obtain ⟨hkept, hok⟩ := screen_under parallelism hw h f (world .filter s).2
        exact ⟨hkept, hok, ⟨f, (asked_screen parallelism hw h f _).cons_cons _⟩,
          fun h' => absurd h' h⟩

end Screen

end SearchGateway.Access
