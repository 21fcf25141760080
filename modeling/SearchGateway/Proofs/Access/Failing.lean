import SearchGateway.Proofs.Access.Crew

/-!
# When a probe that fails spoils a screening

A branch probes a candidate only as long as it has not kept enough before it, and a probe that
fails then spoils everything.  One branch over all candidates knows all that has been kept; a
branch over a slice knows only its own, so it may go on to a probe that fails where the one branch
has long stopped.  That is the only way in which the number of branches can change what comes out.

    Spoils outcome wanted candidates e     the probe that fails where enough was not kept before
    screening_eq_ok_iff                    a screening comes through if no slice is spoilt
    screening_eq_error_of_spoils           and never does where the one branch does not
    Crew.result_eq_ok_iff                  the same for branches side by side
    screening_outcome                      when the number of branches changes what comes out
-/

namespace SearchGateway.Access

open Backend (Suggestion)

/-! ## Algorithm -/

/-- Among candidates there is one whose probe fails, those before it can be probed, and not enough
of them are found to stop there. -/
def Spoils (outcome : String → Except Backend.Fault Nat) (wanted : Nat)
    (candidates : List Suggestion) (e : Backend.Fault) : Prop :=
  ∃ before c after, candidates = before ++ c :: after ∧ AllProbed outcome before ∧
    outcome c.term = .error e ∧ (before.filter (isVisible outcome)).length < wanted

/-- A probe that fails spoils these candidates. -/
def IsSpoilt (outcome : String → Except Backend.Fault Nat) (wanted : Nat)
    (candidates : List Suggestion) : Prop :=
  ∃ e, Spoils outcome wanted candidates e

/-! ## Lemmas -/

/-! ### Where a list is spoilt -/

section Spoils

variable {outcome : String → Except Backend.Fault Nat} {wanted : Nat} {e : Backend.Fault}

theorem not_spoils_of_nothing {candidates : List Suggestion} (h : wanted = 0 ∨ candidates = []) :
    ¬ Spoils outcome wanted candidates e := by
  rintro ⟨before, c, after, heq, -, -, hlt⟩
  rcases h with rfl | rfl
  · exact Nat.not_lt_zero _ hlt
  · simp at heq

/-- The first candidate is the one that fails, or it can be probed and it is one further on. -/
theorem spoils_cons_iff {c : Suggestion} {r : List Suggestion} :
    Spoils outcome (wanted + 1) (c :: r) e ↔ outcome c.term = .error e ∨
      ∃ n, outcome c.term = .ok n ∧
        Spoils outcome (if isVisible outcome c then wanted else wanted + 1) r e := by
  constructor
  · rintro ⟨before, d, after, heq, hall, hfails, hlt⟩
    cases before with
    | nil =>
      obtain ⟨rfl, rfl⟩ : c = d ∧ r = after := by simpa using heq
      exact .inl hfails
    | cons b before =>
      obtain ⟨rfl, rfl⟩ : c = b ∧ r = before ++ d :: after := by simpa using heq
      obtain ⟨n, hn⟩ := hall c List.mem_cons_self
      refine .inr ⟨n, hn, before, d, after, rfl, fun x hx => hall x (List.mem_cons_of_mem c hx),
        hfails, ?_⟩
      rw [List.filter_cons] at hlt
      split at hlt
      · next hv =>
        rw [if_pos hv]
        exact Nat.lt_of_succ_lt_succ hlt
      · next hv =>
        rw [if_neg hv]
        exact hlt
  · rintro (hfails | ⟨n, hn, before, d, after, rfl, hall, hfails, hlt⟩)
    · exact ⟨[], c, r, rfl, fun x hx => absurd hx List.not_mem_nil, hfails, Nat.succ_pos _⟩
    · refine ⟨c :: before, d, after, rfl, fun x hx => ?_, hfails, ?_⟩
      · rcases List.mem_cons.mp hx with rfl | hx
        · exact ⟨n, hn⟩
        · exact hall x hx
      · rw [List.filter_cons]
        split at hlt
        · next hv =>
          rw [if_pos hv]
          exact Nat.succ_lt_succ hlt
        · next hv =>
          rw [if_neg hv]
          exact hlt

theorem not_isSpoilt_of_allProbed {candidates : List Suggestion}
    (h : AllProbed outcome candidates) : ¬ IsSpoilt outcome wanted candidates := by
  rintro ⟨e, before, c, after, rfl, -, hfails, -⟩
  obtain ⟨n, hn⟩ := h c (List.mem_append_right _ List.mem_cons_self)
  rw [hfails] at hn
  cases hn

/-- What spoils two lists together spoils the first one, or else the second one by itself. -/
theorem spoils_of_append {first second : List Suggestion}
    (h : Spoils outcome wanted (first ++ second) e) :
    Spoils outcome wanted first e ∨
      (¬ IsSpoilt outcome wanted first ∧ Spoils outcome wanted second e) := by
  obtain ⟨before, c, after, heq, hall, hfails, hlt⟩ := h
  rcases List.append_eq_append_iff.mp heq with ⟨more, rfl, hsecond⟩ | ⟨more, rfl, hafter⟩
  · refine .inr ⟨not_isSpoilt_of_allProbed fun x hx => hall x (List.mem_append_left _ hx), more, c,
      after, hsecond, fun x hx => hall x (List.mem_append_right _ hx), hfails, ?_⟩
    rw [List.filter_append, List.length_append] at hlt
    omega
  · cases more with
    | nil =>
      rw [List.append_nil]
      exact .inr ⟨not_isSpoilt_of_allProbed hall, [], c, after, hafter.symm,
        fun x hx => absurd hx List.not_mem_nil, hfails, Nat.lt_of_le_of_lt (Nat.zero_le _) hlt⟩
    | cons d more =>
      obtain ⟨rfl, rfl⟩ : c = d ∧ after = more ++ second := by simpa using hafter
      exact .inl ⟨before, c, more, rfl, hall, hfails, hlt⟩

/-- What spoils all slices together spoils one of them. -/
theorem exists_spoilt_of_flatten {parts : List (List Suggestion)}
    (h : IsSpoilt outcome wanted parts.flatten) : ∃ slice ∈ parts, IsSpoilt outcome wanted slice := by
  obtain ⟨e, h⟩ := h
  induction parts with
  | nil => exact absurd h (not_spoils_of_nothing (.inr rfl))
  | cons p r ih =>
    rcases spoils_of_append h with hp | ⟨-, hr⟩
    · exact ⟨p, List.mem_cons_self, e, hp⟩
    · obtain ⟨slice, hmem, hslice⟩ := ih hr
      exact ⟨slice, List.mem_cons_of_mem p hmem, hslice⟩

/-- Where nothing is wanted, or there is nothing to screen, no slice is spoilt. -/
theorem not_isSpoilt_slice_of_nothing {branches : Nat} {candidates : List Suggestion}
    (h : wanted = 0 ∨ candidates = []) : ∀ slice ∈ slices branches candidates,
      ¬ IsSpoilt outcome wanted slice := by
  rintro slice hmem ⟨e, hslice⟩
  refine not_spoils_of_nothing (h.imp_right fun hnil => ?_) hslice
  have hflat := flatten_slices branches candidates
  rw [hnil, List.flatten_eq_nil_iff] at hflat
  exact hflat slice (hnil ▸ hmem)

theorem slices_one (candidates : List Suggestion) : slices 1 candidates = [candidates] := by
  unfold slices
  exact if_pos (.inl (Nat.le_refl 1))

end Spoils

/-! ### One branch after the other -/

section Screen

open Screening (leaf branches branches_cons run_leaf)

variable {S : Type} {world : (q : Inquiry) → S → q.Answer × S}
variable {outcome : Filter → String → Except Backend.Fault Nat}

/-- A branch fails with the probe that spoils its slice. -/
theorem run_leaf_eq_error_iff (hw : Consistent world outcome) (f : Filter)
    (candidates : List Suggestion) (e : Backend.Fault) : ∀ (wanted : Nat) (s : S),
      ((leaf f wanted candidates).run world s).1 = .error e ↔
        Spoils (outcome f) wanted candidates e := by
  induction candidates with
  | nil =>
    intro wanted s
    refine ⟨fun h => ?_, fun h => absurd h (not_spoils_of_nothing (.inr rfl))⟩
    cases wanted <;> cases h
  | cons c r ih =>
    intro wanted s
    cases wanted with
    | zero =>
      refine ⟨fun h => ?_, fun h => absurd h (not_spoils_of_nothing (.inl rfl))⟩
      cases h
    | succ wanted =>
      rw [spoils_cons_iff]
      unfold isVisible
      simp only [leaf, Dialogue.run]
      rw [hw]
      cases outcome f c.term with
      | error e' => simp [Dialogue.run]
      | ok n =>
        cases n with
        | zero => simp [ih (wanted + 1)]
        | succ n =>
          simp only [Dialogue.run_bind, Dialogue.run]
          have hrest := ih wanted (world (.probe f c.term) s).2
          have hspoils : Spoils (outcome f) (if decide (0 < n + 1) = true then wanted else wanted + 1)
              r e ↔ Spoils (outcome f) wanted r e := by simp
          simp only [hspoils, ← hrest]
          cases ((leaf f wanted r).run world (world (.probe f c.term) s).2).1 with
          | error e' => simp [Except.map]
          | ok rest => simp [Except.map]

theorem run_leaf_eq_ok_iff (hw : Consistent world outcome) (f : Filter) (wanted : Nat)
    (candidates : List Suggestion) (s : S) (kept : List Suggestion) :
    ((leaf f wanted candidates).run world s).1 = .ok kept ↔
      ¬ IsSpoilt (outcome f) wanted candidates ∧ kept = firstVisible (outcome f) wanted candidates := by
  have herror := fun e => run_leaf_eq_error_iff hw f candidates e wanted s
  have hkept := run_leaf hw f candidates wanted s
  cases hr : ((leaf f wanted candidates).run world s).1 with
  | error e =>
    exact ⟨fun h => (by cases h), fun h => absurd ⟨e, (herror e).mp hr⟩ h.1⟩
  | ok all =>
    have hall := hkept all hr
    constructor
    · intro h
      cases h
      refine ⟨fun ⟨e, he⟩ => ?_, hall⟩
      rw [(herror e).mpr he] at hr
      cases hr
    · rintro ⟨-, rfl⟩
      rw [hall]

/-- Branches come through if none of their slices is spoilt. -/
theorem run_branches_eq_ok_iff (hw : Consistent world outcome) (f : Filter) (wanted : Nat)
    (parts : List (List Suggestion)) : ∀ (s : S) (kept : List Suggestion),
      ((branches ⟨some f⟩ wanted parts).run world s).1.1 = .ok kept ↔
        (∀ slice ∈ parts, ¬ IsSpoilt (outcome f) wanted slice) ∧
          kept = (parts.map (firstVisible (outcome f) wanted)).flatten := by
  induction parts with
  | nil =>
    intro s kept
    show (Except.ok [] : Except ScreeningError _) = .ok kept ↔ _
    rw [Except.ok.injEq]
    constructor
    · rintro rfl
      exact ⟨fun _ h => absurd h List.not_mem_nil, rfl⟩
    · rintro ⟨-, rfl⟩
      rfl
  | cons p r ih =>
    intro s kept
    rw [branches_cons, Dialogue.run_bind, List.forall_mem_cons, List.map_cons, List.flatten_cons]
    have hleaf := run_leaf_eq_ok_iff hw f wanted p s
    cases hl : ((leaf f wanted p).run world s).1 with
    | error e =>
      have hspoilt : IsSpoilt (outcome f) wanted p :=
        ⟨e, (run_leaf_eq_error_iff hw f p e wanted s).mp hl⟩
      exact ⟨fun h => (by cases h), fun h => absurd hspoilt h.1.1⟩
    | ok first =>
      obtain ⟨hp, rfl⟩ := (hleaf first).mp hl
      simp only [Dialogue.run_bind, Dialogue.run]
      have hrest := ih ((leaf f wanted p).run world s).2
      cases hr : ((branches ⟨some f⟩ wanted r).run world ((leaf f wanted p).run world s).2).1.1 with
      | error e =>
        refine ⟨fun h => (by cases h), fun h => ?_⟩
        rw [(hrest _).mpr ⟨h.1.2, rfl⟩] at hr
        cases hr
      | ok rest =>
        obtain ⟨hparts, rfl⟩ := (hrest rest).mp hr
        show Except.ok _ = Except.ok _ ↔ _
        rw [Except.ok.injEq]
        exact ⟨fun h => ⟨⟨hp, hparts⟩, h.symm⟩, fun h => h.2.symm⟩

/-- What spoils all candidates is what branches over their slices fail with. -/
theorem run_branches_of_spoils (hw : Consistent world outcome) (f : Filter) (wanted : Nat)
    {e : Backend.Fault} (parts : List (List Suggestion)) : ∀ (s : S),
      Spoils (outcome f) wanted parts.flatten e →
        ((branches ⟨some f⟩ wanted parts).run world s).1.1 = .error (.probe e) := by
  induction parts with
  | nil => exact fun s h => absurd h (not_spoils_of_nothing (.inr rfl))
  | cons p r ih =>
    intro s h
    rw [branches_cons, Dialogue.run_bind]
    rcases spoils_of_append h with hp | ⟨hp, hr⟩
    · rw [(run_leaf_eq_error_iff hw f p e wanted s).mpr hp]
      rfl
    · rw [(run_leaf_eq_ok_iff hw f wanted p s _).mpr ⟨hp, rfl⟩]
      simp only [Dialogue.run_bind, Dialogue.run]
      rw [ih _ hr]
      rfl

variable {wanted : Nat} {candidates : List Suggestion} {session : Session} {f : Filter}

/-- Once the filter is there, it does not matter when it was fetched. -/
theorem run_screen_of_get (parallelism wanted : Nat) (candidates : List Suggestion) {s : S}
    (hf : (session.get.run world s).1.1 = .ok f) :
    ∃ s', ((screen parallelism session candidates wanted).run world s).1.1 =
      ((screen parallelism ⟨some f⟩ candidates wanted).run world s').1.1 := by
  by_cases hn : wanted = 0 ∨ candidates = []
  · rw [screen_of_nothing parallelism hn, screen_of_nothing parallelism hn]
    exact ⟨s, rfl⟩
  · cases hsession : session.filter with
    | some g =>
      obtain rfl : session = ⟨some g⟩ := congrArg Session.mk hsession
      cases hf
      exact ⟨s, rfl⟩
    | none =>
      obtain rfl : session = .fresh := congrArg Session.mk hsession
      refine ⟨(world .filter s).2, ?_⟩
      rw [run_screen_fresh parallelism hn]
      simp only [Session.get, Session.fresh, Dialogue.run] at hf
      revert hf
      cases ((world .filter s).1 : Except Unavailable Filter) with
      | error e => exact fun hf => (by cases hf)
      | ok g =>
        intro hf
        cases hf
        rfl

/-- **A screening comes through exactly if no slice is spoilt**, with what one branch over all
candidates would have kept. -/
theorem screening_eq_ok_iff (hw : Consistent world outcome) (parallelism : Nat) {s : S}
    (hf : (session.get.run world s).1.1 = .ok f) (kept : List Suggestion) :
    ((screen parallelism session candidates wanted).run world s).1.1 = .ok kept ↔
      (∀ slice ∈ slices (max parallelism 1) candidates, ¬ IsSpoilt (outcome f) wanted slice) ∧
        kept = firstVisible (outcome f) wanted candidates := by
  obtain ⟨s', hrun⟩ := run_screen_of_get parallelism wanted candidates hf
  rw [hrun]
  by_cases hn : wanted = 0 ∨ candidates = []
  · rw [screen_of_nothing parallelism hn, firstVisible_of_nothing _ hn]
    show (Except.ok [] : Except ScreeningError _) = .ok kept ↔ _
    rw [Except.ok.injEq]
    exact ⟨fun h => ⟨not_isSpoilt_slice_of_nothing hn, h.symm⟩, fun h => h.2.symm⟩
  · rw [screen_of_filter parallelism hn, Dialogue.run_bind]
    simp only [Dialogue.run]
    have hbranches := run_branches_eq_ok_iff hw f wanted (slices (max parallelism 1) candidates) s'
    have hflat := flatten_map_firstVisible (outcome f) wanted (slices (max parallelism 1) candidates)
    rw [flatten_slices] at hflat
    rw [← hflat]
    cases hr : ((branches ⟨some f⟩ wanted
        (slices (max parallelism 1) candidates)).run world s').1.1 with
    | error e =>
      refine ⟨fun h => (by cases h), fun h => ?_⟩
      rw [(hbranches _).mpr ⟨h.1, rfl⟩] at hr
      cases hr
    | ok all =>
      obtain ⟨hslices, rfl⟩ := (hbranches all).mp hr
      show Except.ok _ = Except.ok _ ↔ _
      rw [Except.ok.injEq]
      exact ⟨fun h => ⟨hslices, h.symm⟩, fun h => h.2.symm⟩

/-- What spoils all candidates is what a screening fails with, however many branches it has. -/
theorem screening_eq_error_of_spoils (hw : Consistent world outcome) (parallelism : Nat) {s : S}
    (hf : (session.get.run world s).1.1 = .ok f) {e : Backend.Fault}
    (h : Spoils (outcome f) wanted candidates e) :
    ((screen parallelism session candidates wanted).run world s).1.1 = .error (.probe e) := by
  obtain ⟨s', hrun⟩ := run_screen_of_get parallelism wanted candidates hf
  have hn : ¬ (wanted = 0 ∨ candidates = []) := fun hn => not_spoils_of_nothing hn h
  have hbranches := run_branches_of_spoils hw f wanted (e := e)
    (slices (max parallelism 1) candidates) s' (by rwa [flatten_slices])
  rw [hrun, screen_of_filter parallelism hn, Dialogue.run_bind]
  simp only [Dialogue.run]
  rw [hbranches]
  rfl

/-- One branch comes through exactly if its candidates are not spoilt. -/
theorem screening_one_eq_ok_iff (hw : Consistent world outcome) {s : S}
    (hf : (session.get.run world s).1.1 = .ok f) (kept : List Suggestion) :
    ((screen 1 session candidates wanted).run world s).1.1 = .ok kept ↔
      ¬ IsSpoilt (outcome f) wanted candidates ∧
        kept = firstVisible (outcome f) wanted candidates := by
  rw [screening_eq_ok_iff hw 1 hf, Nat.max_self, slices_one, List.forall_mem_singleton]

/-- **The number of branches changes what comes out only where it turns a success into a
failure**: the candidates are not spoilt, but some slice of them is. -/
theorem screening_eq_one_iff (hw : Consistent world outcome) (parallelism : Nat) {s : S}
    (hf : (session.get.run world s).1.1 = .ok f) :
    ((screen parallelism session candidates wanted).run world s).1.1 =
        ((screen 1 session candidates wanted).run world s).1.1 ↔
      IsSpoilt (outcome f) wanted candidates ∨
        ∀ slice ∈ slices (max parallelism 1) candidates, ¬ IsSpoilt (outcome f) wanted slice := by
  by_cases hspoilt : IsSpoilt (outcome f) wanted candidates
  · obtain ⟨e, he⟩ := hspoilt
    rw [screening_eq_error_of_spoils hw parallelism hf he, screening_eq_error_of_spoils hw 1 hf he]
    exact ⟨fun _ => .inl ⟨e, he⟩, fun _ => rfl⟩
  · rw [(screening_one_eq_ok_iff hw hf _).mpr ⟨hspoilt, rfl⟩, screening_eq_ok_iff hw parallelism hf]
    exact ⟨fun h => .inr h.1, fun h => ⟨h.resolve_left hspoilt, rfl⟩⟩

end Screen

/-! ### Branches side by side -/

namespace Crew

variable {outcome : Filter → String → Except Backend.Fault Nat} {parts : List (List Suggestion)}
variable {wanted : Nat} {past : List Move} {log : List (Nat × Inquiry)} {c : Crew} {f : Filter}

/-- Where all branches have come through no slice is spoilt. -/
theorem not_isSpoilt_of_ok (h : Sound outcome parts wanted past log c) (hf : c.session.filter = some f)
    {kept : List Suggestion} (hr : c.result? = some (.ok kept)) :
    ∀ slice ∈ parts, ¬ IsSpoilt (outcome f) wanted slice := by
  intro slice hmem
  obtain ⟨all, hmap, -⟩ := result?_eq_ok hr
  obtain ⟨i, hp⟩ := List.getElem?_of_mem hmem
  obtain ⟨t, ht⟩ := h.exists_task hp
  have hd := h.doing i slice t hp ht
  obtain ⟨k, -, hk⟩ := exists_kept hmap ht
  generalize probesOf i log = qs at hd
  cases hd with
  | waiting => cases hk
  | fetching => cases hk
  | @probing g rest underWay _ hs hrun hasked hrest =>
    rw [hf] at hs
    cases hs
    rcases hrest with ⟨kept', rfl⟩ | ⟨g, title, next, rfl⟩
    · exact ((run_leaf_eq_ok_iff (consistent_oracle outcome) f wanted slice () kept').mp
        hrun.symm).1
    · cases hk
  | lost => cases hk
  | spoiled => cases hk

/-- Where a branch has failed, though the filter could be fetched, some slice is spoilt. -/
theorem exists_spoilt_of_error (h : Sound outcome parts wanted past log c)
    (hf : c.session.filter = some f) (hfetched : ∀ i e, .fetched i (.error e) ∉ past)
    {cause : ScreeningError} (hr : c.result? = some (.error cause)) :
    ∃ slice ∈ parts, IsSpoilt (outcome f) wanted slice := by
  have hover : c.isOver = true := by
    refine Decidable.byContradiction fun ho => ?_
    rw [result?_of_not_over (Bool.eq_false_iff.mpr ho)] at hr
    obtain ⟨_, -, hok⟩ := Option.map_eq_some_iff.mp hr
    cases hok
  obtain ⟨t, hmem, ht⟩ := List.any_eq_true.mp hover
  obtain ⟨i, hi⟩ := List.getElem?_of_mem hmem
  obtain ⟨slice, hp⟩ := h.exists_slice hi
  refine ⟨slice, List.mem_of_getElem? hp, ?_⟩
  have hd := h.doing i slice t hp hi
  generalize probesOf i log = qs at hd
  cases hd with
  | waiting => cases ht
  | fetching => cases ht
  | probing => cases ht
  | lost hl => exact absurd hl (hfetched _ _)
  | @spoiled g e _ hs hrun hasked =>
    rw [hf] at hs
    cases hs
    exact ⟨e, (run_leaf_eq_error_iff (consistent_oracle outcome) f slice e wanted ()).mp hrun⟩

section Runs

variable {parallelism : Nat} {candidates : List Suggestion} {session : Session} {moves : List Move}

theorem not_isSpoilt_partsOf_iff :
    (∀ slice ∈ partsOf parallelism candidates wanted, ¬ IsSpoilt (outcome f) wanted slice) ↔
      ∀ slice ∈ slices (max parallelism 1) candidates, ¬ IsSpoilt (outcome f) wanted slice := by
  by_cases hn : wanted = 0 ∨ candidates = []
  · rw [partsOf_of_nothing hn]
    exact ⟨fun _ => not_isSpoilt_slice_of_nothing hn, fun _ _ h => absurd h List.not_mem_nil⟩
  · rw [partsOf_of_something hn]

/-- **Branches side by side come through exactly if no slice is spoilt**, whatever they do in
which order. -/
theorem result_eq_ok_iff (hr : (start parallelism session candidates wanted).run moves = some c)
    (hm : HonestRun outcome (start parallelism session candidates wanted) moves)
    (hfetched : ∀ i e, .fetched i (.error e) ∉ moves) (hf : c.session.filter = some f)
    {r : Except ScreeningError (List Suggestion)} (hres : c.result? = some r)
    (kept : List Suggestion) : r = .ok kept ↔
      (∀ slice ∈ slices (max parallelism 1) candidates, ¬ IsSpoilt (outcome f) wanted slice) ∧
        kept = firstVisible (outcome f) wanted candidates := by
  have hs := start_sound hr hm
  rw [← not_isSpoilt_partsOf_iff]
  cases r with
  | error cause =>
    obtain ⟨slice, hmem, hslice⟩ := exists_spoilt_of_error hs hf hfetched hres
    exact ⟨fun h => (by cases h), fun h => absurd hslice (h.1 slice hmem)⟩
  | ok all =>
    have hparts := not_isSpoilt_of_ok hs hf hres
    have hall : all = firstVisible (outcome f) wanted candidates := by
      obtain ⟨g, hg, hfilter⟩ := kept_of_run hr hm hres
      by_cases hn : wanted = 0 ∨ candidates = []
      · rw [hg, firstVisible_of_nothing _ hn, firstVisible_of_nothing _ hn]
      · obtain ⟨hwanted, hcandidates⟩ := not_or.mp hn
        rw [hfilter hwanted hcandidates] at hf
        cases hf
        exact hg
    rw [Except.ok.injEq]
    exact ⟨fun h => ⟨hparts, h ▸ hall⟩, fun h => hall.trans h.2.symm⟩

/-- Branches that cannot go on have come to a result. -/
theorem exists_result_of_stuck
    (hr : (start parallelism session candidates wanted).run moves = some c)
    (hm : HonestRun outcome (start parallelism session candidates wanted) moves)
    (hstuck : ∀ m, Honest outcome c m → c.step m = none) : ∃ r, c.result? = some r := by
  cases hres : c.result? with
  | some r => exact ⟨r, rfl⟩
  | none =>
    have ho : c.isOver = false := by
      refine Bool.eq_false_iff.mpr fun ho => ?_
      obtain ⟨t, hmem, ht⟩ := List.any_eq_true.mp ho
      unfold result? at hres
      split at hres
      · cases hres
      · next hnone =>
        cases t with
        | failed cause => cases List.findSome?_eq_none_iff.mp hnone _ hmem
        | _ => cases ht
    obtain ⟨m, c', hmove, hstep⟩ := exists_move (start_sound hr hm) ho hres
    rw [hstuck m hmove] at hstep
    cases hstep

end Runs

end Crew

/-! ## Top theorem -/

/-- **The number of branches only ever turns a success into a failure**, and only where a branch
gets to a failing probe that one branch over all candidates never comes to: then some slice is
spoilt, though all of them together are not.  Whatever one branch fails with the others fail with
as well, and what does come out is the same list, in any order of the moves. -/
theorem screening_outcome (outcome : Filter → String → Except Backend.Fault Nat)
    (parallelism wanted : Nat) (candidates : List Suggestion) (f : Filter) :
    let smooth := ∀ slice ∈ slices (max parallelism 1) candidates,
      ¬ IsSpoilt (outcome f) wanted slice
    (IsSpoilt (outcome f) wanted candidates → ¬ smooth) ∧
    -- one after the other
    (∀ {S : Type} (world : (q : Inquiry) → S → q.Answer × S) (s : S) (session : Session),
      Consistent world outcome → (session.get.run world s).1.1 = .ok f →
      let result := fun n => ((screen n session candidates wanted).run world s).1.1
      (∀ kept, result parallelism = .ok kept ↔
        smooth ∧ kept = firstVisible (outcome f) wanted candidates) ∧
      (∀ kept, result 1 = .ok kept ↔ ¬ IsSpoilt (outcome f) wanted candidates ∧
        kept = firstVisible (outcome f) wanted candidates) ∧
      (∀ e, result 1 = .error e → result parallelism = .error e) ∧
      (result parallelism = result 1 ↔ IsSpoilt (outcome f) wanted candidates ∨ smooth)) ∧
    -- side by side
    (∀ (session : Session) (moves : List Move) (c : Crew),
      (Crew.start parallelism session candidates wanted).run moves = some c →
      Crew.HonestRun outcome (Crew.start parallelism session candidates wanted) moves →
      (∀ i e, .fetched i (.error e) ∉ moves) → c.session.filter = some f →
      ((∀ m, Crew.Honest outcome c m → c.step m = none) → ∃ r, c.result? = some r) ∧
      ∀ r, c.result? = some r → ∀ kept, r = .ok kept ↔
        smooth ∧ kept = firstVisible (outcome f) wanted candidates) := by
  intro smooth
  refine ⟨fun hspoilt hsmooth => ?_, fun world s session hw hf => ?_, ?_⟩
  · rw [← flatten_slices (max parallelism 1) candidates] at hspoilt
    obtain ⟨slice, hmem, hslice⟩ := exists_spoilt_of_flatten hspoilt
    exact hsmooth slice hmem hslice
  · refine ⟨screening_eq_ok_iff hw parallelism hf, screening_one_eq_ok_iff hw hf, fun e he => ?_,
      screening_eq_one_iff hw parallelism hf⟩
    rw [← he, screening_eq_one_iff hw parallelism hf]
    refine .inl (Classical.byContradiction fun hspoilt => ?_)
    have hone := (screening_one_eq_ok_iff hw hf _).mpr ⟨hspoilt, rfl⟩
    cases he.symm.trans hone
  · exact fun session moves c hr hm hfetched hf =>
      ⟨Crew.exists_result_of_stuck hr hm, fun _ hres => Crew.result_eq_ok_iff hr hm hfetched hf hres⟩

/-! ## A probe too many -/

/-- Only one title can be probed, and it can be found. -/
def onlyFirst : Filter → String → Except Backend.Fault Nat
  | _, "a" => .ok 1
  | _, _ => .error (.status 500 "boom")

/-- Two branches probe two candidates; one branch stops at the first of them. -/
theorem not_forall_screening_eq_one : ¬ ∀ (outcome : Filter → String → Except Backend.Fault Nat)
    (parallelism wanted : Nat) (candidates : List Suggestion) (f : Filter)
    (world : (q : Inquiry) → Unit → q.Answer × Unit), 1 ≤ parallelism → Consistent world outcome →
    (Session.fresh.get.run world ()).1.1 = .ok f →
    ((screen parallelism .fresh candidates wanted).run world ()).1.1 =
      ((screen 1 .fresh candidates wanted).run world ()).1.1 := by
  intro hall
  have h := hall onlyFirst 2 1 [.ofTerm "a", .ofTerm "b"] .unrestricted (Crew.oracle onlyFirst)
    (by decide) (Crew.consistent_oracle onlyFirst) rfl
  rcases (screening_eq_one_iff (Crew.consistent_oracle onlyFirst) 2 rfl).mp h with
    ⟨e, he⟩ | hslices
  · obtain ⟨n, hn, hrest⟩ | herror := ((spoils_cons_iff).mp he).symm
    · exact not_spoils_of_nothing (.inl rfl) hrest
    · cases herror
  · refine hslices [.ofTerm "b"] ?_ ⟨_, [], _, [], rfl, fun x hx => absurd hx List.not_mem_nil, rfl,
      Nat.one_pos⟩
    simp [slices]

end SearchGateway.Access
