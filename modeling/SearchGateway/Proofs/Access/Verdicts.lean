import SearchGateway.Proofs.Access.Screening
import SearchGateway.Proofs.Scripts

/-!
# Verdicts on candidates

Nothing says that a probe which is made twice counts the same twice.  Each place in a list of
candidates has a verdict of its own: how many documents its probe has counted, or that it was
not probed.  What is kept is told by the verdicts, and the verdicts are told by the script.

    Verdict             a candidate and what its probe has counted
    kept wanted vs      the first candidates that were found
    Enough wanted vs    enough was found before each candidate that was not probed
    Judged f P t x      script `t` makes the probes of some verdicts, with `P`, or one fails
    ends_screen         screening under a filter judges its candidates

A branch that has found enough stops, so that candidates further on may be probed when some
before them are not.
-/

namespace SearchGateway.Access

open Backend (Suggestion Fault)
open Dialogue (Script Ends ends_done_iff ends_ask_iff ends_bind_iff)

/-- A candidate, and how many documents its probe has counted, if it was made. -/
structure Verdict where
  candidate : Suggestion
  count : Option Nat

/-! ## What is kept -/

/-- Whether the candidate was found. -/
def Verdict.isFound (v : Verdict) : Bool := v.count.any (0 < ·)

/-- The candidates that were found. -/
def found (vs : List Verdict) : List Suggestion := (vs.filter Verdict.isFound).map Verdict.candidate

/-- The first candidates that were found, up to a wanted number. -/
def kept (wanted : Nat) (vs : List Verdict) : List Suggestion := (found vs).take wanted

/-- Enough was found before each candidate that was not probed. -/
def Enough (wanted : Nat) (vs : List Verdict) : Prop :=
  ∀ before v after, vs = before ++ v :: after → v.count = none → wanted ≤ (found before).length

/-- Candidates none of which was probed. -/
def unprobed (candidates : List Suggestion) : List Verdict := candidates.map fun c => ⟨c, none⟩

/-! ## Scripts of probes -/

/-- The probes that were made under a filter, and what they have counted. -/
def probes (f : Filter) (vs : List Verdict) : Script Inquiry Inquiry.Answer :=
  vs.filterMap fun v => v.count.map fun n => ⟨.probe f v.candidate.term, .ok n⟩

/-- A script makes the probes of some verdicts that are as they should be; or one more probe
fails, and with it everything. -/
inductive Judged {α : Type} (f : Filter) (P : List Verdict → α → Prop) :
    Script Inquiry Inquiry.Answer → Except Fault α → Prop
  | through (vs : List Verdict) (x : α) (h : P vs x) : Judged f P (probes f vs) (.ok x)
  | broken (vs : List Verdict) (title : String) (e : Fault) :
    Judged f P (probes f vs ++ [⟨.probe f title, .error e⟩]) (.error e)

/-- Verdicts on all candidates, enough of which were found, and what is kept of them. -/
structure Screened (wanted : Nat) (candidates : List Suggestion) (vs : List Verdict) : Prop where
  candidates_eq : vs.map Verdict.candidate = candidates
  enough : Enough wanted vs

/-! ## Lemmas -/

/-! ### Verdicts one after the other -/

theorem found_append (vs ws : List Verdict) : found (vs ++ ws) = found vs ++ found ws := by
  unfold found
  rw [List.filter_append, List.map_append]

theorem probes_append (f : Filter) (vs ws : List Verdict) :
    probes f (vs ++ ws) = probes f vs ++ probes f ws :=
  List.filterMap_append

/-- Of two lists that are cut off, and cut off together, the start is as it was. -/
theorem take_append_take {α : Type} (n : Nat) (a b : List α) :
    (a.take n ++ b.take n).take n = (a ++ b).take n := by
  simpa using flatten_map_take n [a, b]

theorem take_kept (wanted : Nat) (vs : List Verdict) : (kept wanted vs).take wanted = kept wanted vs := by
  unfold kept
  rw [List.take_take, Nat.min_self]

theorem kept_append (wanted : Nat) (vs ws : List Verdict) :
    kept wanted (vs ++ ws) = (kept wanted vs ++ kept wanted ws).take wanted := by
  unfold kept
  rw [found_append, take_append_take]

theorem enough_append {wanted : Nat} {vs ws : List Verdict} (hv : Enough wanted vs)
    (hw : Enough wanted ws) : Enough wanted (vs ++ ws) := by
  intro before v after h hnone
  rcases List.append_eq_append_iff.mp h with ⟨more, rfl, hws⟩ | ⟨more, rfl, hafter⟩
  · have hle := hw more v after hws hnone
    rw [found_append, List.length_append]
    omega
  · cases more with
    | nil =>
      have hle := hw [] v after (by simpa using hafter.symm) hnone
      exact Nat.le_trans hle (Nat.zero_le _)
    | cons u more =>
      obtain ⟨rfl, rfl⟩ : v = u ∧ after = more ++ ws := by simpa using hafter
      exact hv before v more rfl hnone

theorem found_cons (v : Verdict) (vs : List Verdict) : found (v :: vs) = found [v] ++ found vs :=
  found_append [v] vs

/-- Behind a candidate that was probed less is wanted, if it was found. -/
theorem enough_cons_iff {wanted : Nat} {v : Verdict} {vs : List Verdict} (hv : v.count ≠ none) :
    Enough wanted (v :: vs) ↔ Enough (wanted - (found [v]).length) vs := by
  constructor
  · intro h before u after heq hnone
    have hle := h (v :: before) u after (by rw [heq]; rfl) hnone
    rw [found_cons, List.length_append] at hle
    omega
  · intro h before u after heq hnone
    cases before with
    | nil =>
      obtain ⟨rfl, -⟩ : v = u ∧ vs = after := by simpa using heq
      exact absurd hnone hv
    | cons b before =>
      obtain ⟨rfl, rfl⟩ : v = b ∧ vs = before ++ u :: after := by simpa using heq
      have hle := h before u after rfl hnone
      rw [found_cons, List.length_append]
      omega

theorem found_unprobed (candidates : List Suggestion) : found (unprobed candidates) = [] := by
  unfold found unprobed
  rw [List.filter_eq_nil_iff.mpr, List.map_nil]
  intro v hv
  obtain ⟨c, -, rfl⟩ := List.mem_map.mp hv
  exact Bool.false_ne_true

theorem probes_eq_nil_iff {f : Filter} {vs : List Verdict} :
    probes f vs = [] ↔ ∀ v ∈ vs, v.count = none := by
  unfold probes
  rw [List.filterMap_eq_nil_iff]
  simp only [Option.map_eq_none_iff]

theorem probes_unprobed (f : Filter) (candidates : List Suggestion) :
    probes f (unprobed candidates) = [] := by
  refine probes_eq_nil_iff.mpr fun v hv => ?_
  obtain ⟨c, -, rfl⟩ := List.mem_map.mp hv
  rfl

theorem screened_unprobed {wanted : Nat} {candidates : List Suggestion}
    (h : wanted = 0 ∨ candidates = []) : Screened wanted candidates (unprobed candidates) where
  candidates_eq := by
    unfold unprobed
    rw [List.map_map]
    exact List.map_id candidates
  enough := by
    intro before v after heq _
    rcases h with rfl | rfl
    · exact Nat.zero_le _
    · simp [unprobed] at heq

/-- **What is kept does not depend on the candidates that cannot be found**: it is what a count
for each title lets through, if the probes that were made have counted that. -/
theorem kept_eq_firstVisible {wanted : Nat} {candidates : List Suggestion} {vs : List Verdict}
    (h : Screened wanted candidates vs) {count : String → Nat}
    (hcount : ∀ v ∈ vs, ∀ n, v.count = some n → n = count v.candidate.term) :
    kept wanted vs = firstVisible (fun title => .ok (count title)) wanted candidates := by
  obtain ⟨rfl, henough⟩ := h
  induction vs generalizing wanted with
  | nil => rfl
  | cons v r ih =>
    cases hv : v.count with
    | none =>
      -- nothing is wanted, or the first candidate would have been probed
      have hzero : wanted = 0 := Nat.le_zero.mp (henough [] v r rfl hv)
      rw [hzero]
      unfold kept firstVisible
      rw [List.take_zero, List.take_zero]
    | some n =>
      have hn : n = count v.candidate.term := hcount v List.mem_cons_self n hv
      have hvisible : isVisible (fun title => .ok (count title)) v.candidate = v.isFound := by
        show decide (0 < count v.candidate.term) = _
        unfold Verdict.isFound
        rw [hv, ← hn]
        rfl
      have hhead : ((v :: r).map Verdict.candidate).filter
            (isVisible fun title => .ok (count title)) =
          found [v] ++ (r.map Verdict.candidate).filter (isVisible fun title => .ok (count title)) := by
        unfold found
        rw [List.map_cons, List.filter_cons, List.filter_cons, hvisible, List.filter_nil]
        cases v.isFound <;> rfl
      have hrest := ih (fun u hu => hcount u (List.mem_cons_of_mem v hu))
        ((enough_cons_iff (by rw [hv]; exact Option.some_ne_none n)).mp henough)
      unfold kept firstVisible at hrest ⊢
      rw [hhead, found_cons, List.take_append, List.take_append, hrest]

/-! ### Scripts one after the other -/

section

variable {α β : Type} {f : Filter} {P : List Verdict → α → Prop} {Q R : List Verdict → β → Prop}
variable {t u : Script Inquiry Inquiry.Answer}

theorem Judged.exists_of_ok {x : α} (h : Judged f P t (.ok x)) : ∃ vs, t = probes f vs ∧ P vs x := by
  cases h with
  | through vs _ hP => exact ⟨vs, rfl, hP⟩

theorem mem_probes_iff {vs : List Verdict} {e : (q : Inquiry) × q.Answer} :
    e ∈ probes f vs ↔ ∃ v ∈ vs, ∃ n, v.count = some n ∧ ⟨.probe f v.candidate.term, .ok n⟩ = e := by
  unfold probes
  rw [List.mem_filterMap]
  simp only [Option.map_eq_some_iff]

/-- A script of probes holds nothing else. -/
theorem Judged.exists_title {res : Except Fault α} (h : Judged f P t res)
    {e : (q : Inquiry) × q.Answer} (he : e ∈ t) : ∃ title x, e = ⟨.probe f title, x⟩ := by
  cases h with
  | through vs x _ =>
    obtain ⟨v, -, n, -, rfl⟩ := mem_probes_iff.mp he
    exact ⟨v.candidate.term, .ok n, rfl⟩
  | broken vs title fault =>
    rcases List.mem_append.mp he with he | he
    · obtain ⟨v, -, n, -, rfl⟩ := mem_probes_iff.mp he
      exact ⟨v.candidate.term, .ok n, rfl⟩
    · exact ⟨title, .error fault, List.mem_singleton.mp he⟩

/-- A probe that fails is the last, and what comes out is its fault. -/
theorem Judged.eq_error {res : Except Fault α} (h : Judged f P t res) {title : String} {e : Fault}
    (he : ⟨.probe f title, .error e⟩ ∈ t) : res = .error e := by
  have hmade : ∀ vs : List Verdict,
      (⟨.probe f title, .error e⟩ : (q : Inquiry) × q.Answer) ∉ probes f vs := by
    intro vs hmem
    obtain ⟨v, -, n, -, heq⟩ := mem_probes_iff.mp hmem
    cases heq
  cases h with
  | through vs x _ => exact absurd he (hmade vs)
  | broken vs title' e' =>
    rcases List.mem_append.mp he with he | he
    · exact absurd he (hmade vs)
    · cases List.mem_singleton.mp he
      rfl

/-- One script of probes after another. -/
theorem Judged.append {x : α} {res : Except Fault β} (h : Judged f P t (.ok x))
    (h' : Judged f Q u res) (hR : ∀ vs ws y, P vs x → Q ws y → R (vs ++ ws) y) :
    Judged f R (t ++ u) res := by
  obtain ⟨vs, rfl, hP⟩ := h.exists_of_ok
  cases h' with
  | through ws y hQ =>
    rw [← probes_append]
    exact .through (vs ++ ws) y (hR vs ws y hP hQ)
  | broken ws title e =>
    rw [← List.append_assoc, ← probes_append]
    exact .broken (vs ++ ws) title e

theorem Judged.map {res : Except Fault α} {g : α → β} (h : Judged f P t res)
    (hR : ∀ vs x, P vs x → R vs (g x)) : Judged f R t (res.map g) := by
  cases h with
  | through vs x hP => exact .through vs (g x) (hR vs x hP)
  | broken vs title e => exact .broken vs title e

theorem Judged.of_error {e : Fault} (h : Judged f P t (.error e)) : Judged f R t (.error e) := by
  cases h with
  | broken vs title e => exact .broken vs title e

/-- Where nothing is probed. -/
theorem Judged.nothing {x : α} {candidates : List Suggestion} (h : P (unprobed candidates) x) :
    Judged f P [] (.ok x) := by
  rw [← probes_unprobed f candidates]
  exact .through _ x h

end

/-! ### Screening -/

namespace Screening

variable {f : Filter} {t : Script Inquiry Inquiry.Answer}

/-- One branch judges its candidates. -/
theorem judged_leaf {wanted : Nat} {candidates : List Suggestion}
    {res : Except Fault (List Suggestion)} (h : Ends (leaf f wanted candidates) t res) :
    Judged f (fun vs x => Screened wanted candidates vs ∧ x = kept wanted vs) t res := by
  induction candidates generalizing wanted t res with
  | nil =>
    have hdone : leaf f wanted [] = .done (.ok []) := by cases wanted <;> rfl
    rw [hdone] at h
    obtain ⟨rfl, rfl⟩ := ends_done_iff.mp h
    exact .through [] [] ⟨screened_unprobed (.inr rfl), List.take_nil.symm⟩
  | cons c r ih =>
    cases wanted with
    | zero =>
      obtain ⟨rfl, rfl⟩ := ends_done_iff.mp h
      exact .nothing ⟨screened_unprobed (.inl rfl), rfl⟩
    | succ wanted =>
      obtain ⟨x, rest, rfl, hrest⟩ := ends_ask_iff.mp h
      -- a probe that was made says what is wanted of the candidates behind it
      have hprobe : ∀ n, Judged f (fun vs (_ : Unit) => vs = [⟨c, some n⟩])
          [⟨.probe f c.term, .ok n⟩] (.ok ()) := fun n => .through [⟨c, some n⟩] () rfl
      cases x with
      | error e =>
        obtain ⟨rfl, rfl⟩ := ends_done_iff.mp hrest
        exact .broken [] c.term e
      | ok n =>
        cases n with
        | zero =>
          refine (hprobe 0).append (ih hrest) ?_
          rintro _ ws y rfl ⟨⟨hcandidates, henough⟩, rfl⟩
          exact ⟨⟨congrArg (c :: ·) hcandidates, (enough_cons_iff (by simp)).mpr henough⟩, rfl⟩
        | succ n =>
          obtain ⟨first, last, inner, rfl, hinner, hlast⟩ := ends_bind_iff.mp hrest
          obtain ⟨rfl, rfl⟩ := ends_done_iff.mp hlast
          rw [List.append_nil]
          have hbehind : Judged f (fun ws y => Screened wanted r ws ∧ y = c :: kept wanted ws)
              first (inner.map (c :: ·)) :=
            (ih hinner).map fun ws x h => ⟨h.1, congrArg (c :: ·) h.2⟩
          refine (hprobe (n + 1)).append hbehind ?_
          rintro _ ws y rfl ⟨⟨hcandidates, henough⟩, rfl⟩
          exact ⟨⟨congrArg (c :: ·) hcandidates, (enough_cons_iff (by simp)).mpr henough⟩, rfl⟩

/-- Under a filter branches judge the candidates of all of them, and keep enough at the start. -/
theorem ends_branches {wanted : Nat} {parts : List (List Suggestion)}
    {res : Except ScreeningError (List Suggestion) × Session}
    (h : Ends (branches ⟨some f⟩ wanted parts) t res) :
    ∃ r, res = (r.mapError .probe, ⟨some f⟩) ∧
      Judged f (fun vs x => Screened wanted parts.flatten vs ∧ x.take wanted = kept wanted vs)
        t r := by
  induction parts generalizing t res with
  | nil =>
    obtain ⟨rfl, rfl⟩ := ends_done_iff.mp h
    exact ⟨.ok [], rfl, .nothing ⟨screened_unprobed (.inr rfl), rfl⟩⟩
  | cons slice r ih =>
    rw [branches_cons] at h
    obtain ⟨first, rest, a, rfl, hfirst, hrest⟩ := ends_bind_iff.mp h
    have hslice := judged_leaf hfirst
    cases a with
    | error e =>
      obtain ⟨rfl, rfl⟩ := ends_done_iff.mp hrest
      rw [List.append_nil]
      exact ⟨.error e, rfl, hslice.of_error⟩
    | ok here =>
      obtain ⟨inner, last, b, rfl, hinner, hlast⟩ := ends_bind_iff.mp hrest
      obtain ⟨rfl, rfl⟩ := ends_done_iff.mp hlast
      obtain ⟨there, rfl, hthere⟩ := ih hinner
      have hbehind : Judged f (fun ws y => ∃ z, Screened wanted r.flatten ws ∧
          z.take wanted = kept wanted ws ∧ y = here ++ z) inner (there.map (here ++ ·)) :=
        hthere.map fun ws z h => ⟨z, h.1, h.2, rfl⟩
      refine ⟨there.map (here ++ ·), by cases there <;> rfl, ?_⟩
      rw [List.append_nil]
      refine hslice.append hbehind ?_
      rintro vs ws y ⟨⟨hvs, henough⟩, rfl⟩ ⟨z, ⟨hws, henough'⟩, hz, rfl⟩
      refine ⟨⟨?_, enough_append henough henough'⟩, ?_⟩
      · rw [List.map_append, hvs, hws, List.flatten_cons]
      · rw [kept_append, ← hz, ← take_append_take, take_kept]

end Screening

/-- **Under a filter screening judges its candidates**, and keeps the first of them that were
found; or a probe fails, and with it everything. -/
theorem ends_screen {parallelism wanted : Nat} {candidates : List Suggestion} {f : Filter}
    {t : Script Inquiry Inquiry.Answer} {res : Except ScreeningError (List Suggestion) × Session}
    (h : Ends (screen parallelism ⟨some f⟩ candidates wanted) t res) :
    ∃ r, res = (r.mapError .probe, ⟨some f⟩) ∧
      Judged f (fun vs x => Screened wanted candidates vs ∧ x = kept wanted vs) t r := by
  by_cases hn : wanted = 0 ∨ candidates = []
  · rw [screen_of_nothing parallelism hn] at h
    obtain ⟨rfl, rfl⟩ := ends_done_iff.mp h
    refine ⟨.ok [], rfl, .nothing ⟨screened_unprobed hn, ?_⟩⟩
    unfold kept
    rw [found_unprobed, List.take_nil]
  · rw [screen_of_filter parallelism hn] at h
    obtain ⟨first, last, b, rfl, hfirst, hlast⟩ := ends_bind_iff.mp h
    obtain ⟨rfl, rfl⟩ := ends_done_iff.mp hlast
    obtain ⟨r, rfl, hr⟩ := Screening.ends_branches hfirst
    rw [flatten_slices] at hr
    refine ⟨r.map (·.take wanted), by cases r <;> rfl, ?_⟩
    rw [List.append_nil]
    exact hr.map fun vs x hx => ⟨hx.1, hx.2⟩

end SearchGateway.Access
