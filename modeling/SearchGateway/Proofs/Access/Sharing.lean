import SearchGateway.Proofs.Access.Crew

/-!
# Branches share one filter

Nothing is assumed here of what the probes say, and a branch need not hear at once that another
one has failed: until it does it may go on, and fetch what another has failed to fetch.  Even so
one filter at most is ever fetched, and every probe is made under it.  What a branch has kept is
told by the answers to its own probes, so the order of the moves does not come into it.

    Crew.History c₀ past log c    moves, the probes that they make, and where they lead
    Crew.Sharing                  what holds wherever moves can lead
    Crew.sharing_next             one move keeps it
    Crew.sharing_of_history       and so do any moves
    Crew.kept_eq_of_answers       the same answers in any order, the same list
    Crew.history_of_run           the moves of a crew that stops at its first failure
-/

namespace SearchGateway.Access

open Backend (Suggestion)

namespace Crew

/-! ## Algorithm -/

/-- Moves one after the other from a crew, with the probes that they make. -/
inductive History (c₀ : Crew) : List Move → List (Nat × Inquiry) → Crew → Prop
  | start : History c₀ [] [] c₀
  | next {past log c m c'} (h : History c₀ past log c) (ht : Turn c m c') :
      History c₀ (past ++ [m]) (log ++ c.probes m) c'

/-- The filters that fetches have brought. -/
def brought (past : List Move) : List Filter :=
  past.filterMap fun
    | .fetched _ (.ok f) => some f
    | _ => none

/-- What the probes of one branch have said. -/
def answersOf (branch : Nat) (past : List Move) : List (Except Backend.Fault Nat) :=
  past.filterMap fun
    | .probed i a => if i = branch then some a else none
    | _ => none

/-- Whether a probe has found something. -/
def isHit : Except Backend.Fault Nat → Bool
  | .ok n => 0 < n
  | .error _ => false

/-- The candidates that were found, as far as there are answers. -/
def picked : List Suggestion → List (Except Backend.Fault Nat) → List Suggestion
  | c :: r, a :: as => if isHit a then c :: picked r as else picked r as
  | _, _ => []

/-- The probes that are left to a branch after some answers. -/
def remaining (f : Filter) (wanted : Nat) (slice : List Suggestion)
    (answers : List (Except Backend.Fault Nat)) :
    Inquiring (Except Backend.Fault (List Suggestion)) :=
  (Screening.leaf f (wanted - (picked slice answers).length) (slice.drop answers.length)).bind
    fun x => .done (x.map (picked slice answers ++ ·))

/-- The first probes of a slice under a filter. -/
def firstProbes (f : Filter) (n : Nat) (slice : List Suggestion) : List Inquiry :=
  (slice.take n).map fun x => .probe f x.term

/-- How far a branch has got with its slice: what its probes have said, which probes it has made,
and what it does. -/
inductive Working (s : Session) (wanted : Nat) (slice : List Suggestion) :
    List (Except Backend.Fault Nat) → List Inquiry → Task → Prop
  | waiting : Working s wanted slice [] [] (.waiting slice)
  | fetching : Working s wanted slice [] [] (.fetching slice)
  | probing {f as rest} (hs : s.filter = some f) (hquota : (picked slice as).length ≤ wanted)
      (hrest : rest = remaining f wanted slice as) :
      Working s wanted slice as (firstProbes f as.length slice) (.probing rest false)
  | underWay {f as rest} (hs : s.filter = some f) (hquota : (picked slice as).length ≤ wanted)
      (hrest : rest = remaining f wanted slice as) :
      Working s wanted slice as (firstProbes f (as.length + 1) slice) (.probing rest true)
  | lost (e : Unavailable) : Working s wanted slice [] [] (.failed (.entitlement e))
  | spoiled {f as} (e : Backend.Fault) (hs : s.filter = some f) :
      Working s wanted slice (as ++ [.error e]) (firstProbes f (as.length + 1) slice)
        (.failed (.probe e))

/-- What holds of a crew after moves that have made probes. -/
structure Sharing (origin : Session) (parts : List (List Suggestion)) (wanted : Nat)
    (past : List Move) (log : List (Nat × Inquiry)) (c : Crew) : Prop where
  quota : c.wanted = wanted
  count : c.tasks.length = parts.length
  /-- The filter is the one that the session had, or else the only one that was ever fetched. -/
  source : origin.filter.toList ++ brought past = c.session.filter.toList
  working : ∀ (i : Nat) slice t, parts[i]? = some slice → c.tasks[i]? = some t →
    Working c.session wanted slice (answersOf i past) (probesOf i log) t
  stray : ∀ i, parts[i]? = none → probesOf i log = []
  /-- A filter is only fetched as long as there is none, and by one branch at a time. -/
  alone : ∀ (i : Nat) cs, c.tasks[i]? = some (.fetching cs) →
    c.session.filter = none ∧ ∀ (j : Nat) cs', c.tasks[j]? = some (.fetching cs') → j = i
  /-- A branch whose fetch has failed has failed for good. -/
  lost : ∀ (i : Nat) e, .fetched i (.error e) ∈ past → ∃ cause, c.tasks[i]? = some (.failed cause)

/-! ## Lemmas -/

/-! ### What is left to a branch -/

section Remaining

variable {f : Filter} {wanted : Nat} {slice : List Suggestion}
variable {answers : List (Except Backend.Fault Nat)}

theorem picked_nil (slice : List Suggestion) : picked slice [] = [] := by
  cases slice <;> rfl

/-- More answers are about the candidates that there were none for. -/
theorem picked_append (slice : List Suggestion) (answers more : List (Except Backend.Fault Nat)) :
    picked slice (answers ++ more) =
      picked slice answers ++ picked (slice.drop answers.length) more := by
  induction answers generalizing slice with
  | nil =>
    rw [picked_nil]
    rfl
  | cons a as ih =>
    cases slice with
    | nil => rfl
    | cons c r =>
      rw [List.cons_append, picked, picked, ih r]
      split <;> rfl

theorem picked_concat {c : Suggestion} {r : List Suggestion} (h : slice.drop answers.length = c :: r)
    (a : Except Backend.Fault Nat) :
    picked slice (answers ++ [a]) = picked slice answers ++ if isHit a then [c] else [] := by
  rw [picked_append, h, picked, picked_nil]

theorem drop_concat {c : Suggestion} {r : List Suggestion} (h : slice.drop answers.length = c :: r)
    (a : Except Backend.Fault Nat) : slice.drop (answers ++ [a]).length = r := by
  rw [List.length_append, List.length_singleton, ← List.drop_drop, h]
  rfl

theorem remaining_nil (f : Filter) (wanted : Nat) (slice : List Suggestion) :
    remaining f wanted slice [] = Screening.leaf f wanted slice := by
  have hdone : (fun x : Except Backend.Fault (List Suggestion) =>
      (.done (x.map ([] ++ ·)) : Inquiring (Except Backend.Fault (List Suggestion)))) = .done := by
    funext x
    cases x <;> rfl
  unfold remaining
  rw [picked_nil, hdone, Dialogue.bind_done]
  rfl

/-- A branch that has kept enough, or has come to the end of its slice, is through. -/
theorem remaining_of_through
    (h : wanted ≤ (picked slice answers).length ∨ slice.drop answers.length = []) :
    remaining f wanted slice answers = .done (.ok (picked slice answers)) := by
  have hleaf : Screening.leaf f (wanted - (picked slice answers).length)
      (slice.drop answers.length) = .done (.ok []) := by
    rcases h with h | h
    · rw [Nat.sub_eq_zero_of_le h, Screening.leaf]
    · rw [h]
      cases wanted - (picked slice answers).length <;> rfl
  unfold remaining
  rw [hleaf]
  show Dialogue.done (Except.ok (picked slice answers ++ [])) = _
  rw [List.append_nil]

/-- Otherwise it probes the next candidate, and goes on with what the probe says. -/
theorem remaining_eq_ask {c : Suggestion} {r : List Suggestion}
    (hlt : (picked slice answers).length < wanted) (h : slice.drop answers.length = c :: r) :
    remaining f wanted slice answers = .ask (.probe f c.term) fun (a : Except Backend.Fault Nat) =>
      match a with
      | .error e => .done (.error e)
      | .ok n => remaining f wanted slice (answers ++ [.ok n]) := by
  obtain ⟨w, hw⟩ : ∃ w, wanted - (picked slice answers).length = w + 1 :=
    ⟨wanted - (picked slice answers).length - 1, by omega⟩
  conv => lhs; unfold remaining
  rw [hw, h]
  show Dialogue.ask _ _ = _
  congr 1
  funext a
  cases a with
  | error e => rfl
  | ok n =>
    simp only
    unfold remaining
    rw [drop_concat h, picked_concat h]
    cases n with
    | zero =>
      rw [if_neg (by simp [isHit]), List.append_nil, hw]
    | succ n =>
      have hw' : wanted - ((picked slice answers).length + 1) = w := by omega
      rw [if_pos (by simp [isHit]), List.length_append, List.length_singleton, hw',
        Dialogue.bind_assoc]
      congr 1
      funext x
      cases x with
      | error e => rfl
      | ok kept =>
        show Dialogue.done (Except.ok (picked slice answers ++ c :: kept)) =
          .done (Except.ok (picked slice answers ++ [c] ++ kept))
        rw [List.append_assoc]
        rfl

/-- Either a branch is through, or it has a candidate to probe. -/
theorem through_or_next (wanted : Nat) (slice : List Suggestion)
    (answers : List (Except Backend.Fault Nat)) :
    (wanted ≤ (picked slice answers).length ∨ slice.drop answers.length = []) ∨
      ((picked slice answers).length < wanted ∧ ∃ c r, slice.drop answers.length = c :: r) := by
  cases hd : slice.drop answers.length with
  | nil => exact .inl (.inr rfl)
  | cons c r =>
    rcases Nat.lt_or_ge (picked slice answers).length wanted with hlt | hge
    · exact .inr ⟨hlt, c, r, rfl⟩
    · exact .inl (.inl hge)

theorem settle_remaining (f : Filter) (wanted : Nat) (slice : List Suggestion)
    (answers : List (Except Backend.Fault Nat)) :
    Task.settle (remaining f wanted slice answers) =
      .probing (remaining f wanted slice answers) false := by
  rcases through_or_next wanted slice answers with h | ⟨hlt, c, r, hd⟩
  · rw [remaining_of_through h]
    rfl
  · rw [remaining_eq_ask hlt hd]
    rfl

/-- What a branch asks next, and how it goes on. -/
theorem of_remaining_eq_ask {q : Inquiry}
    {next : q.Answer → Inquiring (Except Backend.Fault (List Suggestion))}
    (h : remaining f wanted slice answers = .ask q next) :
    (picked slice answers).length < wanted ∧ ∃ c r, slice.drop answers.length = c :: r ∧
      Dialogue.ask q next = .ask (.probe f c.term) fun (a : Except Backend.Fault Nat) =>
        match a with
        | .error e => .done (.error e)
        | .ok n => remaining f wanted slice (answers ++ [.ok n]) := by
  rcases through_or_next wanted slice answers with hthrough | ⟨hlt, c, r, hd⟩
  · rw [remaining_of_through hthrough] at h
    cases h
  · exact ⟨hlt, c, r, hd, h.symm.trans (remaining_eq_ask hlt hd)⟩

end Remaining

/-! ### What one branch does -/

section Working

variable {s : Session} {wanted : Nat} {slice : List Suggestion}
variable {as : List (Except Backend.Fault Nat)} {qs : List Inquiry}

theorem Working.of_waiting {cs : List Suggestion} (h : Working s wanted slice as qs (.waiting cs)) :
    as = [] ∧ qs = [] ∧ cs = slice := by
  cases h
  exact ⟨rfl, rfl, rfl⟩

theorem Working.of_fetching {cs : List Suggestion}
    (h : Working s wanted slice as qs (.fetching cs)) : as = [] ∧ qs = [] ∧ cs = slice := by
  cases h
  exact ⟨rfl, rfl, rfl⟩

theorem working_remaining {f : Filter} (hs : s.filter = some f)
    (hquota : (picked slice as).length ≤ wanted) :
    Working s wanted slice as (firstProbes f as.length slice)
      (Task.settle (remaining f wanted slice as)) := by
  rw [settle_remaining]
  exact .probing hs hquota rfl

/-- A branch that has just got the filter has its whole slice before it. -/
theorem working_begin {f : Filter} (hs : s.filter = some f) :
    Working s wanted slice [] [] (Task.settle (Screening.leaf f wanted slice)) := by
  have h : Working s wanted slice [] (firstProbes f 0 slice) _ := working_remaining hs <| by
    rw [picked_nil]
    exact Nat.zero_le _
  rwa [remaining_nil] at h

/-- The next probe of a branch is that of the next candidate, under the session's filter. -/
theorem Working.probe {f : Filter} {t : String}
    {next : Except Backend.Fault Nat → Inquiring (Except Backend.Fault (List Suggestion))}
    (h : Working s wanted slice as qs (.probing (.ask (.probe f t) next) false)) :
    s.filter = some f ∧ Working s wanted slice as (qs ++ [.probe f t])
      (.probing (.ask (.probe f t) next) true) := by
  cases h with
  | @probing g _ _ hs hquota hrest =>
    obtain ⟨-, c, r, hd, hask⟩ := of_remaining_eq_ask hrest.symm
    obtain ⟨rfl, rfl⟩ : f = g ∧ t = c.term := by
      injection hask with hq
      injection hq with hf ht
      exact ⟨hf, ht⟩
    have hprobes : firstProbes f (as.length + 1) slice =
        firstProbes f as.length slice ++ [.probe f c.term] := by
      unfold firstProbes
      have hget : slice[as.length]? = some c := by
        rw [← List.head?_drop, hd]
        rfl
      rw [List.take_add_one, hget, List.map_append]
      rfl
    have h' : Working s wanted slice as (firstProbes f (as.length + 1) slice)
        (.probing (.ask (.probe f c.term) next) true) := .underWay hs hquota hrest
    rw [hprobes] at h'
    exact ⟨hs, h'⟩

/-- What a probe says is one more answer. -/
theorem Working.probed {f : Filter} {t : String}
    {next : Except Backend.Fault Nat → Inquiring (Except Backend.Fault (List Suggestion))}
    (h : Working s wanted slice as qs (.probing (.ask (.probe f t) next) true))
    (a : Except Backend.Fault Nat) :
    Working s wanted slice (as ++ [a]) qs (Task.settle (next a)) := by
  cases h with
  | @underWay g _ _ hs hquota hrest =>
    obtain ⟨hlt, c, r, hd, hask⟩ := of_remaining_eq_ask hrest.symm
    injection hask with hq hnext
    injection hq with hf ht
    subst hf ht
    rw [hnext]
    cases a with
    | error e => exact .spoiled e hs
    | ok n =>
      have hquota' : (picked slice (as ++ [Except.ok n])).length ≤ wanted := by
        rw [picked_concat hd, List.length_append]
        split
        · exact hlt
        · exact hquota
      have h' := working_remaining hs hquota'
      rw [List.length_append] at h'
      exact h'

/-- What a branch has probed is the start of its slice, under the session's filter. -/
theorem Working.probes_isPrefix {t : Task} (h : Working s wanted slice as qs t) :
    qs <+: s.filter.toList.flatMap fun f => slice.map fun x => .probe f x.term := by
  have hfirst : ∀ f n, s.filter = some f → firstProbes f n slice <+:
      s.filter.toList.flatMap fun f => slice.map fun x => .probe f x.term := by
    intro f n hs
    rw [hs, Option.toList_some, List.flatMap_singleton]
    exact (List.take_prefix n slice).map _
  cases h with
  | waiting => exact List.nil_prefix
  | fetching => exact List.nil_prefix
  | probing hs => exact hfirst _ _ hs
  | underWay hs => exact hfirst _ _ hs
  | lost e => exact List.nil_prefix
  | spoiled e hs => exact hfirst _ _ hs

/-- A branch that is through has kept what its probes have found, and either that is enough or
there is nothing left to probe. -/
theorem Working.kept {t : Task} {kept : List Suggestion} (h : Working s wanted slice as qs t)
    (hk : t.kept? = some kept) : kept = picked slice as ∧ (picked slice as).length ≤ wanted ∧
      (wanted ≤ (picked slice as).length ∨ slice.drop as.length = []) := by
  have hdone : ∀ f underWay, (picked slice as).length ≤ wanted →
      (Task.probing (remaining f wanted slice as) underWay).kept? = some kept →
      kept = picked slice as ∧ (picked slice as).length ≤ wanted ∧
        (wanted ≤ (picked slice as).length ∨ slice.drop as.length = []) := by
    intro f underWay hquota hk
    rcases through_or_next wanted slice as with hthrough | ⟨hlt, c, r, hd⟩
    · rw [remaining_of_through hthrough] at hk
      cases hk
      exact ⟨rfl, hquota, hthrough⟩
    · rw [remaining_eq_ask hlt hd] at hk
      cases hk
  cases h with
  | waiting => cases hk
  | fetching => cases hk
  | probing hs hquota hrest => exact hdone _ _ hquota (hrest ▸ hk)
  | underWay hs hquota hrest => exact hdone _ _ hquota (hrest ▸ hk)
  | lost e => cases hk
  | spoiled e hs => cases hk

/-- A filter that comes where there was none changes nothing for a branch that is not fetching. -/
theorem Working.mono {s' : Session} {t : Task} (h : Working s wanted slice as qs t)
    (hs : ∀ f, s.filter = some f → s'.filter = some f) : Working s' wanted slice as qs t := by
  cases h with
  | waiting => exact .waiting
  | fetching => exact .fetching
  | probing hf hquota hrest => exact .probing (hs _ hf) hquota hrest
  | underWay hf hquota hrest => exact .underWay (hs _ hf) hquota hrest
  | lost e => exact .lost e
  | spoiled e hf => exact .spoiled e (hs _ hf)

end Working

/-! ### What the crew does -/

section Sharing

variable {origin : Session} {parts : List (List Suggestion)} {wanted : Nat} {past : List Move}
variable {log : List (Nat × Inquiry)} {c : Crew}

theorem answersOf_append (i : Nat) (past more : List Move) :
    answersOf i (past ++ more) = answersOf i past ++ answersOf i more := List.filterMap_append

theorem brought_append (past more : List Move) :
    brought (past ++ more) = brought past ++ brought more := List.filterMap_append

/-- A move of one branch keeps what holds, if it keeps it for that branch. -/
theorem Sharing.update (h : Sharing origin parts wanted past log c) {m : Move} {i : Nat}
    {old t : Task} (s' : Session) (as : List (Except Backend.Fault Nat)) (qs : List Inquiry)
    (hold : c.tasks[i]? = some old) (hgoing : ∀ cause, old ≠ .failed cause)
    (hanswers : ∀ j, answersOf j [m] = if j = i then as else [])
    (hsource : origin.filter.toList ++ brought (past ++ [m]) = s'.filter.toList)
    (hfilter : ∀ f, c.session.filter = some f → s'.filter = some f)
    (hself : ∀ slice, parts[i]? = some slice →
      Working s' wanted slice (answersOf i past ++ as) (probesOf i log ++ qs) t)
    (halone : ∀ (j : Nat) cs, (c.tasks.set i t)[j]? = some (.fetching cs) →
      s'.filter = none ∧ ∀ (k : Nat) cs', (c.tasks.set i t)[k]? = some (.fetching cs') → k = j)
    (hlost : ∀ j e, m = .fetched j (.error e) → j = i ∧ ∃ cause, t = .failed cause) :
    Sharing origin parts wanted (past ++ [m]) (log ++ qs.map fun q => (i, q))
      ({ c with session := s' }.become i t) := by
  have hi : i < c.tasks.length := (List.getElem?_eq_some_iff.mp hold).1
  have hself' : (c.tasks.set i t)[i]? = some t := List.getElem?_set_self hi
  have hothers : ∀ j, j ≠ i → (c.tasks.set i t)[j]? = c.tasks[j]? := fun j hj =>
    List.getElem?_set_ne (Ne.symm hj)
  constructor
  case quota => exact h.quota
  case count => exact (List.length_set).trans h.count
  case source => exact hsource
  case alone => exact halone
  case working =>
    intro j slice t' hs ht'
    replace ht' : (c.tasks.set i t)[j]? = some t' := ht'
    rw [answersOf_append, hanswers, probesOf_append, probesOf_map]
    by_cases hj : j = i
    · subst hj
      rw [hself', Option.some.injEq] at ht'
      rw [if_pos rfl, if_pos rfl, ← ht']
      exact hself slice hs
    · rw [hothers j hj] at ht'
      rw [if_neg hj, if_neg hj, List.append_nil, List.append_nil]
      exact (h.working j slice t' hs ht').mono hfilter
  case stray =>
    intro j hj
    have hij : j ≠ i := by
      rintro rfl
      rw [List.getElem?_eq_none_iff, ← h.count] at hj
      omega
    rw [probesOf_append, probesOf_map, if_neg hij, h.stray j hj]
    rfl
  case lost =>
    intro j e hmem
    show ∃ cause, (c.tasks.set i t)[j]? = _
    rcases List.mem_append.mp hmem with hpast | hnow
    · obtain ⟨cause, hj⟩ := h.lost j e hpast
      have hji : j ≠ i := by
        rintro rfl
        rw [hold] at hj
        exact hgoing cause (Option.some.inj hj)
      exact ⟨cause, (hothers j hji).trans hj⟩
    · obtain ⟨rfl, cause, rfl⟩ := hlost j e (List.mem_singleton.mp hnow).symm
      exact ⟨cause, hself'⟩

/-- A move that neither begins a fetch nor ends one. -/
theorem Sharing.become (h : Sharing origin parts wanted past log c) {m : Move} {i : Nat}
    {old t : Task} (as : List (Except Backend.Fault Nat)) (qs : List Inquiry)
    (hold : c.tasks[i]? = some old) (hgoing : ∀ cause, old ≠ .failed cause)
    (hanswers : ∀ j, answersOf j [m] = if j = i then as else [])
    (hfetched : ∀ j a, m ≠ .fetched j a) (hf : ∀ cs, t ≠ .fetching cs)
    (hself : ∀ slice, parts[i]? = some slice →
      Working c.session wanted slice (answersOf i past ++ as) (probesOf i log ++ qs) t) :
    Sharing origin parts wanted (past ++ [m]) (log ++ qs.map fun q => (i, q)) (c.become i t) := by
  have hbrought : brought [m] = [] := by
    cases m with
    | fetched j a => exact absurd rfl (hfetched j a)
    | _ => rfl
  refine h.update c.session as qs hold hgoing hanswers ?_ (fun _ hs => hs) hself ?_
    (fun j e hm => absurd hm (hfetched j _))
  · rw [brought_append, hbrought, List.append_nil]
    exact h.source
  · intro j cs hj
    obtain ⟨hs, hone⟩ := h.alone j cs (fetching_of_set hf hj).2
    exact ⟨hs, fun k cs' hk => hone k cs' (fetching_of_set hf hk).2⟩

/-- **One move keeps what holds**, whatever branch makes it. -/
theorem sharing_next {m : Move} {c' : Crew} (h : Sharing origin parts wanted past log c)
    (ht : Turn c m c') : Sharing origin parts wanted (past ++ [m]) (log ++ c.probes m) c' := by
  have hsilent : ∀ (i j : Nat), ([] : List (Except Backend.Fault Nat)) = if j = i then [] else [] :=
    fun _ _ => (ite_self _).symm
  cases ht with
  | @fetch i cs hi hnone hf =>
    have honly : ∀ (j : Nat) cs', (c.tasks.set i (.fetching cs))[j]? = some (.fetching cs') →
        j = i := by
      intro j cs' hj
      by_cases hij : j = i
      · exact hij
      · rw [List.getElem?_set_ne (Ne.symm hij)] at hj
        exact absurd rfl (List.any_eq_false.mp hf _ (List.mem_of_getElem? hj))
    refine h.update c.session [] [] hi (fun _ hc => by cases hc) (hsilent i) ?_ (fun _ hs => hs)
      ?_ ?_ (fun j e hm => by cases hm)
    · rw [brought_append]
      exact (congrArg _ (List.append_nil _)).trans h.source
    · intro slice hp
      obtain ⟨ha, hq, rfl⟩ := (h.working i slice _ hp hi).of_waiting
      rw [ha, hq]
      exact .fetching
    · intro j cs' hj
      refine ⟨hnone, fun k cs'' hk => ?_⟩
      rw [honly j cs' hj, honly k cs'' hk]
  | @fetched i cs f hi =>
    obtain ⟨hnone, hone⟩ := h.alone i cs hi
    refine h.update ⟨some f⟩ [] [] hi (fun _ hc => by cases hc) (hsilent i) ?_ ?_ ?_ ?_
      (fun j e hm => by cases hm)
    · rw [brought_append, ← List.append_assoc, h.source, hnone]
      rfl
    · intro g hg
      rw [hnone] at hg
      cases hg
    · intro slice hp
      obtain ⟨ha, hq, rfl⟩ := (h.working i slice _ hp hi).of_fetching
      rw [ha, hq]
      unfold begin
      rw [h.quota]
      exact working_begin rfl
    · intro j cs' hj
      obtain ⟨hji, hj⟩ := fetching_of_set (settle_ne_fetching _) hj
      exact absurd (hone j cs' hj) hji
  | @lost i cs e hi =>
    obtain ⟨hnone, hone⟩ := h.alone i cs hi
    refine h.update c.session [] [] hi (fun _ hc => by cases hc) (hsilent i) ?_ (fun _ hs => hs)
      ?_ ?_ ?_
    · rw [brought_append]
      exact (congrArg _ (List.append_nil _)).trans h.source
    · intro slice hp
      obtain ⟨ha, hq, rfl⟩ := (h.working i slice _ hp hi).of_fetching
      rw [ha, hq]
      exact .lost e
    · intro j cs' hj
      obtain ⟨hji, hj⟩ := fetching_of_set (fun _ hc => by cases hc) hj
      exact absurd (hone j cs' hj) hji
    · intro j e' hm
      cases hm
      exact ⟨rfl, _, rfl⟩
  | @take i cs f hi hf =>
    refine h.become [] [] hi (fun _ hc => by cases hc) (hsilent i) (fun _ _ hm => by cases hm)
      (settle_ne_fetching _) fun slice hp => ?_
    obtain ⟨ha, hq, rfl⟩ := (h.working i slice _ hp hi).of_waiting
    rw [ha, hq]
    unfold begin
    rw [h.quota]
    exact working_begin hf
  | @probe i f t next hi =>
    have hprobes : c.probes (.probe i) = [Inquiry.probe f t].map fun q => (i, q) := by
      simp [probes, hi]
    rw [hprobes]
    refine h.become [] _ hi (fun _ hc => by cases hc) (hsilent i) (fun _ _ hm => by cases hm)
      (fun _ hc => by cases hc) fun slice hp => ?_
    rw [List.append_nil]
    exact (h.working i slice _ hp hi).probe.2
  | @probed i f t next a hi =>
    refine h.become [a] [] hi (fun _ hc => by cases hc) (fun j => ?_) (fun _ _ hm => by cases hm)
      (settle_ne_fetching _) fun slice hp => ?_
    · by_cases hj : i = j
      · simp [answersOf, hj]
      · simp [answersOf, hj, Ne.symm hj]
    · rw [List.append_nil]
      exact (h.working i slice _ hp hi).probed a

/-- What holds at first. -/
theorem sharing_start (origin : Session) (parallelism wanted : Nat)
    (candidates : List Suggestion) :
    Sharing origin (partsOf parallelism candidates wanted) wanted [] []
      (start parallelism origin candidates wanted) := by
  have htasks := tasks_start parallelism origin candidates wanted
  constructor
  case quota => rfl
  case count => rw [htasks, List.length_map]
  case source => exact List.append_nil _
  case stray => exact fun _ _ => rfl
  case lost => exact fun _ _ hmem => absurd hmem List.not_mem_nil
  case working =>
    intro i slice t hp ht
    rw [htasks, List.getElem?_map, hp] at ht
    cases ht
    exact .waiting
  case alone =>
    intro i cs hi
    rw [htasks, List.getElem?_map] at hi
    obtain ⟨slice, -, hslice⟩ := Option.map_eq_some_iff.mp hi
    cases hslice

/-- **Any moves keep what holds.** -/
theorem sharing_of_history {parallelism : Nat} {candidates : List Suggestion}
    (h : History (start parallelism origin candidates wanted) past log c) :
    Sharing origin (partsOf parallelism candidates wanted) wanted past log c := by
  induction h with
  | start => exact sharing_start origin parallelism wanted candidates
  | next _ ht ih => exact sharing_next ih ht

/-- The moves of a crew that stops at its first failure are such moves. -/
theorem history_append {c₀ c' : Crew} {moves : List Move} (h : History c₀ past log c)
    (hr : c.run moves = some c') : History c₀ (past ++ moves) (log ++ c.probed moves) c' := by
  induction moves generalizing c past log with
  | nil =>
    cases hr
    unfold Crew.probed
    rw [List.append_nil, List.append_nil]
    exact h
  | cons m r ih =>
    unfold run at hr
    rw [List.foldlM_cons] at hr
    cases hs : c.step m with
    | none => rw [hs] at hr; cases hr
    | some c₁ =>
      rw [hs] at hr
      have h₁ := ih (h.next (step_eq_some_iff.mp hs).2) hr
      unfold Crew.probed
      rw [hs]
      rw [List.append_assoc, List.append_assoc] at h₁
      exact h₁

theorem history_of_run {c₀ : Crew} {moves : List Move} (hr : c₀.run moves = some c) :
    History c₀ moves (c₀.probed moves) c := history_append .start hr

/-! ### Fetches -/

theorem countP_le_one {α : Type} {p : α → Bool} {l : List α}
    (h : ∀ (i j : Nat) a b, l[i]? = some a → l[j]? = some b → p a = true → p b = true → i = j) :
    l.countP p ≤ 1 := by
  induction l with
  | nil => exact Nat.zero_le 1
  | cons a r ih =>
    have hr := ih fun i j x y hi hj hx hy => Nat.succ.inj (h (i + 1) (j + 1) x y hi hj hx hy)
    cases ha : p a with
    | false =>
      rw [List.countP_cons_of_neg (by simp [ha])]
      exact hr
    | true =>
      have hnone : r.countP p = 0 := by
        refine List.countP_eq_zero.mpr fun b hb hpb => ?_
        obtain ⟨j, hj⟩ := List.getElem?_of_mem hb
        cases h 0 (j + 1) a b rfl hj ha hpb
      have hone : (a :: r).countP p = 1 := by rw [List.countP_cons_of_pos ha, hnone]
      exact Nat.le_of_eq hone

/-- One branch at a time fetches the filter. -/
theorem countP_isFetching_le (h : Sharing origin parts wanted past log c) :
    c.tasks.countP Task.isFetching ≤ 1 := by
  have hfetching : ∀ {t : Task}, t.isFetching = true → ∃ cs, t = .fetching cs := by
    intro t ht
    cases t with
    | fetching cs => exact ⟨cs, rfl⟩
    | _ => cases ht
  refine countP_le_one fun i j a b hi hj ha hb => ?_
  obtain ⟨cs, rfl⟩ := hfetching ha
  obtain ⟨cs', rfl⟩ := hfetching hb
  exact (h.alone j cs' hj).2 i cs hi

/-- Where there has been a filter none is fetched. -/
theorem not_fetch_of_source (h : Sharing origin parts wanted past log c)
    (hne : origin.filter.toList ++ brought past ≠ []) (i : Nat) (c' : Crew) :
    ¬ Turn c (.fetch i) c' := by
  rintro ⟨_, hs, _⟩
  rw [h.source, hs] at hne
  exact hne rfl

/-- A crew in which a branch has failed has failed. -/
theorem result?_of_failed {i : Nat} {cause : ScreeningError}
    (h : c.tasks[i]? = some (.failed cause)) : ∃ e, c.result? = some (.error e) := by
  unfold result?
  split
  · next e _ => exact ⟨e, rfl⟩
  · next hnone => cases List.findSome?_eq_none_iff.mp hnone _ (List.mem_of_getElem? h)

/-! ### Probes -/

/-- A probe is made under the one filter there is. -/
theorem exists_filter_of_probe (h : Sharing origin parts wanted past log c) {i : Nat} {c' : Crew}
    (ht : Turn c (.probe i) c') : ∃ f t, origin.filter.toList ++ brought past = [f] ∧
      c.probes (.probe i) = [(i, .probe f t)] := by
  cases ht with
  | @probe _ f t next hi =>
    obtain ⟨slice, hp⟩ := exists_getElem?_of_length_eq h.count hi
    obtain ⟨hs, -⟩ := (h.working i slice _ hp hi).probe
    refine ⟨f, t, ?_, by simp [probes, hi]⟩
    rw [h.source, hs]
    rfl

/-- A branch probes the start of its slice. -/
theorem probesOf_isPrefix (h : Sharing origin parts wanted past log c) (i : Nat) :
    probesOf i log <+: c.session.filter.toList.flatMap fun f =>
      (parts[i]?.getD []).map fun x => .probe f x.term := by
  cases hp : parts[i]? with
  | none =>
    rw [h.stray i hp]
    exact List.nil_prefix
  | some slice =>
    obtain ⟨t, ht⟩ := exists_getElem?_of_length_eq h.count.symm hp
    exact (h.working i slice t hp ht).probes_isPrefix

/-! ### Answers in any order -/

/-- Answers that agree as far as there are both are the same answers, and maybe more. -/
theorem exists_append_of_agree {α : Type} {as as' : List α} (hlen : as.length ≤ as'.length)
    (h : ∀ (n : Nat) a a', as[n]? = some a → as'[n]? = some a' → a = a') : ∃ more, as' = as ++ more := by
  refine ⟨as'.drop as.length, ?_⟩
  have htake : as'.take as.length = as := by
    refine List.ext_getElem (by rw [List.length_take]; omega) fun n h₁ h₂ => ?_
    rw [List.getElem_take]
    exact (h n _ _ (List.getElem?_eq_getElem h₂) (List.getElem?_eq_getElem (by omega))).symm
  conv => lhs; rw [← List.take_append_drop as.length as', htake]

/-- A branch that is through gains nothing from more answers. -/
theorem picked_append_of_through {slice : List Suggestion}
    {answers more : List (Except Backend.Fault Nat)}
    (hthrough : wanted ≤ (picked slice answers).length ∨ slice.drop answers.length = [])
    (hquota : (picked slice (answers ++ more)).length ≤ wanted) :
    picked slice (answers ++ more) = picked slice answers := by
  rw [picked_append, List.length_append] at hquota
  rw [picked_append]
  rcases hthrough with henough | hend
  · have hnil : picked (slice.drop answers.length) more = [] :=
      List.length_eq_zero_iff.mp (by omega)
    rw [hnil, List.append_nil]
  · rw [hend]
    exact List.append_nil _

/-- What a branch keeps is told by what its probes say. -/
theorem Working.kept_eq {s s' : Session} {slice : List Suggestion}
    {as as' : List (Except Backend.Fault Nat)} {qs qs' : List Inquiry} {t t' : Task}
    {kept kept' : List Suggestion} (h : Working s wanted slice as qs t)
    (h' : Working s' wanted slice as' qs' t') (hk : t.kept? = some kept)
    (hk' : t'.kept? = some kept')
    (hagree : ∀ (n : Nat) a a', as[n]? = some a → as'[n]? = some a' → a = a') : kept = kept' := by
  obtain ⟨rfl, hquota, hthrough⟩ := h.kept hk
  obtain ⟨rfl, hquota', hthrough'⟩ := h'.kept hk'
  rcases Nat.le_total as.length as'.length with hle | hle
  · obtain ⟨more, rfl⟩ := exists_append_of_agree hle hagree
    exact (picked_append_of_through hthrough hquota').symm
  · obtain ⟨more, rfl⟩ := exists_append_of_agree hle fun n a a' ha ha' =>
      (hagree n a' a ha' ha).symm
    exact picked_append_of_through hthrough' hquota

/-- **The same answers, the same list**, whatever the order in which they came. -/
theorem kept_eq_of_answers {origin' : Session} {past' : List Move} {log' : List (Nat × Inquiry)}
    {c' : Crew} {kept kept' : List Suggestion} (h : Sharing origin parts wanted past log c)
    (h' : Sharing origin' parts wanted past' log' c')
    (hagree : ∀ (i n : Nat) a a', (answersOf i past)[n]? = some a →
      (answersOf i past')[n]? = some a' → a = a')
    (hk : c.result? = some (.ok kept)) (hk' : c'.result? = some (.ok kept')) : kept = kept' := by
  obtain ⟨all, hmap, rfl⟩ := result?_eq_ok hk
  obtain ⟨all', hmap', rfl⟩ := result?_eq_ok hk'
  have hlength : ∀ {tasks : List Task} {all : List (List Suggestion)},
      tasks.map Task.kept? = all.map some → all.length = tasks.length := by
    intro tasks all hmap
    have hl := congrArg List.length hmap
    rw [List.length_map, List.length_map] at hl
    exact hl.symm
  have hall : all = all' := by
    refine List.ext_getElem? fun i => ?_
    cases hp : parts[i]? with
    | none =>
      have hi := List.getElem?_eq_none_iff.mp hp
      have hlen := hlength hmap
      have hlen' := hlength hmap'
      rw [h.count] at hlen
      rw [h'.count] at hlen'
      rw [List.getElem?_eq_none (by omega), List.getElem?_eq_none (by omega)]
    | some slice =>
      obtain ⟨t, ht⟩ := exists_getElem?_of_length_eq h.count.symm hp
      obtain ⟨t', ht'⟩ := exists_getElem?_of_length_eq h'.count.symm hp
      obtain ⟨k, hk, hkt⟩ := exists_kept hmap ht
      obtain ⟨k', hk', hkt'⟩ := exists_kept hmap' ht'
      rw [hk, hk']
      exact congrArg some ((h.working i slice t hp ht).kept_eq (h'.working i slice t' hp ht')
        hkt hkt' (hagree i))
  rw [hall, h.quota, h'.quota]

end Sharing

/-! ### All moves of a screening -/

section Screening

variable {parallelism wanted : Nat} {candidates : List Suggestion} {session : Session}
variable {past : List Move} {log : List (Nat × Inquiry)} {c : Crew}

/-- There are no more probes under way than branches are allowed. -/
theorem countP_isProbing_le
    (h : History (start parallelism session candidates wanted) past log c) :
    c.tasks.countP Task.isProbing ≤ max parallelism 1 := by
  have hparts : (partsOf parallelism candidates wanted).length ≤ max parallelism 1 := by
    unfold partsOf
    split
    · exact Nat.zero_le _
    · have hlen := (length_slices_le (max parallelism 1) candidates).1
      omega
  have hle : c.tasks.countP Task.isProbing ≤ c.tasks.length := List.countP_le_length
  rw [(sharing_of_history h).count] at hle
  exact Nat.le_trans hle hparts

/-- A branch probes the start of its slice, and one that is not there probes nothing. -/
theorem probesOf_isPrefix_slice
    (h : History (start parallelism session candidates wanted) past log c) (i : Nat) :
    probesOf i log <+: (session.filter.toList ++ brought past).flatMap fun f =>
      ((slices (max parallelism 1) candidates)[i]?.getD []).map fun x => .probe f x.term := by
  have hs := sharing_of_history h
  have hprefix := probesOf_isPrefix hs i
  rw [hs.source]
  by_cases hn : wanted = 0 ∨ candidates = []
  · rw [hs.stray i (by rw [partsOf_of_nothing hn]; rfl)]
    exact List.nil_prefix
  · rw [partsOf_of_something hn] at hprefix
    exact hprefix

end Screening

end Crew

/-! ## Top theorem -/

/-- **Branches share one filter, whatever they do in which order.**  At most one fetch is under
way, none begins once there is a filter, and a fetch that fails is an error for all.  Every probe
is made under that one filter, no more of them at once than there may be branches, and by each
branch as far as its slice goes.  And the list that comes out depends on what the probes say, not
on when they say it. -/
theorem branches_share_filter (parallelism wanted : Nat) (candidates : List Suggestion)
    (session : Session) :
    let origin := Crew.start parallelism session candidates wanted
    (∀ past log c, origin.History past log c →
      let filters := session.filter.toList ++ Crew.brought past
      -- fetches
      c.tasks.countP Task.isFetching ≤ 1 ∧
      filters = c.session.filter.toList ∧
      (filters ≠ [] → ∀ i c', ¬ c.Turn (.fetch i) c') ∧
      (∀ i e, .fetched i (.error e) ∈ past → ∃ cause, c.result? = some (.error cause)) ∧
      -- probes
      (∀ i c', c.Turn (.probe i) c' →
        ∃ f t, filters = [f] ∧ c.probes (.probe i) = [(i, .probe f t)]) ∧
      c.tasks.countP Task.isProbing ≤ max parallelism 1 ∧
      (∀ i, Crew.probesOf i log <+: filters.flatMap fun f =>
        ((slices (max parallelism 1) candidates)[i]?.getD []).map fun x => .probe f x.term) ∧
      -- the same answers in another order
      (∀ past' log' c' kept kept', origin.History past' log' c' →
        (∀ (i n : Nat) a a', (Crew.answersOf i past)[n]? = some a →
          (Crew.answersOf i past')[n]? = some a' → a = a') →
        c.result? = some (.ok kept) → c'.result? = some (.ok kept') → kept = kept')) ∧
    (slices (max parallelism 1) candidates).flatten = candidates ∧
    -- the moves of a crew that stops at its first failure
    (∀ moves c, origin.run moves = some c → origin.History moves (origin.probed moves) c) := by
  intro origin
  refine ⟨fun past log c h => ?_, flatten_slices _ _, fun _ _ hr => Crew.history_of_run hr⟩
  have hs := Crew.sharing_of_history h
  refine ⟨Crew.countP_isFetching_le hs, hs.source, Crew.not_fetch_of_source hs, ?_,
    fun _ _ ht => Crew.exists_filter_of_probe hs ht, Crew.countP_isProbing_le h,
    Crew.probesOf_isPrefix_slice h, ?_⟩
  · intro i e hmem
    obtain ⟨cause, hfailed⟩ := hs.lost i e hmem
    exact Crew.result?_of_failed hfailed
  · intro past' log' c' kept kept' h' hagree hk hk'
    exact Crew.kept_eq_of_answers hs (Crew.sharing_of_history h') hagree hk hk'

end SearchGateway.Access
