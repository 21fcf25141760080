import SearchGateway.Access.Crew
import SearchGateway.Proofs.Access.Screening
import SearchGateway.Proofs.Steps

/-!
# Branches side by side keep what one branch keeps

Whatever the branches of a screening do in which order, what comes out is what one branch over
all candidates would have kept.  For that each branch is followed by itself: what it has asked
and what it still has to ask make up the questions of its slice, as long as every probe says
what it always says.

    Crew.Turn                 one move, with what must hold before it
    Crew.Sound                what holds after any moves
    Crew.sound_step           one move keeps it
    Crew.sound_run            and so do any moves
    Crew.exists_move          a crew that is not through can go on
    Crew.left_step            and it cannot go on for ever
    Crew.run_keeps            what comes out of any moves of a whole screening

`screening_keeps_firstVisible` puts this beside what holds of branches one after the other.
-/

namespace SearchGateway.Access

open Backend (Suggestion)

namespace Crew

/-! ## Algorithm -/

/-- A world for the probes of a branch. -/
def oracle (outcome : Filter → String → Except Backend.Fault Nat) :
    (q : Inquiry) → Unit → q.Answer × Unit
  | .filter, _ => (.ok .unrestricted, ())
  | .probe f t, _ => (outcome f t, ())

/-- The probe that a move makes, and the branch that makes it. -/
def probes (c : Crew) : Move → List (Nat × Inquiry)
  | .probe i =>
    match c.tasks[i]? with
    | some (.probing (.ask q _) _) => [(i, q)]
    | _ => []
  | _ => []

/-- The probes that are made by moves one after the other. -/
def probed (c : Crew) : List Move → List (Nat × Inquiry)
  | [] => []
  | m :: r =>
    match c.step m with
    | some c' => c.probes m ++ c'.probed r
    | none => []

/-- The probes of one branch. -/
def probesOf (branch : Nat) (log : List (Nat × Inquiry)) : List Inquiry :=
  (log.filter fun e => e.1 = branch).map Prod.snd

/-- Whether the answer that a move brings is what the probe always says. -/
def Honest (outcome : Filter → String → Except Backend.Fault Nat) (c : Crew) : Move → Prop
  | .probed i a => ∀ f t next underWay,
      c.tasks[i]? = some (.probing (.ask (.probe f t) next) underWay) → a = outcome f t
  | _ => True

/-- Whether every move among moves one after the other is such. -/
def HonestRun (outcome : Filter → String → Except Backend.Fault Nat) : Crew → List Move → Prop
  | _, [] => True
  | c, m :: r => Honest outcome c m ∧ ∀ c', c.step m = some c' → HonestRun outcome c' r

/-- One move, with what must hold before it. -/
inductive Turn (c : Crew) : Move → Crew → Prop
  | fetch {i cs} (h : c.tasks[i]? = some (.waiting cs)) (hs : c.session.filter = none)
      (hf : c.tasks.any Task.isFetching = false) : Turn c (.fetch i) (c.become i (.fetching cs))
  | fetched {i cs f} (h : c.tasks[i]? = some (.fetching cs)) :
      Turn c (.fetched i (.ok f)) ({ c with session := ⟨some f⟩ }.become i (c.begin f cs))
  | lost {i cs e} (h : c.tasks[i]? = some (.fetching cs)) :
      Turn c (.fetched i (.error e)) (c.become i (.failed (.entitlement e)))
  | take {i cs f} (h : c.tasks[i]? = some (.waiting cs)) (hs : c.session.filter = some f) :
      Turn c (.take i) (c.become i (c.begin f cs))
  | probe {i f t next} (h : c.tasks[i]? = some (.probing (.ask (.probe f t) next) false)) :
      Turn c (.probe i) (c.become i (.probing (.ask (.probe f t) next) true))
  | probed {i f t next a} (h : c.tasks[i]? = some (.probing (.ask (.probe f t) next) true)) :
      Turn c (.probed i a) (c.become i (Task.settle (next a)))

/-- The slices of a screening. -/
def partsOf (parallelism : Nat) (candidates : List Suggestion) (wanted : Nat) :
    List (List Suggestion) :=
  if wanted = 0 ∨ candidates = [] then [] else slices (max parallelism 1) candidates

/-- How many moves a branch can still make at most. -/
def leftOf (outcome : Filter → String → Except Backend.Fault Nat) : Task → Nat
  | .waiting cs => 2 * cs.length + 2
  | .fetching cs => 2 * cs.length + 1
  | .probing rest underWay =>
    2 * (rest.asked (oracle outcome) ()).length - (if underWay then 1 else 0)
  | .failed _ => 0

/-- How many moves branches can still make together. -/
def leftOfAll (outcome : Filter → String → Except Backend.Fault Nat) : List Task → Nat
  | [] => 0
  | t :: r => leftOf outcome t + leftOfAll outcome r

/-- How many moves a crew can still make at most. -/
def left (outcome : Filter → String → Except Backend.Fault Nat) (c : Crew) : Nat :=
  leftOfAll outcome c.tasks

/-- How far a branch has got with its slice: what it has probed, and what it does. -/
inductive Doing (outcome : Filter → String → Except Backend.Fault Nat) (past : List Move)
    (s : Session) (wanted : Nat) (slice : List Suggestion) : List Inquiry → Task → Prop
  | waiting : Doing outcome past s wanted slice [] (.waiting slice)
  | fetching : Doing outcome past s wanted slice [] (.fetching slice)
  | probing {f rest underWay qs} (hs : s.filter = some f)
      (hrun : (rest.run (oracle outcome) ()).1 =
        ((Screening.leaf f wanted slice).run (oracle outcome) ()).1)
      (hasked : qs ++ (rest.asked (oracle outcome) ()).drop (if underWay then 1 else 0) =
        (Screening.leaf f wanted slice).asked (oracle outcome) ())
      (hrest : (∃ kept, rest = .done (.ok kept)) ∨ ∃ g t next, rest = .ask (.probe g t) next) :
      Doing outcome past s wanted slice qs (.probing rest underWay)
  | lost {e i} (h : .fetched i (.error e) ∈ past) :
      Doing outcome past s wanted slice [] (.failed (.entitlement e))
  | spoiled {f e qs} (hs : s.filter = some f)
      (hrun : ((Screening.leaf f wanted slice).run (oracle outcome) ()).1 = .error e)
      (hasked : qs = (Screening.leaf f wanted slice).asked (oracle outcome) ()) :
      Doing outcome past s wanted slice qs (.failed (.probe e))

/-- What holds of a crew after moves that have made probes. -/
structure Sound (outcome : Filter → String → Except Backend.Fault Nat)
    (parts : List (List Suggestion)) (wanted : Nat) (past : List Move)
    (log : List (Nat × Inquiry)) (c : Crew) : Prop where
  quota : c.wanted = wanted
  count : c.tasks.length = parts.length
  doing : ∀ (i : Nat) slice t, parts[i]? = some slice → c.tasks[i]? = some t →
    Doing outcome past c.session wanted slice (probesOf i log) t
  stray : ∀ i, parts[i]? = none → probesOf i log = []
  /-- A filter is only fetched as long as there is none, and by one branch at a time. -/
  alone : ∀ (i : Nat) cs, c.tasks[i]? = some (.fetching cs) →
    c.session.filter = none ∧ ∀ (j : Nat) cs', c.tasks[j]? = some (.fetching cs') → j = i

/-! ## Lemmas -/

/-! ### Moves -/

/-- A crew makes a move exactly if no branch has failed and the move has its turn. -/
theorem step_eq_some_iff {c c' : Crew} {m : Move} :
    c.step m = some c' ↔ c.isOver = false ∧ Turn c m c' := by
  constructor
  · intro h
    unfold step at h
    split at h
    · cases h
    · next ho =>
      refine ⟨by simpa using ho, ?_⟩
      cases m with
      | fetch i =>
        simp only at h
        split at h
        · next cs ht hs =>
          split at h
          · cases h
          · next hf =>
            cases h
            exact .fetch ht hs (by simpa using hf)
        · cases h
      | fetched i a =>
        simp only at h
        split at h
        · next cs f ht =>
          cases h
          exact .fetched ht
        · next cs e ht =>
          cases h
          exact .lost ht
        · cases h
      | take i =>
        simp only at h
        split at h
        · next cs f ht hs =>
          cases h
          exact .take ht hs
        · cases h
      | probe i =>
        simp only at h
        split at h
        · next f t next ht =>
          cases h
          exact .probe ht
        · cases h
      | probed i a =>
        simp only at h
        split at h
        · next f t next ht =>
          cases h
          exact .probed ht
        · cases h
  · rintro ⟨ho, ht⟩
    unfold step
    rw [if_neg (by simp [ho])]
    cases ht with
    | fetch h hs hf => simp [h, hs, hf]
    | fetched h => simp [h]
    | lost h => simp [h]
    | take h hs => simp [h, hs]
    | probe h => simp [h]
    | probed h => simp [h]

theorem probesOf_append (i : Nat) (log more : List (Nat × Inquiry)) :
    probesOf i (log ++ more) = probesOf i log ++ probesOf i more := by
  unfold probesOf
  rw [List.filter_append, List.map_append]

/-! ### What one branch does -/

section Doing

variable {outcome : Filter → String → Except Backend.Fault Nat} {past : List Move} {s : Session}
variable {wanted : Nat} {slice : List Suggestion} {qs : List Inquiry}

theorem consistent_oracle (outcome : Filter → String → Except Backend.Fault Nat) :
    Consistent (oracle outcome) outcome := fun _ _ _ => rfl

/-- What has been done stays done when more moves follow. -/
theorem Doing.mono {t : Task} (h : Doing outcome past s wanted slice qs t) (m : Move) :
    Doing outcome (past ++ [m]) s wanted slice qs t := by
  cases h with
  | waiting => exact .waiting
  | fetching => exact .fetching
  | probing hs hrun hasked hrest => exact .probing hs hrun hasked hrest
  | lost h => exact .lost (List.mem_append_left _ h)
  | spoiled hs hrun hasked => exact .spoiled hs hrun hasked

theorem Doing.of_waiting {cs : List Suggestion}
    (h : Doing outcome past s wanted slice qs (.waiting cs)) : qs = [] ∧ cs = slice := by
  cases h
  exact ⟨rfl, rfl⟩

theorem Doing.of_fetching {cs : List Suggestion}
    (h : Doing outcome past s wanted slice qs (.fetching cs)) : qs = [] ∧ cs = slice := by
  cases h
  exact ⟨rfl, rfl⟩

/-- A branch that goes on as its slice would is on its way, or has failed as its slice does. -/
theorem doing_settle {f : Filter} {rest : Inquiring (Except Backend.Fault (List Suggestion))}
    (hs : s.filter = some f)
    (hrun : (rest.run (oracle outcome) ()).1 =
      ((Screening.leaf f wanted slice).run (oracle outcome) ()).1)
    (hasked : qs ++ rest.asked (oracle outcome) () =
      (Screening.leaf f wanted slice).asked (oracle outcome) ()) :
    Doing outcome past s wanted slice qs (Task.settle rest) := by
  cases rest with
  | done a =>
    cases a with
    | error e =>
      refine .spoiled hs hrun.symm ?_
      rw [← hasked]
      exact (List.append_nil qs).symm
    | ok kept => exact .probing hs hrun hasked (.inl ⟨kept, rfl⟩)
  | ask q next =>
    refine .probing hs hrun hasked (.inr ?_)
    have hleaf := (Screening.asked_leaf (consistent_oracle outcome) f slice wanted ()).subset
    have hq : q ∈ slice.map fun c => Inquiry.probe f c.term :=
      hleaf (hasked ▸ List.mem_append_right qs List.mem_cons_self)
    obtain ⟨c, -, rfl⟩ := List.mem_map.mp hq
    exact ⟨f, c.term, next, rfl⟩

/-- A branch that has just got the filter has its whole slice before it. -/
theorem doing_begin {f : Filter} (hs : s.filter = some f) :
    Doing outcome past s wanted slice [] (Task.settle (Screening.leaf f wanted slice)) :=
  doing_settle hs rfl rfl

theorem Doing.probe {f : Filter} {t : String}
    {next : Except Backend.Fault Nat → Inquiring (Except Backend.Fault (List Suggestion))}
    (h : Doing outcome past s wanted slice qs (.probing (.ask (.probe f t) next) false)) :
    Doing outcome past s wanted slice (qs ++ [.probe f t])
      (.probing (.ask (.probe f t) next) true) := by
  cases h with
  | probing hs hrun hasked hrest =>
    refine .probing hs hrun ?_ hrest
    rw [← hasked, List.append_assoc]
    rfl

theorem Doing.probed {f : Filter} {t : String}
    {next : Except Backend.Fault Nat → Inquiring (Except Backend.Fault (List Suggestion))}
    (h : Doing outcome past s wanted slice qs (.probing (.ask (.probe f t) next) true)) :
    Doing outcome past s wanted slice qs (Task.settle (next (outcome f t))) := by
  cases h with
  | probing hs hrun hasked hrest => exact doing_settle hs hrun hasked

/-- What a branch has probed is the start of its slice, under the session's filter. -/
theorem Doing.probes_isPrefix {t : Task} (h : Doing outcome past s wanted slice qs t) :
    qs <+: slice.map fun c => .probe (s.filter.getD .unrestricted) c.term := by
  have hleaf := fun f => Screening.asked_leaf (consistent_oracle outcome) f slice wanted ()
  cases h with
  | waiting => exact List.nil_prefix
  | fetching => exact List.nil_prefix
  | probing hs hrun hasked hrest =>
    rw [hs]
    exact (List.prefix_append _ _).trans (hasked ▸ hleaf _)
  | lost h => exact List.nil_prefix
  | spoiled hs hrun hasked =>
    rw [hs, hasked]
    exact hleaf _

/-- A branch that is through has kept what its slice has to give. -/
theorem Doing.kept {t : Task} {kept : List Suggestion}
    (h : Doing outcome past s wanted slice qs t) (hk : t.kept? = some kept) :
    ∃ f, s.filter = some f ∧ kept = firstVisible (outcome f) wanted slice := by
  cases h with
  | waiting => cases hk
  | fetching => cases hk
  | @probing f rest underWay _ hs hrun hasked hrest =>
    refine ⟨f, hs, ?_⟩
    rcases hrest with ⟨kept', rfl⟩ | ⟨g, t, next, rfl⟩
    · cases hk
      exact Screening.run_leaf (consistent_oracle outcome) f slice wanted () kept hrun.symm
    · cases hk
  | lost h => cases hk
  | spoiled hs hrun hasked => cases hk

end Doing

/-! ### What the crew does -/

section Sound

variable {outcome : Filter → String → Except Backend.Fault Nat} {parts : List (List Suggestion)}
variable {wanted : Nat} {past : List Move} {log : List (Nat × Inquiry)} {c : Crew}

theorem probesOf_map (i j : Nat) (qs : List Inquiry) :
    probesOf j (qs.map fun q => (i, q)) = if j = i then qs else [] := by
  unfold probesOf
  by_cases h : j = i
  · simp [h, List.filter_map, Function.comp_def]
  · simp [h, Ne.symm h, List.filter_map, Function.comp_def]

theorem settle_ne_fetching (d : Inquiring (Except Backend.Fault (List Suggestion)))
    (cs : List Suggestion) : Task.settle d ≠ .fetching cs := by
  unfold Task.settle
  split <;> exact fun h => by cases h

/-- Lists of one length go along with each other. -/
theorem exists_getElem?_of_length_eq {α β : Type} {l : List α} {l' : List β}
    (h : l.length = l'.length) {i : Nat} {a : α} (ha : l[i]? = some a) : ∃ b, l'[i]? = some b := by
  have hi : i < l.length := (List.getElem?_eq_some_iff.mp ha).1
  exact ⟨l'[i], List.getElem?_eq_getElem (h ▸ hi)⟩

/-- Every branch has a slice. -/
theorem Sound.exists_slice (h : Sound outcome parts wanted past log c) {i : Nat} {t : Task}
    (ht : c.tasks[i]? = some t) : ∃ slice, parts[i]? = some slice :=
  exists_getElem?_of_length_eq h.count ht

/-- Every slice has a branch. -/
theorem Sound.exists_task (h : Sound outcome parts wanted past log c) {i : Nat}
    {slice : List Suggestion} (hp : parts[i]? = some slice) : ∃ t, c.tasks[i]? = some t :=
  exists_getElem?_of_length_eq h.count.symm hp

/-- A move of one branch keeps what holds, if it keeps it for that branch and lets the others
be. -/
theorem Sound.update (h : Sound outcome parts wanted past log c) (m : Move) {i : Nat} {t : Task}
    (s' : Session) (qs : List Inquiry) (hi : i < c.tasks.length)
    (ht : ∀ slice, parts[i]? = some slice →
      Doing outcome (past ++ [m]) s' wanted slice (probesOf i log ++ qs) t)
    (hothers : ∀ j slice qs t', j ≠ i → c.tasks[j]? = some t' →
      Doing outcome past c.session wanted slice qs t' →
      Doing outcome (past ++ [m]) s' wanted slice qs t')
    (halone : ∀ (j : Nat) cs, (c.tasks.set i t)[j]? = some (.fetching cs) →
      s'.filter = none ∧ ∀ (k : Nat) cs', (c.tasks.set i t)[k]? = some (.fetching cs') → k = j) :
    Sound outcome parts wanted (past ++ [m]) (log ++ qs.map fun q => (i, q))
      ({ c with session := s' }.become i t) where
  quota := h.quota
  count := by
    show (c.tasks.set i t).length = _
    rw [List.length_set, h.count]
  doing := by
    intro j slice t' hs ht'
    replace ht' : (c.tasks.set i t)[j]? = some t' := ht'
    rw [probesOf_append, probesOf_map]
    by_cases hj : j = i
    · subst hj
      rw [if_pos rfl]
      rw [List.getElem?_set_self hi, Option.some.injEq] at ht'
      rw [← ht']
      exact ht slice hs
    · rw [if_neg hj, List.append_nil]
      rw [List.getElem?_set_ne (Ne.symm hj)] at ht'
      exact hothers j slice _ t' hj ht' (h.doing j slice t' hs ht')
  stray := by
    intro j hj
    have hij : j ≠ i := by
      rintro rfl
      rw [List.getElem?_eq_none_iff, ← h.count] at hj
      omega
    rw [probesOf_append, probesOf_map, if_neg hij, h.stray j hj]
    rfl
  alone := halone

/-- Where a branch does not begin to fetch, whoever fetches did so before. -/
theorem fetching_of_set {tasks : List Task} {i j : Nat} {t : Task} {cs : List Suggestion}
    (ht : ∀ cs, t ≠ .fetching cs) (hj : (tasks.set i t)[j]? = some (.fetching cs)) :
    j ≠ i ∧ tasks[j]? = some (.fetching cs) := by
  by_cases hij : j = i
  · rw [List.getElem?_set, if_pos hij.symm] at hj
    split at hj
    · exact absurd (Option.some.inj hj) (ht cs)
    · cases hj
  · rw [List.getElem?_set_ne (Ne.symm hij)] at hj
    exact ⟨hij, hj⟩

/-- A move that leaves the session alone, of a branch that does not begin to fetch. -/
theorem Sound.become (h : Sound outcome parts wanted past log c) (m : Move) {i : Nat} {t : Task}
    (qs : List Inquiry) (hi : i < c.tasks.length) (hf : ∀ cs, t ≠ .fetching cs)
    (ht : ∀ slice, parts[i]? = some slice →
      Doing outcome (past ++ [m]) c.session wanted slice (probesOf i log ++ qs) t) :
    Sound outcome parts wanted (past ++ [m]) (log ++ qs.map fun q => (i, q)) (c.become i t) := by
  refine h.update m c.session qs hi ht (fun _ _ _ _ _ _ hd => hd.mono m) ?_
  intro j cs hj
  obtain ⟨-, hj⟩ := fetching_of_set hf hj
  obtain ⟨hs, hone⟩ := h.alone j cs hj
  refine ⟨hs, fun k cs' hk => ?_⟩
  exact hone k cs' (fetching_of_set hf hk).2

/-- **One move keeps what holds**, whatever branch makes it. -/
theorem sound_step {m : Move} {c' : Crew} (h : Sound outcome parts wanted past log c)
    (hm : Honest outcome c m) (hs : c.step m = some c') :
    Sound outcome parts wanted (past ++ [m]) (log ++ c.probes m) c' := by
  obtain ⟨-, ht⟩ := step_eq_some_iff.mp hs
  have hlt : ∀ {i : Nat} {t : Task}, c.tasks[i]? = some t → i < c.tasks.length := fun hi =>
    (List.getElem?_eq_some_iff.mp hi).1
  cases ht with
  | @fetch i cs hi hnone hf =>
    have hidle : ∀ (j : Nat) cs', c.tasks[j]? ≠ some (.fetching cs') := by
      intro j cs' hj
      have hany := List.any_eq_false.mp hf _ (List.mem_of_getElem? hj)
      exact hany rfl
    have honly : ∀ (j : Nat) cs', (c.tasks.set i (.fetching cs))[j]? = some (.fetching cs') →
        j = i := by
      intro j cs' hj
      by_cases hij : j = i
      · exact hij
      · rw [List.getElem?_set_ne (Ne.symm hij)] at hj
        exact absurd hj (hidle j cs')
    refine h.update _ c.session [] (hlt hi) ?_ (fun _ _ _ _ _ _ hd => hd.mono _) ?_
    · intro slice hp
      obtain ⟨hq, rfl⟩ := (h.doing i slice _ hp hi).of_waiting
      rw [hq]
      exact .fetching
    · intro j cs' hj
      refine ⟨hnone, fun k cs'' hk => ?_⟩
      rw [honly j cs' hj, honly k cs'' hk]
  | @fetched i cs f hi =>
    obtain ⟨hnone, hone⟩ := h.alone i cs hi
    refine h.update _ ⟨some f⟩ [] (hlt hi) ?_ ?_ ?_
    · intro slice hp
      obtain ⟨hq, rfl⟩ := (h.doing i slice _ hp hi).of_fetching
      rw [hq]
      unfold begin
      rw [h.quota]
      exact doing_begin rfl
    · -- nobody else can have had a filter before it was fetched
      intro j slice qs t hj ht hd
      cases hd with
      | waiting => exact .waiting
      | fetching => exact absurd (hone j slice ht) hj
      | probing hs => rw [hnone] at hs; cases hs
      | lost hl => exact .lost (List.mem_append_left _ hl)
      | spoiled hs => rw [hnone] at hs; cases hs
    · intro j cs' hj
      obtain ⟨hji, hj⟩ := fetching_of_set (settle_ne_fetching _) hj
      exact absurd (hone j cs' hj) hji
  | @lost i cs e hi =>
    refine h.become _ [] (hlt hi) (fun _ hc => by cases hc) fun slice hp => ?_
    obtain ⟨hq, rfl⟩ := (h.doing i slice _ hp hi).of_fetching
    rw [hq]
    exact .lost (List.mem_append_right _ (List.mem_singleton_self _))
  | @take i cs f hi hf =>
    refine h.become _ [] (hlt hi) (settle_ne_fetching _) fun slice hp => ?_
    obtain ⟨hq, rfl⟩ := (h.doing i slice _ hp hi).of_waiting
    rw [hq]
    unfold begin
    rw [h.quota]
    exact doing_begin hf
  | @probe i f t next hi =>
    have hprobes : c.probes (.probe i) = [Inquiry.probe f t].map fun q => (i, q) := by
      simp [probes, hi]
    rw [hprobes]
    refine h.become _ _ (hlt hi) (fun _ hc => by cases hc) fun slice hp => ?_
    exact ((h.doing i slice _ hp hi).mono _).probe
  | @probed i f t next a hi =>
    refine h.become _ [] (hlt hi) (settle_ne_fetching _) fun slice hp => ?_
    rw [hm f t next true hi, List.append_nil]
    exact ((h.doing i slice _ hp hi).mono _).probed

theorem tasks_start (parallelism : Nat) (s : Session) (candidates : List Suggestion)
    (wanted : Nat) : (start parallelism s candidates wanted).tasks =
      (partsOf parallelism candidates wanted).map .waiting := by
  unfold start partsOf
  split <;> rfl

/-- What holds at first. -/
theorem sound_start (outcome : Filter → String → Except Backend.Fault Nat) (parallelism : Nat)
    (s : Session) (candidates : List Suggestion) (wanted : Nat) :
    Sound outcome (partsOf parallelism candidates wanted) wanted [] []
      (start parallelism s candidates wanted) := by
  have htasks := tasks_start parallelism s candidates wanted
  refine ⟨rfl, by rw [htasks, List.length_map], ?_, fun _ _ => rfl, ?_⟩
  · intro i slice t hp ht
    rw [htasks, List.getElem?_map, hp] at ht
    cases ht
    exact .waiting
  · intro i cs hi
    rw [htasks, List.getElem?_map] at hi
    cases hp : (partsOf parallelism candidates wanted)[i]? with
    | none => rw [hp] at hi; cases hi
    | some slice => rw [hp] at hi; cases hi

/-- **Any moves keep what holds.** -/
theorem sound_run {moves : List Move} {c' : Crew} (h : Sound outcome parts wanted past log c)
    (hm : HonestRun outcome c moves) (hr : c.run moves = some c') :
    Sound outcome parts wanted (past ++ moves) (log ++ c.probed moves) c' := by
  induction moves generalizing c past log with
  | nil =>
    cases hr
    rw [List.append_nil]
    unfold Crew.probed
    rw [List.append_nil]
    exact h
  | cons m r ih =>
    unfold run at hr
    rw [List.foldlM_cons] at hr
    cases hs : c.step m with
    | none => rw [hs] at hr; cases hr
    | some c₁ =>
      rw [hs] at hr
      have h₁ := ih (sound_step h hm.1 hs) (hm.2 c₁ hs) hr
      unfold Crew.probed
      rw [hs]
      rw [List.append_assoc, List.append_assoc] at h₁
      exact h₁

/-! ### Coming to an end -/

theorem leftOfAll_set {tasks : List Task} {i : Nat} {t : Task} (t' : Task)
    (h : tasks[i]? = some t) :
    leftOfAll outcome (tasks.set i t') + leftOf outcome t =
      leftOfAll outcome tasks + leftOf outcome t' := by
  induction tasks generalizing i with
  | nil => cases h
  | cons a r ih =>
    cases i with
    | zero =>
      cases h
      simp only [List.set_cons_zero, leftOfAll]
      omega
    | succ i =>
      have hr := ih h
      simp only [List.set_cons_succ, leftOfAll]
      omega

theorem left_become {i : Nat} {t t' : Task} (s' : Session) (h : c.tasks[i]? = some t)
    (hlt : leftOf outcome t' < leftOf outcome t) :
    left outcome ({ c with session := s' }.become i t') < left outcome c := by
  have hset : leftOfAll outcome (c.tasks.set i t') + _ = _ := leftOfAll_set t' h
  unfold left become
  simp only
  omega

theorem leftOf_settle (outcome : Filter → String → Except Backend.Fault Nat)
    (d : Inquiring (Except Backend.Fault (List Suggestion))) :
    leftOf outcome (Task.settle d) ≤ 2 * (d.asked (oracle outcome) ()).length := by
  unfold Task.settle
  split
  · exact Nat.zero_le _
  · show 2 * _ - 0 ≤ _
    omega

theorem leftOf_begin (outcome : Filter → String → Except Backend.Fault Nat) (c : Crew)
    (f : Filter) (cs : List Suggestion) :
    leftOf outcome (c.begin f cs) ≤ 2 * cs.length := by
  have hs := leftOf_settle outcome (Screening.leaf f c.wanted cs)
  have hl := (Screening.asked_leaf (consistent_oracle outcome) f cs c.wanted ()).length_le
  rw [List.length_map] at hl
  unfold begin
  omega

/-- Every move uses up something. -/
theorem left_step {m : Move} {c' : Crew} (hm : Honest outcome c m) (hs : c.step m = some c') :
    left outcome c' < left outcome c := by
  obtain ⟨-, ht⟩ := step_eq_some_iff.mp hs
  cases ht with
  | @fetch i cs hi hnone hf =>
    refine left_become c.session hi ?_
    show 2 * cs.length + 1 < 2 * cs.length + 2
    omega
  | @fetched i cs f hi =>
    have hb := leftOf_begin outcome c f cs
    refine left_become ⟨some f⟩ hi (Nat.lt_of_le_of_lt hb ?_)
    show 2 * cs.length < 2 * cs.length + 1
    omega
  | @lost i cs e hi =>
    refine left_become c.session hi ?_
    show 0 < 2 * cs.length + 1
    omega
  | @take i cs f hi hf =>
    have hb := leftOf_begin outcome c f cs
    refine left_become c.session hi (Nat.lt_of_le_of_lt hb ?_)
    show 2 * cs.length < 2 * cs.length + 2
    omega
  | @probe i f t next hi =>
    refine left_become c.session hi ?_
    simp only [leftOf, Dialogue.asked, List.length_cons, if_true, if_false, Bool.false_eq_true]
    omega
  | @probed i f t next a hi =>
    obtain rfl := hm f t next true hi
    have hl := leftOf_settle outcome (next (outcome f t))
    refine left_become c.session hi (Nat.lt_of_le_of_lt hl ?_)
    show 2 * ((next (outcome f t)).asked (oracle outcome) ()).length <
      2 * (((next (outcome f t)).asked (oracle outcome) ()).length + 1) - 1
    omega

theorem left_run {moves : List Move} {c' : Crew} (hm : HonestRun outcome c moves)
    (hr : c.run moves = some c') : left outcome c' + moves.length ≤ left outcome c := by
  induction moves generalizing c with
  | nil =>
    cases hr
    exact Nat.le_refl _
  | cons m r ih =>
    unfold run at hr
    rw [List.foldlM_cons] at hr
    cases hs : c.step m with
    | none => rw [hs] at hr; cases hr
    | some c₁ =>
      rw [hs] at hr
      have h₁ := ih (hm.2 c₁ hs) hr
      have hlt := left_step hm.1 hs
      rw [List.length_cons]
      omega

theorem leftOfAll_waiting (parts : List (List Suggestion)) :
    leftOfAll outcome (parts.map Task.waiting) = 2 * parts.flatten.length + 2 * parts.length := by
  induction parts with
  | nil => rfl
  | cons p r ih =>
    simp only [List.map_cons, leftOfAll, List.flatten_cons, List.length_append, List.length_cons,
      ih, leftOf]
    omega

/-- A screening makes no more than four moves for each candidate. -/
theorem left_start_le (outcome : Filter → String → Except Backend.Fault Nat) (parallelism : Nat)
    (s : Session) (candidates : List Suggestion) (wanted : Nat) :
    left outcome (start parallelism s candidates wanted) ≤ 4 * candidates.length := by
  unfold left start
  split
  · exact Nat.zero_le _
  · next h =>
    have hlen := (length_slices_le (max parallelism 1) candidates).2
    have hpos : 0 < candidates.length := List.length_pos_iff.mpr fun hc => h (Or.inr hc)
    rw [leftOfAll_waiting, flatten_slices]
    omega

/-! ### Going on -/

theorem mapM_eq_none {α β : Type} {f : α → Option β} {l : List α} (h : l.mapM f = none) :
    ∃ a ∈ l, f a = none := by
  induction l with
  | nil => cases h
  | cons a r ih =>
    cases ha : f a with
    | none => exact ⟨a, List.mem_cons_self, ha⟩
    | some b =>
      cases hr : r.mapM f with
      | none =>
        obtain ⟨a', hmem, ha'⟩ := ih hr
        exact ⟨a', List.mem_cons_of_mem a hmem, ha'⟩
      | some bs =>
        rw [List.mapM_cons, ha, hr] at h
        cases h

/-- Without a failed branch there is no failure to report. -/
theorem result?_of_not_over (ho : c.isOver = false) :
    c.result? = (c.tasks.mapM Task.kept?).map fun kept => .ok (kept.flatten.take c.wanted) := by
  unfold result?
  split
  · next e he =>
    obtain ⟨t, ht, hte⟩ := List.exists_of_findSome?_eq_some he
    have hf := List.any_eq_false.mp ho t ht
    cases t with
    | failed e => exact absurd rfl hf
    | _ => cases hte
  · rfl

/-- A crew that has neither failed nor come through can go on. -/
theorem exists_move (h : Sound outcome parts wanted past log c) (ho : c.isOver = false)
    (hr : c.result? = none) : ∃ m c', Honest outcome c m ∧ c.step m = some c' := by
  rw [result?_of_not_over ho, Option.map_eq_none_iff] at hr
  obtain ⟨t, hmem, hk⟩ := mapM_eq_none hr
  obtain ⟨i, hi⟩ := List.getElem?_of_mem hmem
  obtain ⟨slice, hp⟩ := h.exists_slice hi
  have hd := h.doing i slice t hp hi
  have hturn : ∀ {m c'}, Turn c m c' → c.step m = some c' := fun ht =>
    step_eq_some_iff.mpr ⟨ho, ht⟩
  generalize probesOf i log = qs at hd
  cases hd with
  | waiting =>
    cases hs : c.session.filter with
    | some f => exact ⟨.take i, _, trivial, hturn (.take hi hs)⟩
    | none =>
      cases hany : c.tasks.any Task.isFetching with
      | false => exact ⟨.fetch i, _, trivial, hturn (.fetch hi hs hany)⟩
      | true =>
        -- the filter is being fetched for another branch
        obtain ⟨t, hmem, ht⟩ := List.any_eq_true.mp hany
        obtain ⟨j, hj⟩ := List.getElem?_of_mem hmem
        cases t with
        | fetching cs => exact ⟨.fetched j (.ok .unrestricted), _, trivial, hturn (.fetched hj)⟩
        | _ => cases ht
  | fetching => exact ⟨.fetched i (.ok .unrestricted), _, trivial, hturn (.fetched hi)⟩
  | @probing f rest underWay _ hs hrun hasked hrest =>
    rcases hrest with ⟨kept, rfl⟩ | ⟨g, t, next, rfl⟩
    · cases hk
    · cases underWay with
      | false => exact ⟨.probe i, _, trivial, hturn (.probe hi)⟩
      | true =>
        refine ⟨.probed i (outcome g t), _, ?_, hturn (.probed hi)⟩
        intro f' t' next' underWay' hi'
        rw [hi] at hi'
        cases hi'
        rfl
  | lost => exact absurd rfl (List.any_eq_false.mp ho _ hmem)
  | spoiled => exact absurd rfl (List.any_eq_false.mp ho _ hmem)

/-- Branches fail only where the filter cannot be fetched or a probe cannot be made. -/
theorem not_over (h : Sound outcome parts wanted past log c)
    (hf : ∀ i e, .fetched i (.error e) ∉ past)
    (hall : ∀ f, c.session.filter = some f → AllProbed (outcome f) parts.flatten) :
    c.isOver = false := by
  refine List.any_eq_false.mpr fun t hmem ht => ?_
  obtain ⟨i, hi⟩ := List.getElem?_of_mem hmem
  obtain ⟨slice, hp⟩ := h.exists_slice hi
  have hd := h.doing i slice t hp hi
  generalize probesOf i log = qs at hd
  cases hd with
  | waiting => cases ht
  | fetching => cases ht
  | probing => cases ht
  | lost hl => exact hf _ _ hl
  | @spoiled f e _ hs hrun hasked =>
    have hslice : AllProbed (outcome f) slice := fun c hc =>
      hall f hs c (List.mem_flatten.mpr ⟨slice, List.mem_of_getElem? hp, hc⟩)
    obtain ⟨kept, hok⟩ :=
      Screening.run_leaf_isOk (consistent_oracle outcome) f slice wanted () hslice
    rw [hok] at hrun
    cases hrun

/-- A crew that has come through has in every branch something to put together. -/
theorem result?_eq_ok {kept : List Suggestion} (hr : c.result? = some (.ok kept)) :
    ∃ all : List (List Suggestion), c.tasks.map Task.kept? = all.map some ∧
      kept = all.flatten.take c.wanted := by
  unfold result? at hr
  split at hr
  · cases hr
  · obtain ⟨all, hm, he⟩ := Option.map_eq_some_iff.mp hr
    exact ⟨all, mapM_eq_some_iff.mp hm, (Except.ok.inj he).symm⟩

/-- Where all branches are through, each of them has kept its part. -/
theorem exists_kept {tasks : List Task} {all : List (List Suggestion)} {i : Nat} {t : Task}
    (hmap : tasks.map Task.kept? = all.map some) (ht : tasks[i]? = some t) :
    ∃ k, all[i]? = some k ∧ t.kept? = some k := by
  have hget := congrArg (·[i]?) hmap
  simp only [List.getElem?_map, ht, Option.map_some] at hget
  obtain ⟨k, hk, hkt⟩ := Option.map_eq_some_iff.mp hget.symm
  exact ⟨k, hk, hkt.symm⟩

/-- What the branch of one slice has kept in it. -/
theorem kept_at (h : Sound outcome parts wanted past log c) {all : List (List Suggestion)}
    (hmap : c.tasks.map Task.kept? = all.map some) {i : Nat} {slice : List Suggestion}
    (hp : parts[i]? = some slice) : ∃ f k, c.session.filter = some f ∧ all[i]? = some k ∧
      k = firstVisible (outcome f) wanted slice := by
  obtain ⟨t, ht⟩ := h.exists_task hp
  obtain ⟨k, hk, hkt⟩ := exists_kept hmap ht
  obtain ⟨f, hs, he⟩ := (h.doing i slice _ hp ht).kept hkt
  exact ⟨f, k, hs, hk, he⟩

/-- A crew that has come through has kept what its slices have to give. -/
theorem result_eq (h : Sound outcome parts wanted past log c) {kept : List Suggestion}
    (hr : c.result? = some (.ok kept)) : ∃ f,
      kept = firstVisible (outcome f) wanted parts.flatten ∧
      (parts ≠ [] → c.session.filter = some f) := by
  obtain ⟨all, hmap, hkept⟩ := result?_eq_ok hr
  rw [h.quota] at hkept
  have hlen : all.length = parts.length := by
    have hl := congrArg List.length hmap
    rw [List.length_map, List.length_map, h.count] at hl
    exact hl.symm
  cases hparts : parts with
  | nil =>
    refine ⟨.unrestricted, ?_, fun hne => absurd rfl hne⟩
    have hnil : all = [] := List.length_eq_zero_iff.mp (by rw [hlen, hparts]; rfl)
    rw [hkept, hnil]
    exact List.take_nil.trans (firstVisible_of_nothing _ (.inr rfl)).symm
  | cons first rest =>
    obtain ⟨f, -, hs, -⟩ := kept_at h hmap (show parts[0]? = some first by rw [hparts]; rfl)
    refine ⟨f, ?_, fun _ => hs⟩
    have hall : all = parts.map (firstVisible (outcome f) wanted) := by
      refine List.ext_getElem? fun i => ?_
      rw [List.getElem?_map]
      cases hp : parts[i]? with
      | none =>
        have hi := List.getElem?_eq_none_iff.mp hp
        exact List.getElem?_eq_none (by omega)
      | some slice =>
        obtain ⟨g, k, hg, hk, he⟩ := kept_at h hmap hp
        rw [hs] at hg
        cases hg
        rw [hk, he]
        rfl
    rw [hkept, hall, flatten_map_firstVisible, hparts]

end Sound

/-! ### All moves of a screening -/

section Runs

variable {outcome : Filter → String → Except Backend.Fault Nat} {parallelism wanted : Nat}
variable {candidates : List Suggestion} {session : Session} {moves : List Move} {c : Crew}

theorem partsOf_of_nothing (h : wanted = 0 ∨ candidates = []) :
    partsOf parallelism candidates wanted = [] := if_pos h

theorem partsOf_of_something (h : ¬ (wanted = 0 ∨ candidates = [])) :
    partsOf parallelism candidates wanted = slices (max parallelism 1) candidates := if_neg h

theorem firstVisible_partsOf (f : Filter) :
    firstVisible (outcome f) wanted (partsOf parallelism candidates wanted).flatten =
      firstVisible (outcome f) wanted candidates := by
  by_cases h : wanted = 0 ∨ candidates = []
  · rw [partsOf_of_nothing h, firstVisible_of_nothing _ h]
    exact firstVisible_of_nothing _ (.inr rfl)
  · rw [partsOf_of_something h, flatten_slices]

theorem start_sound (hr : (start parallelism session candidates wanted).run moves = some c)
    (hm : HonestRun outcome (start parallelism session candidates wanted) moves) :
    Sound outcome (partsOf parallelism candidates wanted) wanted moves
      ((start parallelism session candidates wanted).probed moves) c :=
  sound_run (sound_start outcome parallelism session candidates wanted) hm hr

/-- What comes out at the end is what one branch over all candidates would have kept. -/
theorem kept_of_run (hr : (start parallelism session candidates wanted).run moves = some c)
    (hm : HonestRun outcome (start parallelism session candidates wanted) moves)
    {kept : List Suggestion} (hk : c.result? = some (.ok kept)) :
    ∃ f, kept = firstVisible (outcome f) wanted candidates ∧
      (wanted ≠ 0 → candidates ≠ [] → c.session.filter = some f) := by
  obtain ⟨f, hkept, hf⟩ := result_eq (start_sound hr hm) hk
  rw [firstVisible_partsOf] at hkept
  refine ⟨f, hkept, fun h₁ h₂ => hf ?_⟩
  rw [partsOf_of_something (not_or.mpr ⟨h₁, h₂⟩)]
  exact slices_ne_nil _ h₂

/-- Moves that cannot go on have come through, if the filter is there and the probes are. -/
theorem result_of_stuck (hr : (start parallelism session candidates wanted).run moves = some c)
    (hm : HonestRun outcome (start parallelism session candidates wanted) moves)
    (hstuck : ∀ m, Honest outcome c m → c.step m = none)
    (hfetch : ∀ i e, .fetched i (.error e) ∉ moves)
    (hall : ∀ f, c.session.filter = some f → AllProbed (outcome f) candidates) :
    ∃ kept, c.result? = some (.ok kept) := by
  have hs := start_sound hr hm
  have hparts : ∀ f, c.session.filter = some f →
      AllProbed (outcome f) (partsOf parallelism candidates wanted).flatten := by
    intro f hf x hx
    by_cases h : wanted = 0 ∨ candidates = []
    · rw [partsOf_of_nothing h] at hx
      cases hx
    · rw [partsOf_of_something h, flatten_slices] at hx
      exact hall f hf x hx
  have ho := not_over hs hfetch hparts
  cases hres : c.result? with
  | none =>
    obtain ⟨m, c', hmove, hstep⟩ := exists_move hs ho hres
    rw [hstuck m hmove] at hstep
    cases hstep
  | some r =>
    rw [result?_of_not_over ho] at hres
    obtain ⟨all, -, he⟩ := Option.map_eq_some_iff.mp hres
    exact ⟨all.flatten.take c.wanted, by rw [← he]⟩

/-- A branch probes the start of its slice, and one that is not there probes nothing. -/
theorem probes_of_run (hr : (start parallelism session candidates wanted).run moves = some c)
    (hm : HonestRun outcome (start parallelism session candidates wanted) moves) (i : Nat) :
    probesOf i ((start parallelism session candidates wanted).probed moves) <+:
      ((slices (max parallelism 1) candidates)[i]?.getD []).map fun x =>
        .probe (c.session.filter.getD .unrestricted) x.term := by
  have hs := start_sound hr hm
  cases hp : (partsOf parallelism candidates wanted)[i]? with
  | none =>
    rw [hs.stray i hp]
    exact List.nil_prefix
  | some slice =>
    obtain ⟨t, ht⟩ := hs.exists_task hp
    have hprobes := (hs.doing i slice t hp ht).probes_isPrefix
    by_cases h : wanted = 0 ∨ candidates = []
    · rw [partsOf_of_nothing h] at hp
      cases hp
    · rw [partsOf_of_something h] at hp
      rw [hp]
      exact hprobes

/-- Where there is nothing to do no move is made. -/
theorem run_of_nothing (hr : (start parallelism session candidates wanted).run moves = some c)
    (hm : HonestRun outcome (start parallelism session candidates wanted) moves)
    (h : wanted = 0 ∨ candidates = []) : moves = [] ∧ c.result? = some (.ok []) := by
  have hleft : left outcome (start parallelism session candidates wanted) = 0 := by
    unfold left start
    rw [if_pos h]
    rfl
  have hlen := left_run hm hr
  have hmoves : moves = [] := List.length_eq_zero_iff.mp (by omega)
  refine ⟨hmoves, ?_⟩
  rw [hmoves] at hr
  cases hr
  unfold start result?
  rw [if_pos h]
  simp

/-- **Whatever the branches do in which order, what comes out is what one branch over all
candidates would have kept.**  They cannot go on for ever, and they do not get stuck. -/
theorem run_keeps (hr : (start parallelism session candidates wanted).run moves = some c)
    (hm : HonestRun outcome (start parallelism session candidates wanted) moves) :
    (∀ kept, c.result? = some (.ok kept) → ∃ f, kept = firstVisible (outcome f) wanted candidates ∧
      (wanted ≠ 0 → candidates ≠ [] → c.session.filter = some f)) ∧
    ((∀ m, Honest outcome c m → c.step m = none) → (∀ i e, .fetched i (.error e) ∉ moves) →
      (∀ f, c.session.filter = some f → AllProbed (outcome f) candidates) →
      ∃ kept, c.result? = some (.ok kept)) ∧
    (∀ (i : Nat), probesOf i ((start parallelism session candidates wanted).probed moves) <+:
      ((slices (max parallelism 1) candidates)[i]?.getD []).map fun x =>
        .probe (c.session.filter.getD .unrestricted) x.term) ∧
    moves.length ≤ 4 * candidates.length ∧
    (wanted = 0 ∨ candidates = [] → moves = [] ∧ c.result? = some (.ok [])) := by
  refine ⟨fun _ hk => kept_of_run hr hm hk, result_of_stuck hr hm, probes_of_run hr hm, ?_,
    run_of_nothing hr hm⟩
  have hlen := left_run hm hr
  have hstart := left_start_le outcome parallelism session candidates wanted
  omega

end Runs

end Crew

/-! ## Top theorem -/

/-- **Screening keeps the first candidates that can be found**, for any number of branches,
whether they work one after the other or side by side in any order.  It succeeds where the
filter is there and the probes are, asks nothing where there is nothing to screen, and probes
no candidate twice. -/
theorem screening_keeps_firstVisible (outcome : Filter → String → Except Backend.Fault Nat)
    (parallelism wanted : Nat) (candidates : List Suggestion) (session : Session) :
    -- one after the other
    (∀ {S : Type} (world : (q : Inquiry) → S → q.Answer × S) (s : S), Consistent world outcome →
      let run := (screen parallelism session candidates wanted).run world s
      let asked := (screen parallelism session candidates wanted).asked world s
      (∀ kept, run.1.1 = .ok kept → ∃ f, kept = firstVisible (outcome f) wanted candidates ∧
        (wanted ≠ 0 → candidates ≠ [] → run.1.2.filter = some f)) ∧
      (∀ f, (session.get.run world s).1.1 = .ok f → AllProbed (outcome f) candidates →
        ∃ kept, run.1.1 = .ok kept) ∧
      (∃ f, asked.Sublist (.filter :: candidates.map fun x => .probe f x.term)) ∧
      (wanted = 0 ∨ candidates = [] → run.1.1 = .ok [] ∧ asked = [])) ∧
    -- side by side
    (∀ (moves : List Move) (c : Crew),
      (Crew.start parallelism session candidates wanted).run moves = some c →
      Crew.HonestRun outcome (Crew.start parallelism session candidates wanted) moves →
      (∀ kept, c.result? = some (.ok kept) →
        ∃ f, kept = firstVisible (outcome f) wanted candidates ∧
          (wanted ≠ 0 → candidates ≠ [] → c.session.filter = some f)) ∧
      ((∀ m, Crew.Honest outcome c m → c.step m = none) →
        (∀ i e, .fetched i (.error e) ∉ moves) →
        (∀ f, c.session.filter = some f → AllProbed (outcome f) candidates) →
        ∃ kept, c.result? = some (.ok kept)) ∧
      (∀ (i : Nat), Crew.probesOf i
          ((Crew.start parallelism session candidates wanted).probed moves) <+:
        ((slices (max parallelism 1) candidates)[i]?.getD []).map fun x =>
          .probe (c.session.filter.getD .unrestricted) x.term) ∧
      moves.length ≤ 4 * candidates.length ∧
      (wanted = 0 ∨ candidates = [] → moves = [] ∧ c.result? = some (.ok []))) ∧
    -- the slices of the branches
    (slices (max parallelism 1) candidates).flatten = candidates ∧
    (slices (max parallelism 1) candidates).length ≤ max parallelism 1 :=
  ⟨fun _ s hw => screen_keeps parallelism hw wanted candidates session s,
    fun _ _ hr hm => Crew.run_keeps hr hm, flatten_slices _ _,
    Nat.le_trans (length_slices_le _ candidates).1 (by omega)⟩

end SearchGateway.Access
