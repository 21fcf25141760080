import SearchGateway.Gateway.Handling
import SearchGateway.Proofs.Access.Probing
import SearchGateway.Proofs.Access.Verdicts

/-!
# Every list of a response screened in one session

The lists of a response are screened one after the other, and they share a session.  So the
first list that needs the filter fetches it, all others go on under the same one, and where
one list fails nothing is left of the others.

    UnderOneFilter             calls under one filter
    CallsFor                   the calls that verdicts come from
    Decides.unique             each call tells its verdict
    FetchesOnce m              the filter is fetched before anything else, if at all
    Screens f m P              what comes of `m` under a filter, told by verdicts
    Account                    how verdicts tell what becomes of one thing, or of many in order
    Screens.traverse           visiting things one after the other
    Course                     how screening a response can go
    ends_screenResponse        it goes in one of these ways

What is asked is read off the scripts of calls; the questions of screening stand behind them.
-/

namespace SearchGateway.Gateway

open Access (Asks Caller Filter Inquiry Judged Session Verdict kept probes)
open Backend (Counts Fault SuggestResponse SuggestResult Suggestion)
open Dialogue (Script Ends ends_answer ends_ask_iff ends_bind_iff ends_done_iff)

/-- A computation in a session. -/
abbrev Sitting := StateT Session Handling

variable {r : Runtime} {caller : Caller} {α β γ δ ω : Type}

/-! ## Calls and what they settle -/

/-- The call that probes a title under a filter. -/
def probeCall (r : Runtime) (f : Filter) (title : String) : Call :=
  .backend r.client r.settings.suggest.probeHandler
    (Backend.Client.askJson (Access.probeParams r.settings.suggest.titleField f title))

/-- A call, with its answer, settles a question of screening. -/
inductive Settles (r : Runtime) (caller : Caller) :
    ((q : Call) × q.Answer) → ((q : Inquiry) × q.Answer) → Prop
  | filter (a : Except Access.Unavailable Filter) :
    Settles r caller ⟨.filter r.supplier caller, a⟩ ⟨.filter, a⟩
  | probe (f : Filter) (title : String) (a : Except Fault Backend.Raw) :
    Settles r caller ⟨probeCall r f title, a⟩ ⟨.probe f title, Access.countOf a⟩

/-- A call, with its answer, is a probe of a title under a filter, whatever it was answered. -/
def Probes (r : Runtime) (f : Filter) (e : (q : Call) × q.Answer) (title : String) : Prop :=
  ∃ params a, e = ⟨.backend r.client r.settings.suggest.probeHandler params, a⟩ ∧
    Asks r.settings.suggest.titleField f title params

/-- A call, with its answer, is the probe that a verdict comes from: it asks for the candidate's
title, and the answer tells the number. -/
def Decides (r : Runtime) (f : Filter) (e : (q : Call) × q.Answer) (v : Verdict) : Prop :=
  ∃ params raw n, e = ⟨.backend r.client r.settings.suggest.probeHandler params, .ok raw⟩ ∧
    Asks r.settings.suggest.titleField f v.candidate.term params ∧ v.count = some n ∧
    Counts raw.body n

/-- Calls under one filter: there are none, or the filter is looked up, once, and if it is had
all other calls are probes under it. -/
def UnderOneFilter (r : Runtime) (caller : Caller) (u : Script Call Call.Answer) : Prop :=
  u = [] ∨ (∃ x, u = [⟨.filter r.supplier caller, .error x⟩]) ∨
    ∃ f made, u = ⟨.filter r.supplier caller, .ok f⟩ :: made ∧
      ∀ e ∈ made, ∃ title, Probes r f e title

/-- The calls that screening makes for verdicts: none if nothing was probed, else the look-up of
a filter and under it the probes, one for each verdict with a number. -/
def CallsFor (r : Runtime) (caller : Caller) (vs : List Verdict)
    (u : Script Call Call.Answer) : Prop :=
  (u = [] ∧ ∀ v ∈ vs, v.count = none) ∨
    ∃ f made, u = ⟨.filter r.supplier caller, .ok f⟩ :: made ∧
      List.Forall₂ (Decides r f) made (vs.filter fun v => v.count.isSome)

/-! ## Computations in a session -/

/-- The filter is fetched, and then all goes on under it. -/
def fetching (r : Runtime) (caller : Caller) (m : Sitting α) :
    Calling (Except ApiError (α × Session)) :=
  .ask (.filter r.supplier caller) fun (a : Except Access.Unavailable Filter) =>
    match a with
    | .error u => .done (.error (.entitlement u))
    | .ok f => (m.run ⟨some f⟩).run

/-- Either nothing is called at all, or the filter is fetched first. -/
inductive FetchesOnce (r : Runtime) (caller : Caller) (m : Sitting α) : Prop
  | never (x : α) (h : ∀ s, (m.run s).run = .done (.ok (x, s)))
  | first (h : (m.run .fresh).run = fetching r caller m)

/-- Under a filter the calls make the probes of some verdicts, and what comes out is as it
should be; or a probe fails, and with it everything. -/
def Screens (r : Runtime) (caller : Caller) (f : Filter) (m : Sitting α)
    (P : List Verdict → α → Prop) : Prop :=
  ∀ u res, Ends (m.run ⟨some f⟩).run u res → ∃ t r', List.Forall₂ (Settles r caller) u t ∧
    Judged f P t r' ∧ res = (r'.mapError .backend).map (·, ⟨some f⟩)

/-- How verdicts tell what becomes of a thing: which part of it they are about, when they are
sound, and what the result is. -/
structure Account (β γ ω δ : Type) where
  subject : β → δ
  about : ω → δ
  sound : ω → Prop
  verdicts : ω → List Verdict
  result : ω → γ

namespace Account

/-- Some verdicts explain what became of a thing. -/
def Explains (a : Account β γ ω δ) (b : β) (vs : List Verdict) (x : γ) : Prop :=
  ∃ w, a.about w = a.subject b ∧ a.sound w ∧ vs = a.verdicts w ∧ x = a.result w

/-- Some verdicts explain what became of the things under their names, in order. -/
def ExplainsAll (a : Account β γ ω δ) (es : List (String × β)) (vs : List Verdict)
    (xs : List (String × γ)) : Prop :=
  ∃ ws : List (String × ω),
    ws.map (fun e => (e.1, a.about e.2)) = es.map (fun e => (e.1, a.subject e.2)) ∧
    (∀ e ∈ ws, a.sound e.2) ∧ vs = ws.flatMap (fun e => a.verdicts e.2) ∧
    xs = ws.map fun e => (e.1, a.result e.2)

/-- Of things under names each has its verdicts, and the names stay in order. -/
def ordered (a : Account β γ ω δ) :
    Account (Ordered β) (Ordered γ) (Ordered ω) (Ordered δ) where
  subject := Ordered.map a.subject
  about := Ordered.map a.about
  sound o := ∀ w ∈ o.values, a.sound w
  verdicts o := o.values.flatMap a.verdicts
  result := Ordered.map a.result

/-- One list of candidates: the first that were found are kept, and they are counted anew. -/
def ofResult (wanted : Nat) :
    Account SuggestResult SuggestResult (List Verdict) (List Suggestion) where
  subject := SuggestResult.suggestions
  about := List.map Verdict.candidate
  sound := Access.Enough wanted
  verdicts := id
  result vs := ⟨(kept wanted vs).length, kept wanted vs⟩

/-- The lists of a response, by dictionary and by what was typed. -/
def ofResponse (wanted : Nat) := (ofResult wanted).ordered.ordered

end Account

/-- How screening a response can go: no probe is needed, the filter is not to be had, or all
probes are made under it. -/
inductive Course (r : Runtime) (caller : Caller) (wanted : Nat) (found : SuggestResponse) :
    Script Call Call.Answer → Except ApiError SuggestResponse → Prop
  | idle (vs : List Verdict) (dictionaries : Ordered (Ordered SuggestResult))
    (hnone : ∀ v ∈ vs, v.count = none)
    (h : (Account.ofResponse wanted).Explains found.dictionaries vs dictionaries) :
    Course r caller wanted found [] (.ok { found with dictionaries })
  | unfetched (u : Access.Unavailable) :
    Course r caller wanted found [⟨.filter r.supplier caller, .error u⟩] (.error (.entitlement u))
  | fetched (f : Filter) (u : Script Call Call.Answer) (t : Script Inquiry Inquiry.Answer)
    (res : Except Fault (Ordered (Ordered SuggestResult)))
    (hu : List.Forall₂ (Settles r caller) u t)
    (h : Judged f ((Account.ofResponse wanted).Explains found.dictionaries) t res) :
    Course r caller wanted found (⟨.filter r.supplier caller, .ok f⟩ :: u)
      ((res.mapError .backend).map fun dictionaries => { found with dictionaries })

/-! ## Lemmas -/

/-! ### One computation after the other -/

theorem run_pure (x : α) (s : Session) : ((pure x : Sitting α).run s).run = .done (.ok (x, s)) :=
  rfl

theorem run_bind (m : Sitting α) (k : α → Sitting β) (s : Session) :
    ((m >>= k).run s).run = (m.run s).run.bind fun a =>
      match a with
      | .ok (x, s) => ((k x).run s).run
      | .error e => .done (.error e) := by
  show Dialogue.bind _ _ = Dialogue.bind _ _
  congr 1
  funext a
  cases a <;> rfl

theorem fetchesOnce_pure (x : α) : FetchesOnce r caller (pure x : Sitting α) :=
  .never x fun s => run_pure x s

/-- The filter of the first is that of the second. -/
theorem FetchesOnce.bind {m : Sitting α} {k : α → Sitting β} (hm : FetchesOnce r caller m)
    (hk : ∀ x, FetchesOnce r caller (k x)) : FetchesOnce r caller (m >>= k) := by
  cases hm with
  | never x h =>
    have hrun : ∀ s, ((m >>= k).run s).run = ((k x).run s).run := by
      intro s
      rw [run_bind, h s]
      rfl
    cases hk x with
    | never y h' => exact .never y fun s => (hrun s).trans (h' s)
    | first h' =>
      refine .first ?_
      rw [hrun, h']
      unfold fetching
      simp only [hrun]
  | first h =>
    refine .first ?_
    rw [run_bind, h]
    show Dialogue.ask _ _ = Dialogue.ask _ _
    congr 1
    funext a
    cases a with
    | error u => rfl
    | ok f => exact (run_bind m k ⟨some f⟩).symm

section

variable {f : Filter} {P : List Verdict → α → Prop} {R : List Verdict → β → Prop}

theorem screens_pure {x : α} (h : P [] x) : Screens r caller f (pure x) P := by
  intro u res hends
  obtain ⟨rfl, rfl⟩ := ends_done_iff.mp hends
  exact ⟨[], .ok x, .nil, .through [] x h, rfl⟩

/-- The probes of the first, then those of the second. -/
theorem Screens.bind {m : Sitting α} {k : α → Sitting β} {Q : α → List Verdict → β → Prop}
    (hm : Screens r caller f m P) (hk : ∀ x, Screens r caller f (k x) (Q x))
    (hR : ∀ x vs ws y, P vs x → Q x ws y → R (vs ++ ws) y) :
    Screens r caller f (m >>= k) R := by
  intro u res hends
  rw [run_bind] at hends
  obtain ⟨first, rest, a, rfl, hfirst, hrest⟩ := ends_bind_iff.mp hends
  obtain ⟨t, r', ht, hjudged, rfl⟩ := hm first a hfirst
  cases r' with
  | error e =>
    obtain ⟨rfl, rfl⟩ := ends_done_iff.mp hrest
    rw [List.append_nil]
    exact ⟨t, .error e, ht, hjudged.of_error, rfl⟩
  | ok x =>
    obtain ⟨t', r'', ht', hjudged', rfl⟩ := hk x rest res hrest
    exact ⟨t ++ t', r'', List.rel_append ht ht', hjudged.append hjudged' (hR x), rfl⟩

end

theorem Screens.map {f : Filter} {m : Sitting α} {k : α → β} {P : List Verdict → α → Prop}
    {R : List Verdict → β → Prop} (hm : Screens r caller f m P)
    (hR : ∀ vs x, P vs x → R vs (k x)) : Screens r caller f (m >>= fun x => pure (k x)) R := by
  refine hm.bind (Q := fun x ws y => ws = [] ∧ y = k x) (fun x => screens_pure ⟨rfl, rfl⟩) ?_
  rintro x vs _ _ hP ⟨rfl, rfl⟩
  rw [List.append_nil]
  exact hR vs x hP

/-! ### Many things in order -/

section

variable {g : β → Sitting γ}

theorem traverse_cons (k : String) (b : β) (es : List (String × β)) :
    Entries.traverse g ((k, b) :: es) = g b >>= fun x => Entries.traverse g es >>= fun xs =>
      pure ⟨(k, x) :: xs.1, by simpa [Entries.keys] using xs.2⟩ := rfl

theorem traverse_eq (o : Ordered β) : o.traverse g = Entries.traverse g o.entries >>= fun xs =>
    pure ⟨xs.1, by rw [xs.2]; exact o.distinct⟩ := rfl

theorem FetchesOnce.traverse (h : ∀ b, FetchesOnce r caller (g b)) (o : Ordered β) :
    FetchesOnce r caller (o.traverse g) := by
  have hentries : ∀ es, FetchesOnce r caller (Entries.traverse g es) := by
    intro es
    induction es with
    | nil => exact fetchesOnce_pure _
    | cons e es ih =>
      obtain ⟨k, b⟩ := e
      rw [traverse_cons]
      exact (h b).bind fun x => ih.bind fun xs => fetchesOnce_pure _
  rw [traverse_eq]
  exact (hentries o.entries).bind fun xs => fetchesOnce_pure _

theorem Account.explainsAll_cons {a : Account β γ ω δ} {b : β} {x : γ} {es : List (String × β)}
    {xs : List (String × γ)} {vs ws : List Verdict} (k : String) (h : a.Explains b vs x)
    (hs : a.ExplainsAll es ws xs) : a.ExplainsAll ((k, b) :: es) (vs ++ ws) ((k, x) :: xs) := by
  obtain ⟨w, habout, hsound, rfl, rfl⟩ := h
  obtain ⟨all, habout', hsound', rfl, rfl⟩ := hs
  refine ⟨(k, w) :: all, ?_, ?_, rfl, rfl⟩
  · rw [List.map_cons, List.map_cons, habout, habout']
  · intro e he
    rcases List.mem_cons.mp he with rfl | he
    · exact hsound
    · exact hsound' e he

theorem screens_traverse_entries {f : Filter} {a : Account β γ ω δ}
    (h : ∀ b, Screens r caller f (g b) (a.Explains b)) (es : List (String × β)) :
    Screens r caller f (Entries.traverse g es) fun vs xs => a.ExplainsAll es vs xs.1 := by
  induction es with
  | nil => exact screens_pure ⟨[], rfl, by simp, rfl, rfl⟩
  | cons e es ih =>
    obtain ⟨k, b⟩ := e
    rw [traverse_cons]
    refine (h b).bind (Q := fun x vs ys => ∃ xs, a.ExplainsAll es vs xs ∧ ys.1 = (k, x) :: xs)
      (fun x => ih.map fun vs xs hxs => ⟨xs.1, hxs, rfl⟩) ?_
    rintro x vs ws ys hx ⟨xs, hxs, hys⟩
    rw [hys]
    exact Account.explainsAll_cons k hx hxs

/-- **Things visited one after the other have the verdicts of one after the other.** -/
theorem Screens.traverse {f : Filter} {a : Account β γ ω δ}
    (h : ∀ b, Screens r caller f (g b) (a.Explains b)) (o : Ordered β) :
    Screens r caller f (o.traverse g) (a.ordered.Explains o) := by
  rw [traverse_eq]
  refine (screens_traverse_entries h o.entries).map ?_
  rintro vs xs ⟨ws, habout, hsound, hvs, hxs⟩
  have hkeys : Entries.keys ws = Entries.keys o.entries := by
    have hnames := congrArg (List.map Prod.fst) habout
    simp only [List.map_map] at hnames
    exact hnames
  refine ⟨⟨ws, by rw [hkeys]; exact o.distinct⟩, Ordered.ext habout, ?_, ?_, Ordered.ext hxs⟩
  · intro w hw
    obtain ⟨e, he, rfl⟩ := List.mem_map.mp hw
    exact hsound e he
  · show vs = (ws.map Prod.snd).flatMap a.verdicts
    rw [hvs, List.flatMap_map]

end

/-! ### Lists of candidates -/

/-- Of lists that go along with each other each thing of the one goes with one of the other. -/
theorem exists_rel_of_mem {R : β → γ → Prop} {bs : List β} {cs : List γ}
    (h : List.Forall₂ R bs cs) {b : β} (hb : b ∈ bs) : ∃ c ∈ cs, R b c := by
  induction h with
  | nil => cases hb
  | cons hbc _ ih =>
    rcases List.mem_cons.mp hb with rfl | hb
    · exact ⟨_, List.mem_cons_self, hbc⟩
    · obtain ⟨c, hc, hrel⟩ := ih hb
      exact ⟨c, List.mem_cons_of_mem _ hc, hrel⟩

theorem Settles.eq_probe {e : (q : Call) × q.Answer} {f : Filter} {title : String}
    {x : Except Fault Nat} (h : Settles r caller e ⟨.probe f title, x⟩) :
    ∃ a, e = ⟨probeCall r f title, a⟩ ∧ x = Access.countOf a := by
  cases h with
  | probe f title a => exact ⟨a, rfl, rfl⟩

theorem probes_probeCall (r : Runtime) (f : Filter) (title : String)
    (a : Except Fault Backend.Raw) : Probes r f ⟨probeCall r f title, a⟩ title :=
  ⟨_, a, rfl, Access.asks_probeParams _ f title⟩

/-- A probe that has settled a question with a number decides the verdict with that number. -/
theorem Settles.decides {e : (q : Call) × q.Answer} {f : Filter} {v : Verdict} {n : Nat}
    (h : Settles r caller e ⟨.probe f v.candidate.term, .ok n⟩) (hv : v.count = some n) :
    Decides r f e v := by
  obtain ⟨a, rfl, ha⟩ := h.eq_probe
  obtain ⟨raw, rfl, hcounts⟩ := Access.counts_of_countOf ha.symm
  exact ⟨_, raw, n, rfl, Access.asks_probeParams _ f _, hv, hcounts⟩

/-- A probe decides one number for one title. -/
theorem Decides.unique {f g : Filter} {e : (q : Call) × q.Answer} {v w : Verdict}
    (hv : Decides r f e v) (hw : Decides r g e w) :
    v.candidate.term = w.candidate.term ∧ v.count = w.count := by
  obtain ⟨params, raw, n, rfl, hasks, hn, hcounts⟩ := hv
  obtain ⟨params', raw', m, heq, hasks', hm, hcounts'⟩ := hw
  cases heq
  refine ⟨hasks.title_eq hasks', ?_⟩
  rw [hn, hm, hcounts.unique hcounts']

/-- Calls that settle the questions of verdicts are the probes that these come from. -/
theorem decides_of_settles {f : Filter} {vs : List Verdict} {made : Script Call Call.Answer}
    (h : List.Forall₂ (Settles r caller) made (probes f vs)) :
    List.Forall₂ (Decides r f) made (vs.filter fun v => v.count.isSome) := by
  induction vs generalizing made with
  | nil =>
    cases h
    exact .nil
  | cons v vs ih =>
    unfold probes at h
    cases hv : v.count with
    | none =>
      rw [List.filterMap_cons_none (by rw [hv]; rfl)] at h
      rw [List.filter_cons_of_neg (by simp [hv])]
      exact ih h
    | some n =>
      rw [List.filterMap_cons_some (by rw [hv]; rfl)] at h
      rw [List.filter_cons_of_pos (by simp [hv])]
      cases h with
      | cons hhead htail => exact .cons (hhead.decides hv) (ih htail)

theorem settles_of_ends {q : Inquiry} {u : Script Call Call.Answer} {x : q.Answer}
    (h : Ends (settle r caller q) u x) : ∃ e, u = [e] ∧ Settles r caller e ⟨q, x⟩ := by
  cases q with
  | filter =>
    obtain ⟨a, rest, rfl, hrest⟩ := ends_ask_iff.mp h
    obtain ⟨rfl, rfl⟩ := ends_done_iff.mp hrest
    exact ⟨_, rfl, .filter a⟩
  | probe f title =>
    obtain ⟨a, rest, rfl, hrest⟩ := ends_ask_iff.mp h
    obtain ⟨rfl, rfl⟩ := ends_done_iff.mp hrest
    exact ⟨_, rfl, .probe f title a⟩

/-- One list under a filter. -/
theorem screens_screenResult (f : Filter) (wanted : Nat) (result : SuggestResult) :
    Screens r caller f (screenResult r caller wanted result)
      ((Account.ofResult wanted).Explains result) := by
  intro u res hends
  obtain ⟨first, rest, x, rfl, hfirst, hrest⟩ := ends_bind_iff.mp hends
  obtain ⟨t, ht, hsettles⟩ := ends_answer (fun q u x => settles_of_ends) hfirst
  obtain ⟨r', rfl, hjudged⟩ := Access.ends_screen ht
  obtain ⟨rfl, hres⟩ : rest = [] ∧ res = ((r'.map fun kept => result.keep kept).mapError
      .backend).map (·, ⟨some f⟩) := by
    cases r' <;> exact ⟨(ends_done_iff.mp hrest).1, (ends_done_iff.mp hrest).2.symm⟩
  rw [List.append_nil]
  refine ⟨t, r'.map fun kept => result.keep kept, hsettles, hjudged.map ?_, hres⟩
  rintro vs _ ⟨⟨habout, henough⟩, rfl⟩
  exact ⟨vs, habout, henough, rfl, rfl⟩

/-- One list fetches the filter first, or it needs none. -/
theorem fetchesOnce_screenResult (wanted : Nat) (result : SuggestResult) :
    FetchesOnce r caller (screenResult r caller wanted result) := by
  by_cases h : wanted = 0 ∨ result.suggestions = []
  · refine .never (result.keep []) fun s => ?_
    show (Dialogue.answer _ _).bind _ = _
    rw [Access.screen_of_nothing _ h]
    rfl
  · refine .first ?_
    show (Dialogue.answer _ (Access.screen _ Session.fresh _ _)).bind _ = _
    rw [Access.screen_of_fresh _ h]
    show Dialogue.ask _ _ = Dialogue.ask _ _
    congr 1
    funext a
    cases a <;> rfl

/-! ### A response -/

/-- **A response is screened under one filter, and its lists stay where they are.** -/
theorem ends_screenResponse {wanted : Nat} {found : SuggestResponse}
    {u : Script Call Call.Answer} {res : Except ApiError SuggestResponse}
    (h : Ends (screenResponse r caller wanted found).run u res) :
    Course r caller wanted found u res := by
  let m : Sitting (Ordered (Ordered SuggestResult)) :=
    found.dictionaries.traverse fun d => d.traverse (screenResult r caller wanted)
  have hfetches : FetchesOnce r caller m :=
    FetchesOnce.traverse (fun d => FetchesOnce.traverse (fetchesOnce_screenResult wanted) d) _
  have hscreens : ∀ f, Screens r caller f m
      ((Account.ofResponse wanted).Explains found.dictionaries) := fun f =>
    Screens.traverse (fun d => Screens.traverse (screens_screenResult f wanted) d) _
  have hrun : (screenResponse r caller wanted found).run = (m.run .fresh).run.bind fun a =>
      .done (a.map fun x => { found with dictionaries := x.1 }) := by
    show Dialogue.bind _ _ = Dialogue.bind _ _
    congr 1
    funext a
    cases a <;> rfl
  rw [hrun] at h
  obtain ⟨first, rest, a, rfl, hfirst, hrest⟩ := ends_bind_iff.mp h
  obtain ⟨rfl, rfl⟩ := ends_done_iff.mp hrest
  rw [List.append_nil]
  cases hfetches with
  | never x hnever =>
    rw [hnever] at hfirst
    obtain ⟨rfl, rfl⟩ := ends_done_iff.mp hfirst
    -- the verdicts are those that there would have been under some filter
    have hends : Ends (m.run ⟨some .unrestricted⟩).run [] (.ok (x, ⟨some .unrestricted⟩)) := by
      rw [hnever]
      exact .done _
    obtain ⟨t, r', ht, hjudged, hres⟩ := hscreens .unrestricted [] _ hends
    cases ht
    cases r' with
    | error e => cases hres
    | ok y =>
      cases hres
      obtain ⟨vs, hnone, hvs⟩ := hjudged.exists_of_ok
      exact .idle vs x (Access.probes_eq_nil_iff.mp hnone.symm) hvs
  | first hfetch =>
    rw [hfetch] at hfirst
    obtain ⟨fetched, rest, rfl, hends⟩ := ends_ask_iff.mp hfirst
    cases fetched with
    | error u =>
      obtain ⟨rfl, rfl⟩ := ends_done_iff.mp hends
      exact .unfetched u
    | ok f =>
      obtain ⟨t, r', ht, hjudged, rfl⟩ := hscreens f rest a hends
      have hcourse := Course.fetched f rest t r' ht hjudged
      cases r' <;> exact hcourse

/-! ### What a course tells -/

section

variable {wanted : Nat} {found : SuggestResponse} {u : Script Call Call.Answer}
variable {res : Except ApiError SuggestResponse}

/-- Calls that go along with probes under a filter are such probes. -/
theorem exists_probeCall {f : Filter} {P : List Verdict → α → Prop}
    {t : Script Inquiry Inquiry.Answer} {res : Except Fault α} (hu : List.Forall₂ (Settles r caller) u t) (h : Judged f P t res)
    {e : (q : Call) × q.Answer} (he : e ∈ u) :
    ∃ title a, e = ⟨probeCall r f title, a⟩ ∧ ⟨.probe f title, Access.countOf a⟩ ∈ t := by
  obtain ⟨q, hq, hsettles⟩ := exists_rel_of_mem hu he
  obtain ⟨title, x, rfl⟩ := h.exists_title hq
  obtain ⟨a, rfl, rfl⟩ := hsettles.eq_probe
  exact ⟨title, a, rfl, hq⟩

/-- The filter is looked up once at most, and every probe is made under the one that was
fetched. -/
theorem Course.underOneFilter (h : Course r caller wanted found u res) :
    UnderOneFilter r caller u := by
  cases h with
  | idle vs dictionaries hnone h => exact .inl rfl
  | unfetched x => exact .inr (.inl ⟨x, rfl⟩)
  | fetched f made t res hu h =>
    refine .inr (.inr ⟨f, made, rfl, fun e he => ?_⟩)
    obtain ⟨title, a, rfl, -⟩ := exists_probeCall hu h he
    exact ⟨title, probes_probeCall r f title a⟩

/-- Where the filter is not to be had nothing comes out. -/
theorem Course.unfetched_of_mem (h : Course r caller wanted found u res) {x : Access.Unavailable}
    (hx : ⟨.filter r.supplier caller, .error x⟩ ∈ u) : res = .error (.entitlement x) := by
  cases h with
  | idle vs dictionaries hnone h => cases hx
  | unfetched y =>
    cases List.mem_singleton.mp hx
    rfl
  | fetched f made t res hu h =>
    rcases List.mem_cons.mp hx with hx | hx
    · cases hx
    · obtain ⟨title, a, heq, -⟩ := exists_probeCall hu h hx
      cases heq

/-- Where a probe fails nothing comes out. -/
theorem Course.fault_of_mem (h : Course r caller wanted found u res) {c : Backend.Client}
    {handler : String} {params : Params} {a : Except Fault Backend.Raw} {e : Fault}
    (ha : ⟨.backend c handler params, a⟩ ∈ u) (he : Access.countOf a = .error e) :
    res = .error (.backend e) := by
  cases h with
  | idle vs dictionaries hnone h => cases ha
  | unfetched y => cases List.mem_singleton.mp ha
  | fetched f made t res hu h =>
    rcases List.mem_cons.mp ha with ha | ha
    · cases ha
    · obtain ⟨title, b, heq, hb⟩ := exists_probeCall hu h ha
      cases heq
      rw [he] at hb
      rw [h.eq_error hb]
      rfl

/-- What comes out is told by verdicts, and the calls are the probes of those. -/
theorem Course.exists_verdicts {kept : SuggestResponse}
    (h : Course r caller wanted found u (.ok kept)) :
    ∃ vs dictionaries, kept = { found with dictionaries } ∧
      (Account.ofResponse wanted).Explains found.dictionaries vs dictionaries ∧
      CallsFor r caller vs u := by
  generalize hres : (.ok kept : Except ApiError SuggestResponse) = res at h
  cases h with
  | idle vs dictionaries hnone h =>
    cases hres
    exact ⟨vs, dictionaries, rfl, h, .inl ⟨rfl, hnone⟩⟩
  | unfetched y => cases hres
  | fetched f made t res hu h =>
    cases res with
    | error e => cases hres
    | ok dictionaries =>
      cases hres
      obtain ⟨vs, rfl, hvs⟩ := h.exists_of_ok
      exact ⟨vs, dictionaries, rfl, hvs, .inr ⟨f, made, rfl, decides_of_settles hu⟩⟩

end

end SearchGateway.Gateway
