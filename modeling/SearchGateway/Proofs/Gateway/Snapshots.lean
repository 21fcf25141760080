import SearchGateway.Proofs.Gateway.Reloads
import SearchGateway.Proofs.Gateway.Searching
import SearchGateway.Proofs.Gateway.Suggesting
import SearchGateway.Proofs.Relating

/-!
# The runtimes that one request takes

A request takes the runtime in force twice.  From the first it has the time that it may take, and
from the second everything else: whether it is admitted, what is merged, how suggestions are made,
which headers tell of the caller, and the services that are called.  Afterwards it takes none any
more.  So where no reload falls between the two, one runtime decides about the request.  Where one
does, the request may be cut off in the time of the first while it does the work of the second,
and that is what neither of them would do.

    steady r world                a world in which one runtime stays in force
    Clock world                   the time in a world
    Clock.delivered               what the client gets in the end
    request_takes_two             what is taken from which runtime
    Possible r q a                what a client can get under one runtime
    not_forall_one_runtime        a reload makes something else possible
-/

namespace SearchGateway.Gateway

open Dialogue (ends_run)

/-! ## Algorithm -/

/-- What answers the calls of a request, in states that it remembers. -/
abbrev Surroundings (S : Type) := (q : Call) → S → q.Answer × S

/-- The same surroundings with one runtime in force all the time. -/
def steady {S : Type} (r : Runtime) (world : Surroundings S) : Surroundings S
  | .runtime, s => (r, s)
  | .filter supplier caller, s => world (.filter supplier caller) s
  | .backend client handler params, s => world (.backend client handler params) s

/-- The time of each state.  It takes none to take the runtime in force. -/
structure Clock {S : Type} (world : Surroundings S) where
  time : S → Nat
  taking : ∀ s, time (world .runtime s).2 = time s
  onward : ∀ q s, time s ≤ time (world q s).2

/-- What the client gets: the answer, or the news that it took too long. -/
def Clock.delivered {S : Type} {world : Surroundings S} (clock : Clock world) (q : Request)
    (s : S) : Response :=
  let outcome := (respond q).run world s
  outcome.1.after (clock.time outcome.2 - clock.time s)

def Clock.steady {S : Type} {world : Surroundings S} (clock : Clock world) (r : Runtime) :
    Clock (Gateway.steady r world) where
  time := clock.time
  taking _ := rfl
  onward q s := by
    cases q with
    | runtime => exact Nat.le_refl _
    | filter supplier caller => exact clock.onward (.filter supplier caller) s
    | backend client handler params => exact clock.onward (.backend client handler params) s

/-- Something that asks nothing, or takes the runtime first and never again. -/
def TakesOne (d : Calling Response) : Prop :=
  (∃ a, d = .done a) ∨ ∃ work : Runtime → Calling Response, d = .ask .runtime work ∧
    ∀ r {S : Type} (world : Surroundings S) (s : S), Call.runtime ∉ (work r).asked world s

/-- A request that is handled: a search, or one for suggestions. -/
structure Request.IsHandled (q : Request) : Prop where
  method : q.method = "GET" ∨ q.method = "HEAD"
  route : ∃ segment, Route.ofPath? q.path = some (.search segment) ∨
    Route.ofPath? q.path = some (.suggest segment)

/-! ## Lemmas -/

/-! ### No further runtime -/

section

variable {S : Type} (world : Surroundings S) (s : S)
variable (r : Runtime) (handler query : String) (headers : List Header)

/-- Once it has begun a search takes no runtime any more. -/
theorem runtime_notMem_search :
    Call.runtime ∉ (answered (search r handler query headers)).asked world s := by
  rw [Dialogue.asked_eq_map_script]
  have h := ends_search (ends_run world (answered (search r handler query headers)) s)
  generalize (answered (search r handler query headers)).script world s = t at h ⊢
  generalize ((answered (search r handler query headers)).run world s).1 = response at h
  cases h <;> simp

/-- Nor does a request for suggestions. -/
theorem runtime_notMem_suggest :
    Call.runtime ∉ (answered (suggest r handler query headers)).asked world s := by
  rw [Dialogue.asked_eq_map_script]
  have h := ends_suggest (ends_run world (answered (suggest r handler query headers)) s)
  rcases h.underOneFilter with ht | ⟨outgoing, a, rest, ht, hrest⟩
  · simp [ht]
  · rw [ht]
    rcases hrest with rfl | ⟨x, rfl⟩ | ⟨f, made, rfl, hmade⟩
    · simp
    · simp
    · simp only [List.map_cons, List.mem_cons, List.mem_map, reduceCtorEq, false_or, not_exists,
        not_and]
      intro e he heq
      obtain ⟨title, params, b, rfl, -⟩ := hmade e he
      cases heq

end

theorem takesOne_under (segment : List Char) {f : Runtime → String → Calling Response}
    (hf : ∀ r handler {S : Type} (world : Surroundings S) (s : S),
      Call.runtime ∉ (f r handler).asked world s) : TakesOne (under segment f) := by
  unfold under
  cases handlerOf? segment with
  | none => exact .inl ⟨_, rfl⟩
  | some handler => exact .inr ⟨fun r => f r handler, rfl, fun r => hf r handler⟩

theorem TakesOne.head {d : Calling Response} (h : TakesOne d) :
    TakesOne (d.bind fun a => .done a.head) := by
  rcases h with ⟨a, rfl⟩ | ⟨work, rfl, hwork⟩
  · exact .inl ⟨a.head, rfl⟩
  · refine .inr ⟨fun r => (work r).bind fun a => .done a.head, rfl, fun r S world s => ?_⟩
    rw [Dialogue.asked_bind]
    simpa [Dialogue.asked] using hwork r world s

/-- To handle a request the runtime is taken once at most. -/
theorem takesOne_dispatch {q : Request} (h : q.IsHandled) : TakesOne (dispatch q) := by
  obtain ⟨route, hroute, hrun⟩ :
      ∃ route, Route.ofPath? q.path = some route ∧ TakesOne (route.run q) := by
    obtain ⟨segment, hroute | hroute⟩ := h.route
    · exact ⟨_, hroute, takesOne_under segment fun r handler _ world s =>
        runtime_notMem_search world s r handler q.query q.headers⟩
    · exact ⟨_, hroute, takesOne_under segment fun r handler _ world s =>
        runtime_notMem_suggest world s r handler q.query q.headers⟩
  unfold dispatch
  rw [hroute]
  rcases h.method with hm | hm
  · simp only [hm, if_true]
    exact hrun
  · have hget : ¬ "HEAD" = "GET" := by decide
    simp only [hm, hget, if_false, if_true]
    exact hrun.head

/-! ### Two runtimes -/

section

variable {S : Type} (world : Surroundings S)

/-- What takes no runtime cannot tell which one is in force. -/
theorem run_steady {α : Type} (r : Runtime) {d : Calling α} {s : S}
    (h : Call.runtime ∉ d.asked world s) : d.run (steady r world) s = d.run world s := by
  refine Dialogue.run_eq_of_agree fun q hq => ?_
  cases q with
  | runtime => exact absurd hq h
  | filter supplier caller => rfl
  | backend client handler params => rfl

/-- What takes the runtime once does everything under that one. -/
theorem TakesOne.run_eq {d : Calling Response} (h : TakesOne d) (s : S) :
    (∃ a, d = .done a) ∨
      d.run world s = d.run (steady (world .runtime s).1 world) (world .runtime s).2 := by
  rcases h with ⟨a, rfl⟩ | ⟨work, rfl, hwork⟩
  · exact .inl ⟨a, rfl⟩
  · exact .inr (run_steady world _ (hwork _ world _)).symm

end

theorem respond_eq {q : Request} (h : q.IsHandled) : respond q = .ask .runtime fun r =>
    (dispatch q).bind fun a => .done ⟨some r.settings.server.timeout, a⟩ := by
  have hm : q.method ≠ "OPTIONS" := by
    rcases h.method with hm | hm <;> rw [hm] <;> decide
  unfold respond
  rw [if_neg hm]

/-- The first runtime says how long a request may take. -/
theorem run_respond {q : Request} (h : q.IsHandled) {S : Type} (world : Surroundings S) (s : S) :
    (respond q).run world s =
      (⟨some (world .runtime s).1.settings.server.timeout,
        ((dispatch q).run world (world .runtime s).2).1⟩,
        ((dispatch q).run world (world .runtime s).2).2) := by
  rw [respond_eq h]
  exact Dialogue.run_bind ..

/-! ## Top theorem -/

/-- **A request takes two runtimes, and no more**, whatever reloads there are meanwhile.  The
first says how long it may take, and under the second everything is done.  If the two are the
same, the client gets what it would get if that one had been in force all the time. -/
theorem request_takes_two {q : Request} (h : q.IsHandled) {S : Type} {world : Surroundings S}
    (clock : Clock world) (s : S) :
    let first : Runtime × S := world .runtime s
    let second : Runtime × S := world .runtime first.2
    ((respond q).run world s).1 = ⟨some first.1.settings.server.timeout,
      ((dispatch q).run (steady second.1 world) second.2).1⟩ ∧
    (∃ calls, (respond q).asked world s = .runtime :: calls ∧
      (calls = [] ∨ ∃ rest, calls = .runtime :: rest ∧ .runtime ∉ rest)) ∧
    (first.1 = second.1 →
      clock.delivered q s = (clock.steady first.1).delivered q second.2) := by
  intro first second
  have htakes := takesOne_dispatch h
  have htime : clock.time second.2 = clock.time s :=
    (clock.taking first.2).trans (clock.taking s)
  have hasked : (respond q).asked world s = .runtime :: (dispatch q).asked world first.2 := by
    rw [respond_eq h]
    refine congrArg (Call.runtime :: ·) ((Dialogue.asked_bind ..).trans ?_)
    exact List.append_nil _
  refine ⟨?_, ⟨_, hasked, ?_⟩, fun heq => ?_⟩
  · rw [run_respond h]
    rcases htakes.run_eq world first.2 with ⟨a, ha⟩ | hsame
    · rw [ha]
      rfl
    · exact congrArg (fun x => (⟨_, x.1⟩ : Bounded)) hsame
  · rcases htakes with ⟨a, ha⟩ | ⟨work, ha, hwork⟩
    · rw [ha]
      exact .inl rfl
    · rw [ha]
      exact .inr ⟨_, rfl, hwork _ world _⟩
  · unfold Clock.delivered
    rw [run_respond h, run_respond h]
    rcases htakes.run_eq world first.2 with ⟨a, ha⟩ | hsame
    · rw [ha]
      show Bounded.after _ (clock.time first.2 - clock.time s) =
        Bounded.after _ (clock.time second.2 - clock.time second.2)
      rw [clock.taking s, Nat.sub_self, Nat.sub_self]
      rfl
    · rw [hsame, heq]
      show Bounded.after _ _ = Bounded.after _ (_ - clock.time second.2)
      rw [htime]
      rfl

/-! ## Overtaken by a reload -/

/-- A configuration that knows no handler and has little time. -/
def hasty : Config.Settings :=
  { Config.Settings.default with server := { Config.Server.default with timeout := 1000 } }

/-- A configuration with one handler and the usual time. -/
def patient : Config.Settings :=
  { Config.Settings.default with
    handlers := Ordered.empty.insert "select" .default
    policy := { Policy.Settings.default with
      unlistedParams := ⟨true, 0.0⟩
      components := Ordered.empty.insert "select" .default } }

def askSelect : Request := ⟨"GET", "/solr/select?q=x", []⟩

theorem askSelect_isHandled : askSelect.IsHandled where
  method := .inl rfl
  route := ⟨"select".toList, .inl (by decide +kernel)⟩

theorem dispatch_askSelect : dispatch askSelect =
    .ask .runtime fun r => answered (search r "select" "q=x" []) := by
  have hroute : Route.ofPath? askSelect.path = some (.search "select".toList) := by decide +kernel
  have hhandler : handlerOf? "select".toList = some "select" := by decide +kernel
  have hquery : askSelect.query = "q=x" := by decide +kernel
  have hmethod : askSelect.method = "GET" := rfl
  simp only [dispatch, hroute, hmethod, if_true, Route.run, under, hhandler, hquery]
  rfl

/-- Whether a configuration makes a runtime that admits a request. -/
def admits (s : Config.Settings) (handler query : String) : Option Bool :=
  match Runtime.build s with
  | .ok r => some (admission r handler (Query.parse query)).isOk
  | .error _ => none

theorem exists_of_admits {s : Config.Settings} {handler query : String}
    (h : admits s handler query = some true) : ∃ r m, Runtime.build s = .ok r ∧
      r.settings = s ∧ admission r handler (Query.parse query) = .ok m := by
  unfold admits at h
  cases hr : Runtime.build s with
  | error e => simp [hr] at h
  | ok r =>
    cases hm : admission r handler (Query.parse query) with
    | error e => simp [hr, hm, Except.isOk, Except.toBool] at h
    | ok m => exact ⟨r, m, rfl, (of_build hr).2.1, hm⟩

theorem exists_of_denies {s : Config.Settings} {handler query : String}
    (h : admits s handler query = some false) : ∃ r e, Runtime.build s = .ok r ∧
      r.settings = s ∧ admission r handler (Query.parse query) = .error e := by
  unfold admits at h
  cases hr : Runtime.build s with
  | error e => simp [hr] at h
  | ok r =>
    cases hm : admission r handler (Query.parse query) with
    | ok m => simp [hr, hm, Except.isOk, Except.toBool] at h
    | error e => exact ⟨r, e, rfl, (of_build hr).2.1, hm⟩

theorem hasty_denies : admits hasty "select" "q=x" = some false := by decide +kernel

theorem patient_admits : admits patient "select" "q=x" = some true := by decide +kernel

/-- What the client can get while one runtime is in force. -/
def Possible (r : Runtime) (q : Request) (a : Response) : Prop :=
  ∃ (S : Type) (world : Surroundings S) (clock : Clock world) (s : S),
    (∀ s, (world .runtime s).1 = r) ∧ clock.delivered q s = a

/-- A reload comes as soon as the runtime has been taken, and the backend does not answer. -/
def overtaken (before after : Runtime) : Surroundings (Bool × Nat)
  | .runtime, s => (if s.1 then after else before, (true, s.2))
  | .filter .., s => (.ok .unrestricted, s)
  | .backend .., s => (.error (.timeout ""), (s.1, s.2 + after.settings.backend.timeout))

def overtakenClock (before after : Runtime) : Clock (overtaken before after) where
  time := Prod.snd
  taking _ := rfl
  onward q s := by
    cases q with
    | runtime => exact Nat.le_refl _
    | filter supplier caller => exact Nat.le_refl _
    | backend client handler params => exact Nat.le_add_right ..

/-- Only what took too long is answered with 504. -/
theorem ApiError.status_ne_504 {e : ApiError} (h : ∀ ms, e ≠ .timeout ms) : e.status ≠ 504 := by
  cases e with
  | timeout ms => exact absurd rfl (h ms)
  | denied d =>
    show (ApiError.denied d).status ≠ 504
    simp only [ApiError.status]
    split <;> decide
  | unknownHandler _ | badRequest _ | backend _ | entitlement _ | redaction _ | merger _ =>
    simp only [ApiError.status]
    decide

section

variable {r before after : Runtime} {m : Merger} {e : ApiError} {a : Response}

/-- Under one runtime the request is handled under that one, in its time. -/
theorem Possible.exists_run (h : Possible r askSelect a) :
    ∃ (S : Type) (world : Surroundings S) (clock : Clock world) (s : S),
      let x := (answered (search r "select" "q=x" [])).run world s
      a = (⟨some r.settings.server.timeout, x.1⟩ : Bounded).after
        (clock.time x.2 - clock.time s) := by
  obtain ⟨S, world, clock, s, hr, rfl⟩ := h
  refine ⟨S, world, clock, (world .runtime (world .runtime s).2).2, ?_⟩
  have htime : clock.time (world .runtime (world .runtime s).2).2 = clock.time s :=
    (clock.taking _).trans (clock.taking s)
  unfold Clock.delivered
  rw [run_respond askSelect_isHandled, dispatch_askSelect, htime]
  simp only [Dialogue.run, hr]

/-- A request that is not admitted has not taken too long. -/
theorem status_of_refused {handler : String} {params : Params}
    (hm : admission r handler params = .error e) : e.status ≠ 504 := by
  refine ApiError.status_ne_504 fun ms he => ?_
  subst he
  cases ha : (r.profile.decide handler params none).allowed with
  | false =>
    rw [admission_of_denied ha] at hm
    cases hm
  | true =>
    cases hh : r.settings.handler? handler with
    | none =>
      rw [admission_of_unconfigured ha hh] at hm
      cases hm
    | some h =>
      obtain ⟨m, hok, -⟩ := admission_eq_ok ha hh
      rw [hok] at hm
      cases hm

/-- A denial takes no time. -/
theorem Possible.eq_of_denied (h : Possible r askSelect a)
    (hm : admission r "select" (Query.parse "q=x") = .error e) : a = e.response := by
  obtain ⟨S, world, clock, s, rfl⟩ := h.exists_run
  have hdone : answered (search r "select" "q=x" []) = .done e.response := by
    unfold answered
    rw [search_eq_done hm]
    rfl
  rw [hdone]
  show Bounded.after ⟨_, e.response⟩ (clock.time s - clock.time s) = _
  rw [Nat.sub_self]
  rfl

theorem cleaned_cases (f : Access.Filter) (outgoing : Params) (raw : Backend.Raw) :
    (∃ body, cleaned f outgoing raw = .ok body) ∨
      ∃ x, cleaned f outgoing raw = .error (.redaction x) := by
  unfold cleaned
  split
  · cases Access.redact (.detect raw.contentType (outgoing.first? "wt")) raw.body with
    | error x => exact .inr ⟨x, rfl⟩
    | ok body => exact .inl ⟨body, rfl⟩
  · exact .inl ⟨raw.body, rfl⟩

/-- What comes of an admitted search has another status than what took too long. -/
theorem status_of_searched {handler query : String} {headers : List Header}
    {t : Dialogue.Script Call Call.Answer} (h : Searched r handler query headers t a)
    (hm : admission r handler (Query.parse query) = .ok m) : a.status ≠ 504 := by
  cases h with
  | refused e he =>
    rw [hm] at he
    cases he
  | unfetched u =>
    show 503 ≠ 504
    decide
  | called f outgoing b =>
    cases b with
    | error e =>
      show 502 ≠ 504
      decide
    | ok raw =>
      rcases cleaned_cases f outgoing raw with ⟨body, hb⟩ | ⟨x, hx⟩
      · rw [concluded, hb]
        show 200 ≠ 504
        decide
      · rw [concluded, hx]
        show 502 ≠ 504
        decide

theorem Possible.of_admitted (h : Possible r askSelect a)
    (hm : admission r "select" (Query.parse "q=x") = .ok m) :
    a.status ≠ 504 ∨ a = (ApiError.timeout r.settings.server.timeout).response := by
  obtain ⟨S, world, clock, s, rfl⟩ := h.exists_run
  have hstatus := status_of_searched (ends_search (ends_run world
    (answered (search r "select" "q=x" [])) s)) hm
  unfold Bounded.after
  dsimp only
  split
  · exact .inr rfl
  · exact .inl hstatus

/-- The request is cut off in the time of the runtime before, while the backend is called under
the one after. -/
theorem delivered_overtaken (hm : admission after "select" (Query.parse "q=x") = .ok m)
    (ht : before.settings.server.timeout < after.settings.backend.timeout) :
    (overtakenClock before after).delivered askSelect (false, 0) =
      (ApiError.timeout before.settings.server.timeout).response := by
  have hrun : (answered (search after "select" "q=x" [])).run (overtaken before after) (true, 0) =
      ((ApiError.backend (.timeout "")).response, (true, 0 + after.settings.backend.timeout)) := by
    unfold answered
    rw [search_eq_ask hm]
    rfl
  unfold Clock.delivered
  rw [run_respond askSelect_isHandled, dispatch_askSelect]
  let outcome := (answered (search after "select" "q=x" [])).run (overtaken before after) (true, 0)
  show Bounded.after ⟨some before.settings.server.timeout, outcome.1⟩ (outcome.2.2 - 0) = _
  rw [show outcome = _ from hrun]
  exact if_pos (by simpa using ht)

end

/-- A reload that overtakes the request: it is handled under the second runtime, in the time of the
first. -/
theorem request_takes_two_overtaken : ∃ before after, Runtime.build hasty = .ok before ∧
    Runtime.build patient = .ok after ∧ askSelect.IsHandled ∧
    ((respond askSelect).run (overtaken before after) (false, 0)).1 = ⟨some 1000,
      ((dispatch askSelect).run (steady after (overtaken before after)) (true, 0)).1⟩ := by
  obtain ⟨before, e, hbefore, hsettings, -⟩ := exists_of_denies hasty_denies
  obtain ⟨after, m, hafter, -, -⟩ := exists_of_admits patient_admits
  obtain ⟨htwo, -⟩ := request_takes_two askSelect_isHandled (overtakenClock before after) (false, 0)
  refine ⟨before, after, hbefore, hafter, askSelect_isHandled, htwo.trans ?_⟩
  show (⟨some before.settings.server.timeout, _⟩ : Bounded) = _
  rw [hsettings]
  rfl

/-- **A client can get what no runtime that was in force would have given.** -/
theorem not_forall_one_runtime : ¬ ∀ {S : Type} (inForce : S → Runtime) (world : Surroundings S)
    (clock : Clock world) (q : Request) (s : S), q.IsHandled →
    (∀ s, (world .runtime s).1 = inForce s) →
    ∃ s', Possible (inForce s') q (clock.delivered q s) := by
  intro h
  obtain ⟨before, e, hbefore, hhasty, hdenied⟩ := exists_of_denies hasty_denies
  obtain ⟨after, m, hafter, hpatient, hadmitted⟩ := exists_of_admits patient_admits
  have htime : before.settings.server.timeout < after.settings.backend.timeout := by
    rw [hhasty, hpatient]
    decide
  have hcut := delivered_overtaken hadmitted htime
  obtain ⟨⟨swapped, time⟩, hpossible⟩ := h (fun s => if s.1 then after else before)
    (overtaken before after) (overtakenClock before after) askSelect (false, 0)
    askSelect_isHandled fun _ => rfl
  rw [hcut, hhasty] at hpossible
  cases swapped with
  | false =>
    replace hpossible : Possible before askSelect _ := hpossible
    have hdenial := hpossible.eq_of_denied hdenied
    exact status_of_refused hdenied (congrArg Response.status hdenial).symm
  | true =>
    replace hpossible : Possible after askSelect _ := hpossible
    rcases hpossible.of_admitted hadmitted with hstatus | hsame
    · exact hstatus rfl
    · rw [hpatient] at hsame
      revert hsame
      decide +kernel

end SearchGateway.Gateway
