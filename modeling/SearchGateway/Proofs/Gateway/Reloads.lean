import SearchGateway.Gateway.State
import SearchGateway.Policy.Current
import SearchGateway.Proofs.Config.Checking
import SearchGateway.Proofs.Gateway.Admission
import SearchGateway.Proofs.Policy.Compiling
import SearchGateway.Proofs.Replacing
import SearchGateway.Proofs.Steps

/-!
# Reloading over any history

Between a reload and what it puts in force stand the file, the check of what is in it, the
compiler of policies and the two clients, and each of them can refuse.  Whatever they say, and
in whatever order good files and bad ones follow each other, a reload counts as a whole or not
at all: the runtime in force is one that was made of a single configuration, with the level of
the log that goes with it, and all its parts are of that configuration.

    Attempt.make             what comes of what is found at a path
    Runtime.Coherent         a runtime whose parts all come of its own configuration
    coherent_of_build        every runtime that is made is one
    reload_allOrNothing      the gateway and its policy over any history of reloads

The policy that is kept by itself goes the same way.
-/

namespace SearchGateway.Gateway

/-! ## Reloads -/

/-- What a reload is given: the path of the configuration, the environment, and what is found
at the path. -/
structure Attempt where
  path : String
  env : Config.Variables
  found : Config.Found

/-- What comes of an attempt: the configuration is loaded, then a runtime is made of it, and
the level of the log is the one that it says. -/
def Attempt.make (a : Attempt) : Except RuntimeError State := do
  let s ← (Config.Settings.loadFound a.path a.env a.found).mapError .config
  let r ← Runtime.build s
  pure (.ofRuntime r)

/-- The state of the gateway: requests are handed the runtime in force. -/
def State.kept : Kept State Attempt Runtime RuntimeError where
  call s a := s.reload (Config.Settings.loadFound a.path a.env a.found)
  hand := State.runtime

/-- The policy that is kept by itself: whoever decides is handed the profile in force. -/
def policyKept : Kept Policy.Current (Policy.Settings Float) (Policy.Profile Float)
    (Policy.CompileError Float) where
  call := Policy.Current.reload
  hand := Policy.Current.profile

/-- What settings of a policy are made into. -/
def makePolicy (s : Policy.Settings Float) : Except (Policy.CompileError Float) Policy.Current :=
  (Policy.Profile.compile s).map Policy.Current.mk

/-! ## Coherence -/

/-- Where access filters come from, as a configuration has it: from the service at its address
if it enables one, and from nowhere else. -/
def IsSupplierOf (e : Config.Entitlement) (s : Access.Supplier) : Prop :=
  if e.enabled then ∃ text url, e.url = some text ∧ Url.parse text = .ok url ∧ s = .service url
  else s = .unrestricted

/-- A runtime whose parts all come of its own configuration, which is in order. -/
structure Runtime.Coherent (r : Runtime) : Prop where
  valid : r.settings.validate = .ok ()
  profile : Policy.Profile.compile r.settings.policy = .ok r.profile
  client : Backend.Client.ofText r.settings.backend.baseUrl = .ok r.client
  supplier : IsSupplierOf r.settings.entitlement r.supplier
  /-- A handler that is configured has a component, in the settings and in the profile. -/
  components : ∀ name ∈ r.settings.handlers.keys,
    name ∈ r.settings.policy.components.keys ∧ (r.profile.component? name).isSome
  /-- No request for it is refused because it is not known. -/
  known : ∀ name ∈ r.settings.handlers.keys, ∀ params,
    (∀ limit, (r.profile.decide name params limit).rejection ≠ some .unknownHandler) ∧
      ∀ other, admission r name params ≠ .error (.unknownHandler other)

/-! ## Lemmas -/

/-! ### One reload -/

theorem make_eq (a : Attempt) : a.make =
    (State.prepare (Config.Settings.loadFound a.path a.env a.found)).map .ofRuntime := by
  unfold Attempt.make State.prepare
  cases Config.Settings.loadFound a.path a.env a.found with
  | error e => rfl
  | ok s =>
    show (Runtime.build s >>= fun r => pure (State.ofRuntime r)) =
      (Runtime.build s).map State.ofRuntime
    cases Runtime.build s <;> rfl

/-- A reload of the gateway swaps its state. -/
theorem swaps_state : State.kept.Swaps Attempt.make := by
  refine Kept.swaps_of_eq fun s a => ?_
  rw [make_eq]
  show s.reload (Config.Settings.loadFound a.path a.env a.found) = _
  unfold State.reload
  cases State.prepare (Config.Settings.loadFound a.path a.env a.found) <;> rfl

/-- A reload of a policy swaps the profile. -/
theorem swaps_policy : policyKept.Swaps makePolicy := by
  refine Kept.swaps_of_eq fun c s => ?_
  show c.reload s = _
  unfold Policy.Current.reload makePolicy
  cases Policy.Profile.compile s <;> rfl

/-! ### One runtime -/

variable {s : Config.Settings} {r : Runtime} {name : String}

/-- A runtime is made of a configuration in order, and its parts are made of the parts of that
configuration. -/
theorem of_build (h : Runtime.build s = .ok r) : s.fault? = none ∧ r.settings = s ∧
    Policy.Profile.compile s.policy = .ok r.profile ∧
    Backend.Client.ofText s.backend.baseUrl = .ok r.client ∧
    Access.Supplier.configure s.entitlement.enabled s.entitlement.url = .ok r.supplier := by
  unfold Runtime.build at h
  cases hf : s.fault? with
  | some f =>
    rw [hf] at h
    cases h
  | none =>
    rw [hf] at h
    obtain ⟨profile, hp, h⟩ := of_bind_eq_ok h
    obtain ⟨client, hc, h⟩ := of_bind_eq_ok h
    obtain ⟨supplier, hs, h⟩ := of_bind_eq_ok h
    cases h
    exact ⟨rfl, rfl, of_mapError_eq_ok hp, of_mapError_eq_ok hc, of_mapError_eq_ok hs⟩

theorem supplier_of_configure {e : Config.Entitlement} {supplier : Access.Supplier}
    (h : Access.Supplier.configure e.enabled e.url = .ok supplier) :
    IsSupplierOf e supplier := by
  unfold Access.Supplier.configure at h
  unfold IsSupplierOf
  cases he : e.enabled with
  | false =>
    rw [he] at h
    cases h
    rfl
  | true =>
    simp only [he, Bool.not_true, Bool.false_eq_true, if_false] at h
    simp only [if_true]
    cases hu : e.url with
    | none =>
      rw [hu] at h
      cases h
    | some text =>
      simp only [hu] at h
      cases hp : Url.parse text with
      | error x =>
        rw [hp] at h
        cases h
      | ok url =>
        rw [hp] at h
        cases h
        exact ⟨text, url, rfl, hp, rfl⟩

/-- Where there is a component, the handler is known. -/
theorem rejection_ne_of_component {p : Policy.Profile Float} {c : Policy.Component Float}
    (h : p.component? name = some c) (params : Params) (limit : Option Float) :
    (p.decide name params limit).rejection ≠ some .unknownHandler := by
  simp only [Policy.Profile.decide, h]
  split
  · simp
  · split <;> simp

/-- A handler that is configured gets its parameters or a refusal, and never the answer that
it is not configured. -/
theorem admission_ne_of_configured (hname : name ∈ r.settings.handlers.keys) (params : Params)
    (other : String) : admission r name params ≠ .error (.unknownHandler other) := by
  obtain ⟨hd, hhd⟩ : ∃ hd, r.settings.handler? name = some hd :=
    Option.isSome_iff_exists.mp (Ordered.contains_iff.mpr hname)
  cases ha : (r.profile.decide name params none).allowed with
  | false =>
    rw [admission_of_denied ha]
    simp
  | true =>
    obtain ⟨m, hm, -⟩ := admission_eq_ok ha hhd
    rw [hm]
    simp

/-- **All parts of a runtime come of its own configuration**, which is in order. -/
theorem coherent_of_build (h : Runtime.build s = .ok r) : r.Coherent := by
  obtain ⟨hf, rfl, hp, hc, hs⟩ := of_build h
  have horder := Config.Settings.fault?_eq_none_iff.mp hf
  have hcomponent : ∀ name ∈ r.settings.handlers.keys, ∃ c, r.profile.component? name = some c := by
    intro name hname
    have hfound := Policy.Profile.component?_of_compile hp name
    obtain ⟨cs, hcs⟩ := Option.isSome_iff_exists.mp
      (Ordered.contains_iff.mpr (horder.components name hname))
    rw [hcs] at hfound
    obtain ⟨c, -, hc⟩ := hfound
    exact ⟨c, hc⟩
  exact {
    valid := Config.Settings.validate_eq_ok_iff.mpr horder
    profile := hp
    client := hc
    supplier := supplier_of_configure hs
    components := fun name hname =>
      ⟨horder.components name hname, Option.isSome_iff_exists.mpr (hcomponent name hname)⟩
    known := by
      intro name hname params
      obtain ⟨c, hc⟩ := hcomponent name hname
      exact ⟨rejection_ne_of_component hc params, admission_ne_of_configured hname params⟩ }

theorem coherent_of_make {a : Attempt} {n : State} (h : a.make = .ok n) : n.runtime.Coherent := by
  obtain ⟨s, -, h⟩ := of_bind_eq_ok h
  obtain ⟨r, hr, h⟩ := of_bind_eq_ok h
  cases h
  exact coherent_of_build hr

/-! ## Any history -/

/-- **A reload counts as a whole or not at all**, over any history of good configurations and bad
ones: in force is what the last good one was made into, and it is coherent, as is every runtime
that was ever handed out; a reload that fails says why and leaves everything as it was.  The
policy that is kept by itself goes the same way. -/
theorem reload_allOrNothing {start : State} (h : Runtime.build s = .ok start.runtime) :
    State.kept.AllOrNothing Attempt.make start ∧
    (∀ es, (State.kept.run start es).current.runtime.Coherent ∧
      ∀ r ∈ (State.kept.run start es).handed, r.Coherent) ∧
    ∀ policy, policyKept.AllOrNothing makePolicy policy := by
  have hstart : start.runtime.Coherent := coherent_of_build h
  have hmade : ∀ (a : Attempt) (n : State), a.make = .ok n → n.runtime.Coherent :=
    fun a n hn => coherent_of_make hn
  refine ⟨swaps_state.allOrNothing start, fun es => ⟨?_, ?_⟩, swaps_policy.allOrNothing⟩
  · exact swaps_state.current_run (P := fun n => n.runtime.Coherent) hstart hmade es
  · exact swaps_state.handed_run hstart hmade es

/-- A gateway with an entitlement service and one handler. -/
def restricted : Config.Settings :=
  { Config.Settings.default with
    entitlement := ⟨true, some "http://localhost:9000/filter", 3000⟩
    handlers := Ordered.empty.insert "select" .default
    policy := { Policy.Settings.default with
      components := Ordered.empty.insert "select" .default } }

/-- The file is gone. -/
def lost : Attempt := ⟨"solrgate.toml", [], .nothing⟩

/-- It is back, with a policy for the handler. -/
def regained : Attempt := ⟨"solrgate.toml", [], .text "[policy.components.select]\n"⟩

/-- There the first reload says that the file is missing, and the second succeeds. -/
theorem reload_allOrNothing_regained : ∃ r n, Runtime.build restricted = .ok r ∧
    regained.make = .ok n ∧
    State.kept.run (.ofRuntime r) [.call lost, .call regained] =
      ⟨n, [], [.error (.config (.missing "solrgate.toml")), .ok ()]⟩ ∧
    (∃ url, r.supplier = .service url) ∧ n.runtime.Coherent := by
  have hrestricted : (Runtime.build restricted).isOk = true := by decide +kernel
  have hregained : regained.make.isOk = true := by decide +kernel
  cases hr : Runtime.build restricted with
  | error e =>
    rw [hr] at hrestricted
    cases hrestricted
  | ok r =>
    cases hn : regained.make with
    | error e =>
      rw [hn] at hregained
      cases hregained
    | ok n =>
      have hstart : Runtime.build restricted = .ok (State.ofRuntime r).runtime := hr
      obtain ⟨hall, hcoherent, -⟩ := reload_allOrNothing hstart
      have hlost := hall.unmoved [] lost _ rfl
      have hback := hall.replaced [.call lost] regained n hn
      rw [List.nil_append] at hlost
      rw [List.singleton_append, hlost] at hback
      have hsupplier := (hcoherent []).1.supplier
      obtain ⟨-, hsettings, -⟩ := of_build hr
      rw [show (State.kept.run (.ofRuntime r) []).current.runtime = r from rfl, hsettings]
        at hsupplier
      obtain ⟨text, url, -, -, hurl⟩ := hsupplier
      have hmade := (hcoherent [.call lost, .call regained]).1
      rw [hback] at hmade
      exact ⟨r, n, rfl, rfl, hback, ⟨url, hurl⟩, hmade⟩

end SearchGateway.Gateway
