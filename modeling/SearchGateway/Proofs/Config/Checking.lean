import Mathlib.Data.Option.Basic
import SearchGateway.Config.Validation
import SearchGateway.Proofs.Params.Pairs

/-!
# What a checked configuration is

The checks are made one after the other and the first fault is reported.  A configuration passes
if there is nothing to report, and that is told here without any order.

    Settings.InOrder        nothing is wrong with a configuration
    validate_eq_ok_iff      exactly such a configuration passes
-/

namespace SearchGateway.Config.Settings

/-- A configuration with which nothing is wrong. -/
structure InOrder (s : Settings) : Prop where
  port : s.server.port ≠ 0
  timeout : s.server.timeout ≠ 0
  level : lower s.logging.level ∈ levels
  baseUrl : ∃ u, Url.parse s.backend.baseUrl = .ok u
  backendTimeout : s.backend.timeout ≠ 0
  entitlementUrl : s.entitlement.enabled = true → ∃ text, s.entitlement.url = some text ∧ text ≠ ""
  parallelism : s.suggest.parallelism ≠ 0
  overfetch : s.suggest.overfetch ≠ 0
  maxWeight : ¬ s.policy.maxWeight < 0
  /-- A handler without a component would refuse every request. -/
  components : ∀ name ∈ s.handlers.keys, name ∈ s.policy.components.keys

/-! ## Lemmas -/

variable {s : Settings}

theorem getD_ne_empty_iff {url : Option String} :
    url.getD "" ≠ "" ↔ ∃ text, url = some text ∧ text ≠ "" := by
  cases url with
  | none => simp
  | some text => simp

theorem urlFault_eq_none_iff : (match Url.parse s.backend.baseUrl with
      | .ok _ => none
      | .error e => some (Fault.baseUrl s.backend.baseUrl e)) = none ↔
    ∃ u, Url.parse s.backend.baseUrl = .ok u := by
  cases Url.parse s.backend.baseUrl <;> simp

/-- The checks, each on its own. -/
theorem fault?_eq_none_iff : s.fault? = none ↔ s.InOrder := by
  unfold fault?
  simp only [Option.orElse_eq_orElse, Option.orElse_eq_or, Option.or_eq_none_iff,
    Option.map_eq_none_iff, List.find?_eq_none]
  constructor
  · rintro ⟨hport, htimeout, hlevel, hbase, hbackend, hentitlement, hparallelism, hoverfetch,
      hmax, hhandlers⟩
    exact {
      port := by simpa using hport
      timeout := by simpa using htimeout
      level := by simpa using hlevel
      baseUrl := urlFault_eq_none_iff.mp hbase
      backendTimeout := by simpa using hbackend
      entitlementUrl := fun he => getD_ne_empty_iff.mp (by simpa [he] using hentitlement)
      parallelism := by simpa using hparallelism
      overfetch := by simpa using hoverfetch
      maxWeight := by simpa using hmax
      components := fun name hname =>
        Ordered.contains_iff.mp (by simpa using hhandlers name hname) }
  · intro h
    have hentitlement : s.entitlement.enabled = true → s.entitlement.url.getD "" ≠ "" :=
      fun he => getD_ne_empty_iff.mpr (h.entitlementUrl he)
    refine ⟨by simpa using h.port, by simpa using h.timeout, by simpa using h.level,
      urlFault_eq_none_iff.mpr h.baseUrl, by simpa using h.backendTimeout, by simpa using hentitlement,
      by simpa using h.parallelism, by simpa using h.overfetch, by simpa using h.maxWeight, ?_⟩
    intro name hname
    simpa using Ordered.contains_iff.mpr (h.components name hname)

/-- **Exactly a configuration in order passes the checks.** -/
theorem validate_eq_ok_iff : s.validate = .ok () ↔ s.InOrder := by
  rw [← fault?_eq_none_iff]
  unfold validate
  cases s.fault? <;> simp

end SearchGateway.Config.Settings
