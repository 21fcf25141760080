import SearchGateway.Access.Entitlement
import SearchGateway.Backend.Client
import SearchGateway.Config.Loading
import SearchGateway.Policy.Profile

/-!
# Runtimes

A runtime is a configuration together with everything that is made of it.  It is made as a
whole or not at all, and never changes.

    Runtime.build     a configuration as a runtime
-/

namespace SearchGateway.Gateway

inductive RuntimeError
  | config (cause : Config.LoadError)
  | policy (cause : Policy.CompileError Float)
  | backend (cause : Backend.Fault)
  | entitlement (cause : Access.Unavailable)

def RuntimeError.message : RuntimeError → String
  | config e => e.message
  | policy e => s!"invalid policy: {e.message}"
  | backend e => s!"invalid solr settings: {e.message}"
  | entitlement e => s!"invalid entitlement settings: {e.message}"

structure Runtime where
  settings : Config.Settings
  profile : Policy.Profile Float
  client : Backend.Client
  supplier : Access.Supplier

/-- A checked configuration as a runtime: the policy first, then the backend, then the
entitlement service. -/
def Runtime.build (s : Config.Settings) : Except RuntimeError Runtime := do
  match s.fault? with
  | some f => throw (.config (.invalid f))
  | none =>
    let profile ← (Policy.Profile.compile s.policy).mapError .policy
    let client ← (Backend.Client.ofText s.backend.baseUrl).mapError .backend
    let supplier ←
      (Access.Supplier.configure s.entitlement.enabled s.entitlement.url).mapError .entitlement
    pure ⟨s, profile, client, supplier⟩

end SearchGateway.Gateway
