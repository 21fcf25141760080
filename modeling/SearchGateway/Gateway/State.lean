import SearchGateway.Gateway.Routing

/-!
# The runtime in force

The gateway keeps one runtime and the level of its log.  A reload makes a new runtime out
of what was loaded and puts it in force; if that fails at any point, everything stays as it
is.  Whoever has taken the runtime before keeps it.

    State.reload      puts a loaded configuration in force
    State.respond     the answer to a request, over the network
-/

namespace SearchGateway.Gateway

structure State where
  runtime : Runtime
  level : String

namespace State

/-- The state that the gateway starts in. -/
def ofRuntime (r : Runtime) : State := ⟨r, r.settings.logging.level⟩

/-- A loaded configuration as a runtime. -/
def prepare (loaded : Config.Loading Config.Settings) : Except RuntimeError Runtime :=
  match loaded with
  | .error e => .error (.config e)
  | .ok s => Runtime.build s

/-- Puts a loaded configuration in force; on an error nothing changes. -/
def reload (s : State) (loaded : Config.Loading Config.Settings) :
    State × Except RuntimeError Unit :=
  match prepare loaded with
  | .ok r => (ofRuntime r, .ok ())
  | .error e => (s, .error e)

end State

/-! ## Calls over the network -/

/-- How the calls of a request are made when one runtime stays in force. -/
def Call.make (r : Runtime) : (q : Call) → Http.Exchange q.Answer
  | .runtime => .done r
  | .filter s c => s.fetch c
  | .backend c h ps => c.execute h ps

/-- The answer to a request, with the calls made over the network. -/
def State.respond (s : State) (q : Request) : Http.Exchange Bounded :=
  (Gateway.respond q).answer (Call.make s.runtime)

end SearchGateway.Gateway
