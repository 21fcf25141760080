import SearchGateway.Config.Settings
import SearchGateway.Url.Parser

/-!
# Checking a configuration

A configuration that can be read may still make no sense.  The checks are made in a fixed
order, and the first that fails is reported.

    Settings.validate     the first fault of a configuration
-/

namespace SearchGateway.Config

inductive Fault
  | port
  | timeout
  | level
  | baseUrl (text : String) (cause : Url.ParseError)
  | backendTimeout
  | entitlementUrl
  | parallelism
  | overfetch
  | maxWeight
  | handlerWithoutComponent (name : String)
  deriving DecidableEq, Repr

/-- The levels of logging, from the most talkative to silence. -/
def levels : List String := ["trace", "debug", "info", "warn", "error", "off"]

def Fault.message : Fault → String
  | port => "server.port must be > 0"
  | timeout => "server.read_timeout_ms must be > 0"
  | level => "logging.level must be one of [" ++
      ", ".intercalate (levels.map fun l => "\"" ++ l ++ "\"") ++ "]"
  | baseUrl t e => s!"solr.base_url '{t}' is not a valid URL: {e.message}"
  | backendTimeout => "solr.timeout_ms must be > 0"
  | entitlementUrl => "entitlement.enabled=true requires entitlement.url"
  | parallelism => "suggest.parallelism must be > 0"
  | overfetch => "suggest.overfetch must be > 0"
  | maxWeight => "policy.max_weight must be >= 0"
  | handlerWithoutComponent n => s!"handler '{n}' has no policy component"

namespace Settings

/-- A text in small ASCII letters. -/
def lower (s : String) : String := String.ofList (s.toList.map Char.toLower)

/-- The first fault of a configuration, if it has one. -/
def fault? (s : Settings) : Option Fault :=
  let when (b : Bool) (f : Fault) : Option Fault := if b then some f else none
  let urlFault := match Url.parse s.backend.baseUrl with
    | .ok _ => none
    | .error e => some (.baseUrl s.backend.baseUrl e)
  when (s.server.port = 0) .port
    <|> when (s.server.timeout = 0) .timeout
    <|> when (lower s.logging.level ∉ levels) .level
    <|> urlFault
    <|> when (s.backend.timeout = 0) .backendTimeout
    <|> when (s.entitlement.enabled && s.entitlement.url.getD "" == "") .entitlementUrl
    <|> when (s.suggest.parallelism = 0) .parallelism
    <|> when (s.suggest.overfetch = 0) .overfetch
    <|> when (s.policy.maxWeight < 0) .maxWeight
    <|> (s.handlers.keys.find? fun n => !s.policy.components.contains n).map
      .handlerWithoutComponent

/-- A configuration without faults. -/
def validate (s : Settings) : Except Fault Unit :=
  match s.fault? with
  | some f => .error f
  | none => .ok ()

end Settings

end SearchGateway.Config
