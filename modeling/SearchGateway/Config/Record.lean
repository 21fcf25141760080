import SearchGateway.Config.Settings
import SearchGateway.Policy.Record

/-!
# The configuration in documents

Reading a configuration out of a document of any kind, and writing it as JSON.  Every
part may be missing, and so may every field of a part.
-/

namespace SearchGateway.Config

open Json (Value)
open Source (optional option bool text list map unsigned)

/-! ## Reading -/

variable {N : Type} [Source N]

def Server.decode : N → Option Server := fun n => do
  let r ← Source.record ["host", "port", "read_timeout_ms", "body_limit_bytes", "user_header",
    "groups_header"] n
  let d := Server.default
  pure {
    host := ← optional r "host" text d.host
    port := ← optional r "port" (unsigned 16) d.port
    timeout := ← optional r "read_timeout_ms" (unsigned 32) d.timeout
    bodyLimit := ← optional r "body_limit_bytes" (unsigned 64) d.bodyLimit
    userHeader := ← optional r "user_header" text d.userHeader
    groupsHeader := ← optional r "groups_header" text d.groupsHeader }

def Logging.decode : N → Option Logging := fun n => do
  let r ← Source.record ["level"] n
  pure { level := ← optional r "level" text Logging.default.level }

def Backend.decode : N → Option Backend := fun n => do
  let r ← Source.record ["base_url", "timeout_ms"] n
  let d := Backend.default
  pure {
    baseUrl := ← optional r "base_url" text d.baseUrl
    timeout := ← optional r "timeout_ms" (unsigned 64) d.timeout }

def Entitlement.decode : N → Option Entitlement := fun n => do
  let r ← Source.record ["enabled", "url", "timeout_ms"] n
  let d := Entitlement.default
  pure {
    enabled := ← optional r "enabled" bool d.enabled
    url := ← optional r "url" (option text) d.url
    timeout := ← optional r "timeout_ms" (unsigned 64) d.timeout }

def Suggest.decode : N → Option Suggest := fun n => do
  let r ← Source.record ["parallelism", "overfetch", "default_count", "probe_handler",
    "title_field"] n
  let d := Suggest.default
  pure {
    parallelism := ← optional r "parallelism" (unsigned 64) d.parallelism
    overfetch := ← optional r "overfetch" (unsigned 64) d.overfetch
    defaultCount := ← optional r "default_count" (unsigned 64) d.defaultCount
    probeHandler := ← optional r "probe_handler" text d.probeHandler
    titleField := ← optional r "title_field" text d.titleField }

def Handler.decode : N → Option Handler := fun n => do
  let r ← Source.record ["defaults", "forced"] n
  pure {
    defaults := ← optional r "defaults" (map Setting.decode) Ordered.empty
    forced := ← optional r "forced" (map Setting.decode) Ordered.empty }

def Settings.decode : N → Option Settings := fun n => do
  let r ← Source.record ["server", "logging", "solr", "entitlement", "suggest",
    "cumulative_params", "handlers", "policy"] n
  let d := Settings.default
  pure {
    server := ← optional r "server" Server.decode d.server
    logging := ← optional r "logging" Logging.decode d.logging
    backend := ← optional r "solr" Backend.decode d.backend
    entitlement := ← optional r "entitlement" Entitlement.decode d.entitlement
    suggest := ← optional r "suggest" Suggest.decode d.suggest
    cumulative := ← optional r "cumulative_params" (list text) d.cumulative
    handlers := ← optional r "handlers" (map Handler.decode) d.handlers
    policy := ← optional r "policy" Policy.Settings.decode d.policy }

/-! ## Writing -/

def Server.toJson (s : Server) : Value :=
  .object [("host", .text s.host), ("port", .ofNat s.port),
    ("read_timeout_ms", .ofNat s.timeout), ("body_limit_bytes", .ofNat s.bodyLimit),
    ("user_header", .text s.userHeader), ("groups_header", .text s.groupsHeader)]

def Entitlement.toJson (e : Entitlement) : Value :=
  .object [("enabled", .bool e.enabled), ("url", .ofOption .text e.url),
    ("timeout_ms", .ofNat e.timeout)]

def Suggest.toJson (s : Suggest) : Value :=
  .object [("parallelism", .ofNat s.parallelism), ("overfetch", .ofNat s.overfetch),
    ("default_count", .ofNat s.defaultCount), ("probe_handler", .text s.probeHandler),
    ("title_field", .text s.titleField)]

def Handler.toJson (h : Handler) : Value :=
  .object [("defaults", .ofMap Setting.toJson h.defaults),
    ("forced", .ofMap Setting.toJson h.forced)]

def Settings.toJson (s : Settings) : Value :=
  .object [("server", s.server.toJson), ("logging", .object [("level", .text s.logging.level)]),
    ("solr", .object [("base_url", .text s.backend.baseUrl),
      ("timeout_ms", .ofNat s.backend.timeout)]),
    ("entitlement", s.entitlement.toJson), ("suggest", s.suggest.toJson),
    ("cumulative_params", .ofTexts s.cumulative),
    ("handlers", .ofMap Handler.toJson s.handlers), ("policy", s.policy.toJson)]

end SearchGateway.Config
