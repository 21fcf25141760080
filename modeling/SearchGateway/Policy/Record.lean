import SearchGateway.Json.Make
import SearchGateway.Policy.Settings
import SearchGateway.Source

/-!
# Policy settings in documents

Reading policy settings out of a document of any kind, and writing them as JSON.
-/

namespace SearchGateway.Policy

open Json (Value)

/-! ## Reading -/

variable {N : Type} [Source N]

open Source (optional option bool text float list map unsigned int64)

def UnlistedSettings.decode : N → Option (UnlistedSettings Float) := fun n => do
  let r ← Source.record ["allowed", "weight"] n
  let d : UnlistedSettings Float := .default
  pure {
    allowed := ← optional r "allowed" bool d.allowed
    weight := ← optional r "weight" float d.weight }

def FieldSettings.decode : N → Option (FieldSettings Float) := fun n => do
  let r ← Source.record ["name", "weight"] n
  pure {
    name := ← optional r "name" (option text) none
    weight := ← optional r "weight" (option float) none }

/-- The fields of a parameter's settings, in order. -/
def ParamSettings.names : List String :=
  ["name", "type", "allowed", "weight_constant", "weight_factor", "multi_value", "max_length",
    "max_value", "allowed_fields", "denied_fields", "supports_star"]

def ParamSettings.decode : N → Option (ParamSettings Float) := fun n => do
  let r ← Source.record ParamSettings.names n
  let d : ParamSettings Float := .default
  pure {
    name := ← optional r "name" (option text) d.name
    kind := ← optional r "type" (option text) d.kind
    allowed := ← optional r "allowed" bool d.allowed
    constant := ← optional r "weight_constant" float d.constant
    factor := ← optional r "weight_factor" float d.factor
    multiValue := ← optional r "multi_value" bool d.multiValue
    maxLength := ← optional r "max_length" (option (unsigned 64)) d.maxLength
    maxValue := ← optional r "max_value" (option int64) d.maxValue
    allowedFields := ← optional r "allowed_fields" (option (list text)) d.allowedFields
    deniedFields := ← optional r "denied_fields" (list text) d.deniedFields
    star := ← optional r "supports_star" bool d.star }

def ComponentSettings.names : List String :=
  ["default_enabled", "allowed", "weight_constant", "params"]

def ComponentSettings.decode : N → Option (ComponentSettings Float) := fun n => do
  let r ← Source.record ComponentSettings.names n
  let d : ComponentSettings Float := .default
  pure {
    defaultEnabled := ← optional r "default_enabled" bool d.defaultEnabled
    allowed := ← optional r "allowed" bool d.allowed
    constant := ← optional r "weight_constant" float d.constant
    params := ← optional r "params" (list ParamSettings.decode) d.params }

def Settings.names : List String :=
  ["max_weight", "unlisted_fields", "unlisted_params", "fields", "components"]

def Settings.decode : N → Option (Settings Float) := fun n => do
  let r ← Source.record Settings.names n
  let d : Settings Float := .default
  pure {
    maxWeight := ← optional r "max_weight" float d.maxWeight
    unlistedFields := ← optional r "unlisted_fields" UnlistedSettings.decode d.unlistedFields
    unlistedParams := ← optional r "unlisted_params" UnlistedSettings.decode d.unlistedParams
    fields := ← optional r "fields" (list FieldSettings.decode) d.fields
    components := ← optional r "components" (map ComponentSettings.decode) d.components }

/-! ## Writing -/

def UnlistedSettings.toJson (u : UnlistedSettings Float) : Value :=
  .object [("allowed", .bool u.allowed), ("weight", .ofFloat u.weight)]

def FieldSettings.toJson (f : FieldSettings Float) : Value :=
  .object [("name", .ofOption .text f.name), ("weight", .ofOption .ofFloat f.weight)]

def ParamSettings.toJson (p : ParamSettings Float) : Value :=
  .object [("name", .ofOption .text p.name), ("type", .ofOption .text p.kind),
    ("allowed", .bool p.allowed), ("weight_constant", .ofFloat p.constant),
    ("weight_factor", .ofFloat p.factor), ("multi_value", .bool p.multiValue),
    ("max_length", .ofOption .ofNat p.maxLength),
    ("max_value", .ofOption .ofInt p.maxValue),
    ("allowed_fields", .ofOption .ofTexts p.allowedFields),
    ("denied_fields", .ofTexts p.deniedFields), ("supports_star", .bool p.star)]

def ComponentSettings.toJson (c : ComponentSettings Float) : Value :=
  .object [("default_enabled", .bool c.defaultEnabled), ("allowed", .bool c.allowed),
    ("weight_constant", .ofFloat c.constant),
    ("params", .array (c.params.map ParamSettings.toJson))]

def Settings.toJson (s : Settings Float) : Value :=
  .object [("max_weight", .ofFloat s.maxWeight),
    ("unlisted_fields", s.unlistedFields.toJson), ("unlisted_params", s.unlistedParams.toJson),
    ("fields", .array (s.fields.map FieldSettings.toJson)),
    ("components", .ofMap ComponentSettings.toJson s.components)]

end SearchGateway.Policy
