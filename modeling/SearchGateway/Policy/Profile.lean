import SearchGateway.Number.Layout
import SearchGateway.Policy.Component
import SearchGateway.Policy.Settings

/-!
# Profiles

A profile is a policy ready for use.  It is compiled from settings as a whole or not
at all; the first entry in the order of the settings that is not well-formed is named.

    Profile.compile      settings as a profile, or what is wrong with them
    CompileError.message the wording
-/

namespace SearchGateway.Policy

/-! ## Errors -/

/-- The kinds of entries in a policy. -/
inductive Entity
  | profile
  | field
  | component
  | param
  deriving DecidableEq, Repr

inductive Attribute
  | name
  | type
  | weight
  | maxWeight
  | unlistedFieldsWeight
  | unlistedParamsWeight
  | weightConstant
  | weightFactor
  deriving DecidableEq, Repr

inductive CompileError (W : Type)
  | missing (entity : Entity) (index : Nat) (lacking : Attribute)
  | unknownType (component param kind : String)
  | duplicate (entity : Entity) (name : String)
  | negative (entity : Entity) (name : String) (which : Attribute) (value : W)
  deriving Repr

def Entity.word : Entity → String
  | profile => "profile"
  | field => "field"
  | component => "component"
  | param => "param"

def Attribute.word : Attribute → String
  | name => "name"
  | type => "type"
  | weight => "weight"
  | maxWeight => "max_weight"
  | unlistedFieldsWeight => "unlisted_fields.weight"
  | unlistedParamsWeight => "unlisted_params.weight"
  | weightConstant => "weight_constant"
  | weightFactor => "weight_factor"

def CompileError.message : CompileError Float → String
  | missing e i a => s!"{e.word} #{i} is missing mandatory attribute '{a.word}'"
  | unknownType c p k => s!"param '{p}' in component '{c}' has unknown type '{k}'"
  | duplicate e n => s!"duplicate {e.word} '{n}'"
  | negative e n a v => s!"{e.word} '{n}' has negative {a.word} {Number.Layout.plain.write v}"

/-! ## Profiles -/

/-- A compiled policy. -/
structure Profile (W : Type) where
  maxWeight : W
  unlistedParams : UnlistedSettings W
  catalog : Catalog W
  components : Roster (Component W) Component.name

/-- Admits nothing: no component, and a limit of zero. -/
def Profile.empty {W : Type} [Cost W] : Profile W :=
  ⟨Cost.zero, .default, .empty, Roster.empty⟩

def Profile.component? {W : Type} (p : Profile W) (name : String) : Option (Component W) :=
  p.components.find? name

/-- Adds a component; one of the same name is replaced. -/
def Profile.withComponent {W : Type} (p : Profile W) (c : Component W) : Profile W :=
  { p with components := p.components.insert c }

/-! ## Algorithm -/

/-- The kind of a name, with the limits that this kind has. -/
def Kind.ofSettings? {W : Type} (s : ParamSettings W) (kind : String) : Option Kind :=
  if kind = "string" then some (.text s.maxLength)
  else if kind = "integer" then some (.integer s.maxValue)
  else if kind = "boolean" then some .boolean
  else if kind = "fields" then
    some (.fields ⟨s.allowedFields.map Roster.ofList, Roster.ofList s.deniedFields, s.star⟩)
  else none

namespace Profile

variable {W : Type} [Cost W]

abbrev Compiling (W : Type) := Except (CompileError W)

def requireNonNegative (e : Entity) (name : String) (a : Attribute) (value : W) :
    Compiling W Unit :=
  if Cost.isNegative value then .error (.negative e name a value) else .ok ()

def require {α : Type} (e : Entity) (index : Nat) (a : Attribute) : Option α → Compiling W α
  | some x => .ok x
  | none => .error (.missing e index a)

def compileField (index : Nat) (s : FieldSettings W) : Compiling W (Field W) := do
  let name ← require .field index .name s.name
  let weight ← require .field index .weight s.weight
  requireNonNegative .field name .weight weight
  pure ⟨name, weight⟩

/-- Fields from `index` on; `seen` holds the names before. -/
def compileFields (index : Nat) (seen : List String) :
    List (FieldSettings W) → Compiling W (List (Field W))
  | [] => .ok []
  | s :: r => do
    let field ← compileField index s
    if field.name ∈ seen then throw (.duplicate .field field.name)
    let rest ← compileFields (index + 1) (field.name :: seen) r
    pure (field :: rest)

def compileParam (component : String) (index : Nat) (s : ParamSettings W) :
    Compiling W (Param W) := do
  let name ← require .param index .name s.name
  let kindName ← require .param index .type s.kind
  requireNonNegative .param name .weightConstant s.constant
  requireNonNegative .param name .weightFactor s.factor
  match Kind.ofSettings? s kindName with
  | none => throw (.unknownType component name kindName)
  | some kind => pure ⟨name, s.allowed, s.constant, s.factor, s.multiValue, kind⟩

/-- Adds parameters from `index` on to a component. -/
def compileParams (index : Nat) (c : Component W) :
    List (ParamSettings W) → Compiling W (Component W)
  | [] => .ok c
  | s :: r => do
    let param ← compileParam c.name index s
    if c.params.contains param.name then
      throw (.duplicate .param (c.name ++ "." ++ param.name))
    compileParams (index + 1) (c.withParam param) r

def compileComponent (name : String) (s : ComponentSettings W) : Compiling W (Component W) := do
  requireNonNegative .component name .weightConstant s.constant
  compileParams 0 ⟨name, s.defaultEnabled, s.allowed, s.constant, Roster.empty⟩ s.params

/-- Adds components to a profile. -/
def compileComponents (p : Profile W) :
    List (String × ComponentSettings W) → Compiling W (Profile W)
  | [] => .ok p
  | (name, s) :: r => do
    let component ← compileComponent name s
    compileComponents (p.withComponent component) r

/-- Settings as a profile: limits first, then fields, then components. -/
def compile (s : Settings W) : Compiling W (Profile W) := do
  requireNonNegative .profile "root" .maxWeight s.maxWeight
  requireNonNegative .profile "root" .unlistedFieldsWeight s.unlistedFields.weight
  requireNonNegative .profile "root" .unlistedParamsWeight s.unlistedParams.weight
  let fields ← compileFields 0 [] s.fields
  let catalog := Catalog.ofFields fields s.unlistedFields.allowed s.unlistedFields.weight
  compileComponents ⟨s.maxWeight, s.unlistedParams, catalog, Roster.empty⟩ s.components.entries

end Profile

end SearchGateway.Policy
