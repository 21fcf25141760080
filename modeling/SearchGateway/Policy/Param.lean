import SearchGateway.Roster
import SearchGateway.Policy.Catalog
import SearchGateway.Policy.FieldList
import SearchGateway.Policy.Reason

/-!
# Declared parameters

A declared parameter says how its values are read, which of them are legal and what
they cost.  Reading never stops at an illegal value, so that the weight of a refused
request can still be told.

    Param.read         the state that values put a parameter in
    Param.reasons      the rules that the values break
    Param.weight       what the parameter costs in a state
-/

namespace SearchGateway.Policy

/-- Which fields a field list may name. -/
structure FieldRule where
  allowed : Option Names
  denied : Names
  star : Bool

def FieldRule.default : FieldRule := ⟨none, Roster.empty, false⟩

/-- How the values of a parameter are read. -/
inductive Kind
  | text (maxLength : Option Nat)
  | integer (maxValue : Option Int)
  | boolean
  | fields (rule : FieldRule)

def Kind.word : Kind → String
  | text _ => "string"
  | integer _ => "integer"
  | boolean => "boolean"
  | fields _ => "fields"

/-- Values as they were read. -/
inductive Reading
  | text (values : List String)
  | integer (values : List Int)
  | boolean (flag : Bool)
  | fields (names : List String)
  deriving DecidableEq, Repr

/-- What a request makes of a parameter. -/
structure ParamState where
  enabled : Bool
  reading : Option Reading
  deriving DecidableEq, Repr

/-- A declared parameter. -/
structure Param (W : Type) where
  name : String
  allowed : Bool
  constant : W
  factor : W
  multiValue : Bool
  kind : Kind

/-- The wildcard of a field list. -/
def star : String := "*"

/-- A switch: `true on yes 1` or `false off no 0`, in any case, blanks around it ignored. -/
def readSwitch (raw : String) : Option Bool :=
  let word := String.ofList ((Text.trimChars raw.toList).map Char.toLower)
  if word ∈ ["true", "on", "yes", "1"] then some true
  else if word ∈ ["false", "off", "no", "0"] then some false
  else none

/-- A whole number of 64 bits, blanks around it ignored. -/
def readInteger (raw : String) : Option Int := Number.int64? (Text.trimChars raw.toList)

namespace Param

variable {W : Type}

/-! ## Algorithm -/

/-- A parameter of one value looks at the first alone. -/
def considered (p : Param W) (values : List String) : List String :=
  if p.multiValue then values else values.take 1

/-- How many values there are, or how many characters the only one has. -/
def textLength (p : Param W) (values : List String) : Nat :=
  if p.multiValue then values.length else (values.head?.map String.length).getD 0

/-- The state that values put the parameter in. -/
def read (p : Param W) (values : List String) : ParamState :=
  let values := p.considered values
  match p.kind with
  | .text _ => ⟨true, some (.text values)⟩
  | .integer _ => ⟨true, some (.integer (values.filterMap readInteger))⟩
  | .boolean =>
    match readSwitch (values.head?.getD "") with
    | some flag => ⟨flag, some (.boolean flag)⟩
    | none => ⟨false, none⟩
  | .fields _ => ⟨true, some (.fields (FieldList.split values))⟩

/-- What is wrong with one integer value. -/
def integerReasons (p : Param W) (limit : Option Int) (raw : String) : List Reason :=
  match readInteger raw, limit with
  | none, _ => [.notInteger p.name raw]
  | some v, some limit => if v > limit then [.tooLarge p.name v limit] else []
  | some _, none => []

/-- What is wrong with naming one field: the first rule that it breaks. -/
def fieldReasons (p : Param W) (rule : FieldRule) (catalog : Catalog W) (field : String) :
    List Reason :=
  if field = star then
    if rule.star then [] else [.starNotSupported p.name]
  else if rule.denied.contains field then [.fieldDenied p.name field]
  else if (rule.allowed.map fun names => !names.contains field).getD false then
    [.fieldNotAllowed p.name field]
  else if (catalog.cost field).isAllowed then [] else [.fieldNotListed p.name field]

/-- The rules that the considered values break, by kind. -/
def kindReasons (p : Param W) (catalog : Catalog W) (values : List String) : List Reason :=
  match p.kind with
  | .text none => []
  | .text (some limit) =>
    let length := p.textLength values
    if length > limit then
      [.tooLong p.name (if p.multiValue then .values else .characters) length limit]
    else []
  | .integer limit => values.flatMap (p.integerReasons limit)
  | .boolean =>
    let raw := values.head?.getD ""
    if (readSwitch raw).isSome then [] else [.notBoolean p.name raw]
  | .fields rule => (FieldList.split values).flatMap (p.fieldReasons rule catalog)

/-- The rules that the values break. -/
def reasons (p : Param W) (catalog : Catalog W) (values : List String) : List Reason :=
  (if !p.multiValue && values.length > 1 then [.severalValues p.name values.length] else [])
    ++ p.kindReasons catalog (p.considered values)

/-- What naming one field costs. -/
def fieldWeight (catalog : Catalog W) (field : String) : W :=
  if field = star then catalog.total else (catalog.cost field).weight

/-- What the parameter costs in a state.  A state whose reading is of another kind costs
the constant. -/
def weight [Cost W] (p : Param W) (catalog : Catalog W) (state : ParamState) : W :=
  if !state.enabled then Cost.zero
  else match p.kind, state.reading with
    | .text _, some (.text values) =>
      Cost.affine p.constant p.factor (Cost.ofNat (p.textLength values))
    | .integer _, some (.integer values) =>
      Cost.affine p.constant p.factor (Cost.sum (values.map fun v => Cost.ofNat v.toNat))
    | .boolean, some (.boolean true) => p.constant
    | .boolean, _ => Cost.zero
    | .fields _, some (.fields names) =>
      Cost.affine p.constant p.factor (Cost.sum (names.map (fieldWeight catalog)))
    | _, _ => p.constant

end Param

end SearchGateway.Policy
