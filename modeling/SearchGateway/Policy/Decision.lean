import SearchGateway.Params.Basic
import SearchGateway.Policy.Profile

/-!
# Deciding on a request

A request names a handler and gives parameters.  It is admitted when it breaks no
rule and does not weigh more than the limit.

    decide          the decision on a request
    Decision        with what the request weighs, and why it is refused

Legality is looked at first: a request that breaks a rule is refused as illegal, be
it as light as it may.
-/

namespace SearchGateway.Policy

/-- Why a request is refused. -/
inductive Rejection
  | unknownHandler
  | illegalInput
  | overweight
  deriving DecidableEq, Repr

/-- What one part of a request adds to its weight. -/
structure Contribution (W : Type) where
  name : String
  weight : W

structure Decision (W : Type) where
  weight : W
  maxWeight : W
  reasons : List Reason
  rejection : Option Rejection
  breakdown : List (Contribution W)

/-- A request is admitted if nothing speaks against it. -/
def Decision.allowed {W : Type} (d : Decision W) : Bool := d.rejection.isNone

/-! ## Algorithm -/

namespace Profile

variable {W : Type}

/-- The reasons that one parameter of a request gives. -/
def paramReasons (p : Profile W) (c : Component W) (name : String) (values : List String) :
    List Reason :=
  match c.param? name with
  | some param =>
    (if param.allowed then [] else [.paramNotAllowed name]) ++ param.reasons p.catalog values
  | none => if p.unlistedParams.allowed then [] else [.paramNotListed name]

/-- All reasons: the handler's own, then those of the parameters in the order of the request. -/
def reasons (p : Profile W) (c : Component W) (handler : String) (params : Params) : List Reason :=
  (if c.allowed then [] else [.handlerNotAllowed handler])
    ++ params.entries.flatMap fun (name, values) => p.paramReasons c name values

/-- The states of the declared parameters that a request gives. -/
def states (c : Component W) (params : Params) : States :=
  params.entries.filterMap fun (name, values) =>
    (c.param? name).map fun param => (name, param.read values)

/-- A component counts if it always does, or if the request gives one of its parameters. -/
def enabled (c : Component W) (params : Params) : Bool :=
  c.defaultEnabled || params.entries.any fun e => (c.param? e.1).isSome

/-- The contributions of the parameters that the component does not declare. -/
def unlisted (p : Profile W) (c : Component W) (params : Params) : List (Contribution W) :=
  if p.unlistedParams.allowed then
    params.entries.filterMap fun (name, _) =>
      if (c.param? name).isSome then none else some ⟨name, p.unlistedParams.weight⟩
  else []

variable [Cost W]

/-- The contributions of the declared parameters, in the order of the request. -/
def declared (p : Profile W) (c : Component W) (params : Params) : List (Contribution W) :=
  params.entries.filterMap fun (name, values) =>
    (c.param? name).map fun param => ⟨name, param.weight p.catalog (param.read values)⟩

/-- What a request weighs. -/
def weigh (p : Profile W) (c : Component W) (params : Params) : W :=
  Cost.add (c.weight p.catalog (enabled c params) (states c params))
    (Cost.sum ((p.unlisted c params).map (·.weight)))

/-- The parts of a request's weight. -/
def breakdown (p : Profile W) (c : Component W) (params : Params) : List (Contribution W) :=
  (if enabled c params then [⟨c.name, c.constant⟩] else [])
    ++ p.declared c params ++ p.unlisted c params

/-- The decision on a request; a limit given here takes the place of the profile's own. -/
def decide (p : Profile W) (handler : String) (params : Params) (limit : Option W) : Decision W :=
  let maxWeight := limit.getD p.maxWeight
  match p.component? handler with
  | none => ⟨Cost.zero, maxWeight, [.noComponent handler], some .unknownHandler, []⟩
  | some c =>
    let reasons := p.reasons c handler params
    let weight := p.weigh c params
    let rejection :=
      if reasons ≠ [] then some .illegalInput
      else if Cost.exceeds weight maxWeight then some .overweight
      else none
    ⟨weight, maxWeight, reasons, rejection, p.breakdown c params⟩

end Profile

end SearchGateway.Policy
