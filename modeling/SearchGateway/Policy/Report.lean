import SearchGateway.Json.Make
import SearchGateway.Policy.Decision

/-!
# Decision reports

What a caller is told about a decision: the reasons in words, and the parts of the
weight.  A report is printed as a JSON object in which an empty breakdown and an
absent rejection are left out.
-/

namespace SearchGateway.Policy

structure Report where
  allowed : Bool
  weight : Float
  maxWeight : Float
  reasons : List String
  rejection : Option Rejection
  breakdown : List (Contribution Float)

def Rejection.word : Rejection → String
  | unknownHandler => "unknown_handler"
  | illegalInput => "illegal_input"
  | overweight => "overweight"

def Decision.report (d : Decision Float) : Report :=
  ⟨d.allowed, d.weight, d.maxWeight, d.reasons.map Reason.message, d.rejection, d.breakdown⟩

def Contribution.toJson (c : Contribution Float) : Json.Value :=
  .object [("name", .text c.name), ("weight", .ofFloat c.weight)]

def Report.toJson (r : Report) : Json.Value :=
  let rejection := match r.rejection with
    | some x => [("rejection", Json.Value.text x.word)]
    | none => []
  let breakdown := match r.breakdown with
    | [] => []
    | parts => [("breakdown", Json.Value.array (parts.map Contribution.toJson))]
  .object ([("allowed", .bool r.allowed), ("weight", .ofFloat r.weight),
    ("maxWeight", .ofFloat r.maxWeight),
    ("reasons", .ofTexts r.reasons)] ++ rejection ++ breakdown)

end SearchGateway.Policy
