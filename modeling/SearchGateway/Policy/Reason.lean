/-!
# Why a request is refused

Each legality rule that a request breaks gives one reason.
-/

namespace SearchGateway.Policy

/-- What a length limit counts. -/
inductive Measure
  | characters
  | values
  deriving DecidableEq, Repr

inductive Reason
  | noComponent (handler : String)
  | handlerNotAllowed (handler : String)
  | paramNotAllowed (param : String)
  | paramNotListed (param : String)
  | severalValues (param : String) (count : Nat)
  | tooLong (param : String) (measure : Measure) (length limit : Nat)
  | notInteger (param raw : String)
  | tooLarge (param : String) (value limit : Int)
  | notBoolean (param raw : String)
  | starNotSupported (param : String)
  | fieldDenied (param field : String)
  | fieldNotAllowed (param field : String)
  | fieldNotListed (param field : String)
  deriving DecidableEq, Repr

def Measure.word : Measure → String
  | characters => "length"
  | values => "value count"

def Reason.message : Reason → String
  | noComponent h => s!"no policy component for handler '{h}'"
  | handlerNotAllowed h => s!"handler '{h}' is not allowed"
  | paramNotAllowed p => s!"param '{p}' is not allowed"
  | paramNotListed p => s!"param '{p}' is not listed"
  | severalValues p n => s!"param '{p}' accepts a single value but got {n}"
  | tooLong p m n limit => s!"param '{p}' {m.word} {n} exceeds maxLength {limit}"
  | notInteger p raw => s!"param '{p}': '{raw}' is not an integer"
  | tooLarge p v limit => s!"param '{p}' value {v} exceeds maxValue {limit}"
  | notBoolean p raw => s!"param '{p}': '{raw}' is not a boolean"
  | starNotSupported p => s!"param '{p}': '*' is not supported"
  | fieldDenied p f => s!"param '{p}': field '{f}' is denied"
  | fieldNotAllowed p f => s!"param '{p}': field '{f}' is not in the allowed fields"
  | fieldNotListed p f => s!"param '{p}': field '{f}' is not listed"

end SearchGateway.Policy
