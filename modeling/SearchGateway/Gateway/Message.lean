import SearchGateway.Text.Blank

/-!
# Requests and responses

What a client of the gateway sends and gets, as far as it matters here.

    Request.path, Request.query     the two parts of a target
    Header.value?                   the value of a header, if it can be read
-/

namespace SearchGateway.Gateway

/-- A header's name and value. -/
structure Header where
  name : String
  value : String

structure Request where
  method : String
  target : String
  headers : List Header

structure Response where
  status : Nat
  contentType : Option String
  /-- The methods that a path takes, if the one asked for is not among them. -/
  allow : Option String
  body : String
  deriving DecidableEq, Repr

namespace Response

/-- An answer without a body. -/
def empty (status : Nat) : Response := ⟨status, none, none, ""⟩

def json (status : Nat) (body : String) : Response :=
  ⟨status, some "application/json", none, body⟩

/-- The answer to somebody who asked for the head alone. -/
def head (r : Response) : Response := { r with body := "" }

end Response

/-! ## Targets -/

namespace Request

def isSchemePart (c : Char) : Bool := c.isAlphanum || ['+', '-', '.'].contains c

/-- What follows scheme and authority, where a target begins with them. -/
def behindAuthority? (target : List Char) : Option (List Char) :=
  (Text.after? "://".toList (target.dropWhile isSchemePart)).map fun r =>
    r.dropWhile fun c => c ∉ ['/', '?', '#']

/-- Path and query of the target, without a fragment. -/
def sent (r : Request) : List Char :=
  ((behindAuthority? r.target.toList).getD r.target.toList).takeWhile (· ≠ '#')

/-- The path of the target; an empty one is that of the root. -/
def path (r : Request) : List Char :=
  match r.sent.takeWhile (· ≠ '?') with
  | [] => ['/']
  | cs => cs

/-- What follows the first question mark. -/
def query (r : Request) : String := String.ofList ((r.sent.dropWhile (· ≠ '?')).drop 1)

end Request

/-! ## Headers -/

/-- Characters of a header's name. -/
def isToken (c : Char) : Bool := c.isAlphanum || "!#$%&'*+-.^_\x60|~".toList.contains c

def lowerName (s : String) : List Char := s.toList.map Char.toLower

/-- Whether a value holds visible ASCII characters, spaces and tabs alone. -/
def isReadable (s : String) : Bool :=
  s.toList.all fun c => (32 ≤ c.toNat && c.toNat < 127) || c == '\t'

/-- The value of a header, if it can be read.  Of several the first counts; a name that is
no header's name has no value. -/
def headerValue? (headers : List Header) (name : String) : Option String :=
  if name ≠ "" ∧ name.toList.all isToken then
    ((headers.find? fun h => lowerName h.name == lowerName name).map Header.value).filter isReadable
  else none

end SearchGateway.Gateway
