/-!
# JSON as written and as meant

A `Node` is a document as it was written: members in order with repetitions, and
`none` where a number is out of range or a string holds half of a surrogate pair.
A `Value` is what a document means: every number and string has a value and a
member's name occurs once.

    Value.ofNode?     the meaning of a document, if it has one within a depth
    Value.toNode      a value as a document
-/

namespace SearchGateway.Json

/-- A number is a whole number of 64 bits, signed or not, or a double. -/
inductive Number
  | int (i : Int)
  | float (x : Float)
  deriving Repr, BEq

/-- A document as written. -/
inductive Node
  | null
  | bool (b : Bool)
  | number (n : Option Number)
  | text (s : Option String)
  | array (items : List Node)
  | object (members : List (Option String × Node))
  deriving Repr

/-- What a document means. -/
inductive Value
  | null
  | bool (b : Bool)
  | number (n : Number)
  | text (s : String)
  | array (items : List Value)
  | object (members : List (String × Value))
  deriving Repr

/-! ## Algorithm -/

namespace Value

/-- Sets a member: a repeated name keeps its first position and its last value. -/
def setMember (k : String) (v : Value) : List (String × Value) → List (String × Value)
  | [] => [(k, v)]
  | (k', w) :: r => if k' = k then (k', v) :: r else (k', w) :: setMember k v r

mutual

/-- The meaning of a document whose arrays and objects nest at most `room` deep. -/
def ofNode? (room : Nat) : Node → Option Value
  | .null => some .null
  | .bool b => some (.bool b)
  | .number n => n.map .number
  | .text s => s.map .text
  | .array items =>
    match room with
    | 0 => none
    | room + 1 => (ofItems? room items).map .array
  | .object members =>
    match room with
    | 0 => none
    | room + 1 => (ofMembers? room [] members).map .object

def ofItems? (room : Nat) : List Node → Option (List Value)
  | [] => some []
  | n :: r =>
    match ofNode? room n, ofItems? room r with
    | some v, some vs => some (v :: vs)
    | _, _ => none

def ofMembers? (room : Nat) (done : List (String × Value)) :
    List (Option String × Node) → Option (List (String × Value))
  | [] => some done
  | (k, n) :: r =>
    match k, ofNode? room n with
    | some k, some v => ofMembers? room (setMember k v done) r
    | _, _ => none

end

mutual

/-- A value as a document. -/
def toNode : Value → Node
  | .null => .null
  | .bool b => .bool b
  | .number n => .number (some n)
  | .text s => .text (some s)
  | .array items => .array (toItems items)
  | .object members => .object (toMembers members)

def toItems : List Value → List Node
  | [] => []
  | v :: r => toNode v :: toItems r

def toMembers : List (String × Value) → List (Option String × Node)
  | [] => []
  | (k, v) :: r => (some k, toNode v) :: toMembers r

end

/-- The member of that name, if the value is an object that has it. -/
def member? (k : String) : Value → Option Value
  | .object ms => ms.lookup k
  | _ => none

def text? : Value → Option String
  | .text s => some s
  | _ => none

end Value

end SearchGateway.Json
