import SearchGateway.Number.Reading
import SearchGateway.Source
import SearchGateway.Toml.Value

/-!
# Merged configuration

A configuration comes from several places: a file, then the environment.  Each place sets
values at paths of one tree, and what comes later goes on top: tables are merged name by
name, everything else is replaced.

    Path.read         a path such as `server.port` or `a[0].b`
    Tree.set          sets a value at a path
    Tree.merge        sets the values of one place, in order

Reading a value out of the tree is generous: a number may be written as a text, a switch as
a number, and so on.
-/

namespace SearchGateway.Config

/-- Values of a configuration. -/
inductive Tree
  | nothing
  | flag (b : Bool)
  | integer (i : Int)
  | float (x : Float)
  | text (s : String)
  | array (items : List Tree)
  | table (entries : List (String × Tree))
  deriving Repr, Inhabited

/-! ## Paths -/

inductive Step
  | name (n : String)
  | index (i : Int)
  deriving DecidableEq, Repr

abbrev Path := List Step

namespace Path

def isNamePart (c : Char) : Bool := c.isAlphanum || c == '_' || c == '-'

def isSpace (c : Char) : Bool := c == ' ' || c == '\t'

/-- A position, which a minus sign counts from the end; spaces may stand around it. -/
def index? (cs : List Char) : Option Int :=
  let bare := ((cs.dropWhile isSpace).reverse.dropWhile isSpace).reverse
  let (negative, digits) := match bare with
    | '-' :: r => (true, r)
    | r => (false, r)
  (Number.allDigits? digits).bind fun n =>
    let i : Int := if negative then -n else n
    if Number.fitsInt64 i then some i else none

/-- Names after dots and positions in brackets. -/
def steps? : Nat → List Char → Option Path
  | _, [] => some []
  | 0, _ => none
  | fuel + 1, '.' :: r =>
    let name := r.takeWhile isNamePart
    if name = [] then none
    else (steps? fuel (r.dropWhile isNamePart)).map (.name (String.ofList name) :: ·)
  | fuel + 1, '[' :: r =>
    match index? (r.takeWhile (· ≠ ']')), r.dropWhile (· ≠ ']') with
    | some i, ']' :: r => (steps? fuel r).map (.index i :: ·)
    | _, _ => none
  | _ + 1, _ => none

/-- A path, if the text is one; it begins with a name. -/
def read? (s : String) : Option Path := steps? (s.length + 1) ('.' :: s.toList)

/-- A text that is no path names one entry as it stands. -/
def ofName (s : String) : Path := (read? s).getD [.name s]

end Path

namespace Tree

/-! ## Setting values -/

/-- The entries of a table; anything else has none. -/
def entries : Tree → List (String × Tree)
  | table es => es
  | _ => []

def elements : Tree → List Tree
  | array ts => ts
  | _ => []

/-- Changes the element at a position, which counts from the end if it is negative; what
is missing on the way is filled up. -/
def alterAt (i : Int) (f : Tree → Tree) (ts : List Tree) : List Tree :=
  if 0 ≤ i then
    let n := i.toNat
    let ts := ts ++ List.replicate (n + 1 - ts.length) nothing
    ts.modify n f
  else
    let ts := List.replicate (i.natAbs - ts.length) nothing ++ ts
    ts.modify (ts.length - i.natAbs) f

/-- Changes the value at a path.  What stands in the way gives way to a table or a list. -/
def alter (f : Tree → Tree) : Path → Tree → Tree
  | [], t => f t
  | .name n :: p, t => table (Entries.alter n (fun old => alter f p (old.getD nothing)) t.entries)
  | .index i :: p, t => array (alterAt i (alter f p) t.elements)

mutual

/-- Puts a value on top of another one: tables are merged, all else is replaced. -/
def overlay : Tree → Tree → Tree
  | table es, t => overlayEntries es (table t.entries)
  | new, _ => new

def overlayEntries : List (String × Tree) → Tree → Tree
  | [], t => t
  | (k, new) :: r, t =>
    overlayEntries r (table (Entries.alter k (fun old => overlay new (old.getD nothing)) t.entries))

end

def set (p : Path) (value t : Tree) : Tree := alter (overlay value) p t

/-- Sets named values in order. -/
def merge (t : Tree) (values : List (String × Tree)) : Tree :=
  values.foldl (fun t e => set (Path.ofName e.1) e.2 t) t

/-! ## Values of a file -/

mutual

def ofToml : Toml.Value → Tree
  | .bool b => flag b
  | .integer i => integer i
  | .float x => float x
  | .text s => text s
  | .datetime s => text s
  | .array items => array (ofTomlItems items)
  | .table es => table (ofTomlEntries es)

def ofTomlItems : List Toml.Value → List Tree
  | [] => []
  | v :: r => ofToml v :: ofTomlItems r

def ofTomlEntries : List (String × Toml.Value) → List (String × Tree)
  | [] => []
  | (k, v) :: r => (k, ofToml v) :: ofTomlEntries r

end

/-! ## Generous reading -/

/-- A switch in words; the digits count as words where `digits` says so. -/
def switch? (digits : Bool) (s : String) : Option Bool :=
  let word := String.ofList (s.toList.map Char.toLower)
  if word ∈ ["true", "on", "yes"] ∨ (digits ∧ word = "1") then some true
  else if word ∈ ["false", "off", "no"] ∨ (digits ∧ word = "0") then some false
  else none

def toBool? : Tree → Option Bool
  | flag b => some b
  | integer i => some (i ≠ 0)
  | float x => some (x != 0.0)
  | text s => switch? true s
  | _ => none

/-- A whole number of 64 signed bits.  A float is rounded, a half away from zero, and kept
within bounds. -/
def toInteger? : Tree → Option Int
  | flag b => some (if b then 1 else 0)
  | integer i => some i
  | float x => some x.round.toInt64.toInt
  | text s =>
    match switch? false s with
    | some b => some (if b then 1 else 0)
    | none => Number.int64? s.toList
  | _ => none

/-- A whole number of 64 unsigned bits; a negative float is zero. -/
def toNatural? : Tree → Option Nat
  | flag b => some (if b then 1 else 0)
  | integer i => if 0 ≤ i then some i.toNat else none
  | float x => some x.round.toUInt64.toNat
  | text s =>
    match switch? false s with
    | some b => some (if b then 1 else 0)
    | none => Number.uint64? s.toList
  | _ => none

def toFloat? : Tree → Option Float
  | flag b => some (if b then 1.0 else 0.0)
  | integer i => some (Number.floatOfInt i)
  | float x => some x
  | text s =>
    match switch? false s with
    | some b => some (if b then 1.0 else 0.0)
    | none => Number.float? s.toList
  | _ => none

/-- A value of whatever kind it is. -/
def scalar? : Tree → Option Scalar
  | flag b => some (.flag b)
  | integer i => some (.integer i)
  | float x => some (.float x)
  | text s => some (.text s)
  | _ => none

/-- The fields of a table, or of a list in order; what is left over is ignored. -/
def record? (names : List String) : Tree → Option (List (String × Tree))
  | table es => some (es.filter fun e => names.contains e.1)
  | array ts => some (names.zip ts)
  | _ => none

instance : Source Tree where
  record := record?
  members
    | table es => some es
    | _ => none
  items
    | array ts => some ts
    | _ => none
  isNull
    | nothing => true
    | _ => false
  bool := toBool?
  text t := (scalar? t).map Scalar.toText
  integer low high t := (toInteger? t).filter fun i => low ≤ i && i ≤ high
  natural high t := (toNatural? t).filter (· ≤ high)
  float := toFloat?
  scalar := scalar?

end Tree

end SearchGateway.Config
