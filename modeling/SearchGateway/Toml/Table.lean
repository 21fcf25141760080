import SearchGateway.Ordered
import SearchGateway.Toml.Value

/-!
# Building TOML tables

A document defines its tables piece by piece: by headers, by dotted names and as values.
While it is read, a table remembers how it came about, since that decides whether more
may be added to it.

    Draft.assign     a dotted name and its value, in the table under the last header
    Draft.openTable  a header `[a.b]`
    Draft.openItem   a header `[[a.b]]`
-/

namespace SearchGateway.Toml

/-- How a table came about. -/
inductive Origin
  /-- As the parent of another table. -/
  | implied
  /-- By its own header. -/
  | header
  /-- By a dotted name. -/
  | dotted
  deriving DecidableEq, Repr

/-- A document under way. -/
inductive Draft
  | closed (v : Value)
  | table (origin : Origin) (entries : List (String × Draft))
  /-- Tables of one header, the last one first. -/
  | items (last : List (String × Draft)) (before : List (List (String × Draft)))

namespace Draft

abbrev Drafts := List (String × Draft)

/-! ## Algorithm -/

/-- Changes the entries of the table that a path of names leads to.  On the way missing
tables are made; of the tables of one header the last counts.  A dotted name does not lead
through a table that has a header of its own, nor to one of several; the tables it leads
through are its own from then on. -/
def descend (dotted : Bool) (f : Drafts → Option Drafts) :
    List String → Drafts → Option Drafts
  | [], es => f es
  | k :: path, es =>
    match Entries.find? k es with
    | none => do
      let inner ← descend dotted f path []
      pure (Entries.put k (.table (if dotted then .dotted else .implied) inner) es)
    | some (.table origin inner) =>
      if dotted ∧ origin = .header then none
      else do
        let inner ← descend dotted f path inner
        pure (Entries.put k (.table (if dotted then .dotted else origin) inner) es)
    | some (.items last before) =>
      if dotted ∧ path = [] then none
      else do
        let last ← descend dotted f path last
        pure (Entries.put k (.items last before) es)
    | some (.closed _) => none

/-- Adds a name that is not there yet. -/
def addNew (k : String) (d : Draft) (es : Drafts) : Option Drafts :=
  match Entries.find? k es with
  | none => some (es ++ [(k, d)])
  | some _ => none

/-- A path as its parent and its last name. -/
def splitLast : List String → Option (List String × String)
  | [] => none
  | [k] => some ([], k)
  | k :: r => (splitLast r).map fun (parent, last) => (k :: parent, last)

/-- A dotted name and its value, in a table. -/
def assign (path : List String) (v : Value) (es : Drafts) : Option Drafts := do
  let (parent, last) ← splitLast path
  descend true (addNew last (.closed v)) parent es

/-- A header of one table.  A table that is only implied so far becomes defined, and goes
last. -/
def openTable (path : List String) (es : Drafts) : Option Drafts := do
  let (parent, last) ← splitLast path
  descend false (fun es =>
    match Entries.find? last es with
    | none => some (es ++ [(last, .table .header [])])
    | some (.table .implied inner) => some (Entries.drop last es ++ [(last, .table .header inner)])
    | some _ => none) parent es

/-- A header of one table among several. -/
def openItem (path : List String) (es : Drafts) : Option Drafts := do
  let (parent, last) ← splitLast path
  descend false (fun es =>
    match Entries.find? last es with
    | none => some (es ++ [(last, .items [] [])])
    | some (.items l before) => some (Entries.put last (.items [] (l :: before)) es)
    | some _ => none) parent es

mutual

/-- The value of a finished draft. -/
def finish : Draft → Value
  | .closed v => v
  | .table _ es => .table (finishEntries es)
  | .items last before => .array (finishItems before [.table (finishEntries last)])

def finishEntries : Drafts → List (String × Value)
  | [] => []
  | (k, d) :: r => (k, finish d) :: finishEntries r

def finishItems : List Drafts → List Value → List Value
  | [], done => done
  | es :: r, done => finishItems r (.table (finishEntries es) :: done)

end

end Draft

end SearchGateway.Toml
