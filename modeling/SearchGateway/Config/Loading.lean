import SearchGateway.Config.Record
import SearchGateway.Config.Tree
import SearchGateway.Config.Validation
import SearchGateway.Toml.Reader

/-!
# Loading a configuration

A configuration is read from a file, with variables of the environment on top, and
checked.  Nothing is used of one that cannot be read or does not pass.

    Settings.load        a file and the environment as a configuration
    Settings.loadFound   what is found at a path, and the environment
    Settings.ofText      a text alone
    Environment.values   the values that the environment sets
-/

namespace SearchGateway.Config

inductive LoadError
  | missing (path : String)
  /-- The file is not well-formed. -/
  | malformed
  /-- A value does not fit. -/
  | mismatched
  | invalid (cause : Fault)
  deriving DecidableEq, Repr

def LoadError.message : LoadError → String
  | missing p => s!"IO error: config file {p} does not exist"
  | malformed => "Parse error: config build error"
  | mismatched => "Parse error: config deserialize error"
  | invalid f => s!"Validation error: {f.message}"

abbrev Loading := Except LoadError

/-- What is found at a path. -/
inductive Found
  | nothing
  | folder
  /-- A file that cannot be read. -/
  | unreadable
  | text (content : String)
  deriving DecidableEq, Repr

/-! ## The environment -/

/-- Variables in order. -/
abbrev Variables := List (String × String)

namespace Environment

/-- What the variables that set values begin with. -/
def mark : String := "solrgate__"

/-- The small letter of a name.  Beyond ASCII it matters for the Kelvin sign alone, whose
small letter is in ASCII: no path holds any other. -/
def lower (c : Char) : Char := if c = '\u212A' then 'k' else c.toLower

/-- The path that a variable sets, if it sets one: case does not matter, and two
underscores stand for a dot. -/
def path? (name : String) : Option String :=
  (Text.after? mark.toList (name.toList.map lower)).map fun rest =>
    (String.ofList rest).replace "__" "."

/-- A value as it comes: a switch, a whole number, a float, or else a text. -/
def value (s : String) : Tree :=
  let word := String.ofList (s.toList.map Char.toLower)
  if word = "true" then .flag true
  else if word = "false" then .flag false
  else
    match Number.int64? s.toList, Number.float? s.toList with
    | some i, _ => .integer i
    | none, some x => .float x
    | none, none => .text s

/-- The values that the environment sets; of two variables for one path the last counts. -/
def values (env : Variables) : List (String × Tree) :=
  (Ordered.ofList ((Ordered.ofList env).entries.filterMap fun v =>
    (path? v.1).map fun p => (p, value v.2))).entries

end Environment

/-! ## Loading -/

/-- A document's text as named values. -/
def fileValues (text : String) : Loading (List (String × Tree)) :=
  match Toml.Table.read text with
  | some es => .ok (Tree.ofTomlEntries es)
  | none => .error .malformed

namespace Settings

/-- A merged configuration, read and checked. -/
def ofTree (t : Tree) : Loading Settings :=
  match Settings.decode t with
  | none => .error .mismatched
  | some s =>
    match s.fault? with
    | some f => .error (.invalid f)
    | none => .ok s

/-- A text alone. -/
def ofText (text : String) : Loading Settings := do
  ofTree ((Tree.table []).merge (← fileValues text))

/-- A file, if there is one, with the environment on top; a byte order mark in front of the
file does not count. -/
def load (file : Option String) (env : Variables) : Loading Settings := do
  let values ← match file with
    | some text => fileValues (String.ofList (Text.Utf8.dropMark text.toList))
    | none => pure []
  ofTree (((Tree.table []).merge values).merge (Environment.values env))

/-- What is found at a path, with the environment on top. -/
def loadFound (path : String) (env : Variables) : Found → Loading Settings
  | .nothing => .error (.missing path)
  | .folder | .unreadable => .error .malformed
  | .text s => load (some s) env

end Settings

end SearchGateway.Config
