import SearchGateway.Ordered
import SearchGateway.Text.Blank
import SearchGateway.Text.Letter
import SearchGateway.Text.Utf8

/-!
# A file of variables

Variables of the environment may be kept in a file, one to a line, as a shell would take
them.  A line goes on with the next one where a quote is open.  Values may refer to
variables that are already there.

    logicalLines      lines, joined where they go on
    Definition.read   a line as a definition
    load              the environment with a file's definitions added

Variables that are there are never changed.  Reading stops at the first line that cannot be
read; what stands before it counts.
-/

namespace SearchGateway.Launch

/-- Variables by name. -/
abbrev Environment := Ordered String

/-- A text that cannot be read, and where reading it stopped. -/
structure Malformed where
  text : String
  position : Nat
  deriving DecidableEq, Repr

def Malformed.message (m : Malformed) : String :=
  s!"Error parsing line: '{m.text}', error at line index: {m.position}"

def octets (cs : List Char) : Nat := (Text.Utf8.encode cs).length

/-! ## Lines -/

/-- Where in a line a scan for its end stands. -/
inductive Scan
  | plain
  /-- Just after a blank. -/
  | blank
  | escape
  | quoted (mark : Char)
  | quotedEscape (mark : Char)
  deriving DecidableEq, Repr

namespace Scan

/-- A character outside quotes. -/
def outside (c : Char) : Scan :=
  if c = '\\' then escape else if c = '"' ∨ c = '\'' then quoted c else plain

def next : Scan → Char → Scan
  | plain, c => if Text.isBlank c && c != '\n' && c != '\r' then blank else outside c
  | blank, c => outside c
  | escape, _ => plain
  | quoted m, c => if c = '\\' then quotedEscape m else if c = m then plain else quoted m
  | quotedEscape m, _ => quoted m

/-- What belongs to a line, and where the scan stands at its end; nowhere if a comment
begins, which it does only just after a blank. -/
def line : Scan → List Char → List Char × Option Scan
  | s, [] => ([], some s)
  | s, c :: r =>
    if s = blank ∧ c = '#' then ([], none)
    else let rest := line (s.next c) r; (c :: rest.1, rest.2)

end Scan

/-- The lines of a text, each with the line break that ends it. -/
def physicalLines : List Char → List (List Char)
  | [] => []
  | c :: r =>
    if c = '\n' then [c] :: physicalLines r
    else match physicalLines r with
      | [] => [[c]]
      | l :: ls => (c :: l) :: ls

/-- A line without its line break. -/
def dropBreak (cs : List Char) : List Char :=
  match cs.reverse with
  | '\n' :: '\r' :: r => r.reverse
  | '\n' :: r => r.reverse
  | _ => cs

/-- Lines joined as long as the scan asks for more.  A line that is all comment is empty; one
that never ends is malformed. -/
def logicalLines (begun : List Char) (s : Scan) :
    List (List Char) → List (Except Malformed (List Char))
  | [] => if s = .plain then [] else [.error ⟨String.ofList begun, octets begun⟩]
  | l :: r =>
    let whole := begun ++ l
    if (Text.trimStart whole).head? = some '#' then .ok [] :: logicalLines [] .plain r
    else
      match s.line l with
      | (kept, none) => .ok (begun ++ kept) :: logicalLines [] .plain r
      | (_, some .plain) => .ok (dropBreak whole) :: logicalLines [] .plain r
      | (_, some s) => logicalLines whole s r

/-! ## Values -/

/-- Where in a value its reading stands. -/
inductive Mode
  | bare
  /-- Within double quotes. -/
  | quoted
  /-- Within single quotes. -/
  | literal
  | escape (within : Bool)
  /-- The name of a variable, in braces or not. -/
  | reference (within braced : Bool) (name : List Char)
  /-- Behind the value. -/
  | behind
  deriving DecidableEq, Repr

namespace Mode

/-- Outside of references, within double quotes or not. -/
def ground (within : Bool) : Mode := if within then quoted else bare

def expansion (env : Environment) (name : List Char) : List Char :=
  ((env.find? (String.ofList name)).getD "").toList

/-- What a backslash makes of a character. -/
def escaped? (c : Char) : Option Char :=
  if c = 'n' then some '\n'
  else if c ∈ ['\\', '\'', '"', '$', ' '] then some c
  else none

/-- What a character adds to the value, and how reading goes on; none if it cannot stand
there.  The character that ends a name without braces is part of the value as it is. -/
def step (env : Environment) : Mode → Char → Option (List Char × Mode)
  | behind, c => if c = ' ' ∨ c = '\t' then some ([], behind) else none
  | escape w, c => (escaped? c).map fun d => ([d], ground w)
  | literal, c => some (if c = '\'' then ([], bare) else ([c], literal))
  | reference w braced name, c =>
    some <|
      if Text.isLetterOrDigit c then ([], reference w braced (name ++ [c]))
      else if braced then
        if c = '}' then (expansion env name, ground w)
        else ([], reference w true (name ++ [c]))
      else if c = '{' ∧ name = [] then ([], reference w true [])
      else if c = '$' then (expansion env name, reference w false [])
      else (expansion env name ++ [c], ground w)
  | quoted, c =>
    some <|
      if c = '$' then ([], reference true false [])
      else if c = '"' then ([], bare)
      else if c = '\\' then ([], escape true)
      else ([c], quoted)
  | bare, c =>
    some <|
      if c = '$' then ([], reference false false [])
      else if c = '\'' then ([], literal)
      else if c = '"' then ([], quoted)
      else if c = '\\' then ([], escape false)
      else if c = ' ' ∨ c = '\t' then ([], behind)
      else ([c], bare)

/-- What the end adds to the value; none if a quote or a brace is open. -/
def finish (env : Environment) : Mode → Option (List Char)
  | bare | behind | escape false => some []
  | reference false false name => some (expansion env name)
  | quoted | literal | escape true | reference .. => none

/-- Where reading stopped. -/
inductive Stop
  | character (index : Nat)
  | ending
  deriving DecidableEq, Repr

/-- A value from its `index`th character on.  Behind it may stand a comment. -/
def run (env : Environment) (m : Mode) (index : Nat) : List Char → Except Stop (List Char)
  | [] =>
    match m.finish env with
    | some cs => .ok cs
    | none => .error .ending
  | c :: r =>
    if m = behind ∧ c = '#' then .ok []
    else
      match m.step env c with
      | none => .error (.character index)
      | some (cs, m) => (run env m (index + 1) r).map (cs ++ ·)

end Mode

/-- A value, with references replaced. -/
def readValue (env : Environment) (cs : List Char) : Except Malformed String :=
  match Mode.run env .bare 0 cs with
  | .ok v => .ok (String.ofList v)
  | .error (.character i) => .error ⟨String.ofList cs, i⟩
  | .error .ending => .error ⟨String.ofList cs, octets cs - 1⟩

/-! ## Definitions -/

/-- A variable and its value. -/
structure Definition where
  name : String
  value : String
  deriving DecidableEq, Repr

namespace Definition

def isNameStart (c : Char) : Bool := c.isAlpha || c == '_'

def isNamePart (c : Char) : Bool := c.isAlphanum || c == '_' || c == '.'

/-- A name, and what follows it after blanks. -/
def name? (cs : List Char) : Option (List Char × List Char) :=
  match cs with
  | [] => none
  | c :: _ =>
    if isNameStart c then some (cs.takeWhile isNamePart, Text.trimStart (cs.dropWhile isNamePart))
    else none

/-- A name and the text of its value.  The word `export` may stand before the name; it may
also be the name.  The error is what is left where reading stopped. -/
def head (cs : List Char) : Except (List Char) (List Char × List Char) :=
  match name? cs with
  | none => .error cs
  | some (name, '=' :: r) => .ok (name, Text.trimStart r)
  | some (name, rest) =>
    if String.ofList name ≠ "export" then .error rest
    else
      match name? rest with
      | none => .error rest
      | some (name, '=' :: r) => .ok (name, Text.trimStart r)
      | some (_, rest) => .error rest

/-- A line as a definition; a blank line and a comment define nothing. -/
def read (env : Environment) (line : List Char) : Except Malformed (Option Definition) :=
  let text := Text.trimEnd line
  match Text.trimStart text with
  | [] => .ok none
  | '#' :: _ => .ok none
  | cs =>
    match head cs with
    | .error rest => .error ⟨String.ofList line, octets text - octets rest⟩
    | .ok (name, []) => .ok (some ⟨String.ofList name, ""⟩)
    | .ok (name, '#' :: _) => .ok (some ⟨String.ofList name, ""⟩)
    | .ok (name, value) => (readValue env value).map fun v => some ⟨String.ofList name, v⟩

end Definition

/-! ## Loading -/

/-- Sets a variable that is not there yet. -/
def define (env : Environment) (d : Definition) : Environment :=
  if env.contains d.name then env else env.insert d.name d.value

/-- Takes the definitions of lines as far as they can be read. -/
def loadLines (env : Environment) :
    List (Except Malformed (List Char)) → Environment × Option Malformed
  | [] => (env, none)
  | .error e :: _ => (env, some e)
  | .ok line :: r =>
    match Definition.read env line with
    | .error e => (env, some e)
    | .ok none => loadLines env r
    | .ok (some d) => loadLines (define env d) r

/-- The environment with the definitions of a file added; a byte order mark before the first
line is skipped. -/
def load (env : Environment) (text : String) : Environment × Option Malformed :=
  loadLines env (logicalLines [] .plain (physicalLines (Text.Utf8.dropMark text.toList)))

end SearchGateway.Launch
