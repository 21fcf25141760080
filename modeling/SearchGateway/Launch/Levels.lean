import SearchGateway.Number.Reading
import SearchGateway.Text.Blank

/-!
# What the log shows

Entries of the log have a level.  A filter is a list of directives, each of which sets the
level for the entries of one target, or for all.  Of the directives that concern an entry
the most specific one decides.

    Level.read?         a level by its word or its rank
    Entry.text          an entry as it is written
    LogFilter.shows     whether an entry is shown
-/

namespace SearchGateway.Launch

/-- How much is shown, from nothing to everything. -/
inductive Level
  | off
  | error
  | warn
  | info
  | debug
  | trace
  deriving DecidableEq, Repr

namespace Level

def rank : Level → Nat
  | off => 0
  | error => 1
  | warn => 2
  | info => 3
  | debug => 4
  | trace => 5

def all : List Level := [off, error, warn, info, debug, trace]

def word : Level → String
  | off => "OFF"
  | error => "ERROR"
  | warn => "WARN"
  | info => "INFO"
  | debug => "DEBUG"
  | trace => "TRACE"

/-- A level by its word in any case, or by its rank. -/
def read? (cs : List Char) : Option Level :=
  match Number.uint64? cs with
  | some n => all[n]?
  | none => all.find? fun l => l.word.toList == cs.map Char.toUpper

end Level

/-! ## Entries -/

/-- What the program's own entries are filed under. -/
def ownTarget : String := "solrgate"

/-- An entry of the log. -/
structure Entry where
  level : Level
  message : String
  values : List (String × String)
  deriving DecidableEq, Repr

namespace Entry

/-- The names of what an entry tells. -/
def fields (e : Entry) : List String := "message" :: e.values.map Prod.fst

def text (e : Entry) : String :=
  " ".intercalate ([s!"{e.level.word} {ownTarget}:", e.message]
    ++ e.values.map fun v => s!"{v.1}={v.2}")

end Entry

/-! ## Directives -/

/-- The level for some entries: those of a target, those that tell certain fields, those
within a span. -/
structure Directive where
  target : Option String
  span : Option String
  /-- Names of fields, with the value wanted. -/
  fields : List (String × Option String)
  level : Level
  deriving DecidableEq, Repr

namespace Directive

/-- Whether a directive can be decided by the entry alone. -/
def isStatic (d : Directive) : Bool := d.span.isNone && d.fields.all fun f => f.2.isNone

def concerns (d : Directive) (e : Entry) : Bool :=
  (d.target.all fun t => (Text.after? t.toList ownTarget.toList).isSome)
    && d.fields.all fun f => e.fields.contains f.1

/-- The order of directives: the longer the target, the more specific; then the number of fields
counts, and of as many fields the names that come later in the alphabet go first. -/
def precedes (a b : Directive) : Bool :=
  let length (d : Directive) : Nat := d.target.elim 0 fun t => t.utf8ByteSize + 1
  let names (d : Directive) : List String := d.fields.map Prod.fst
  if length a ≠ length b then length b < length a
  else if a.fields.length ≠ b.fields.length then b.fields.length < a.fields.length
  else names b < names a

end Directive

/-! ## Filters -/

/-- Directives in order. -/
structure LogFilter where
  directives : List Directive
  deriving DecidableEq, Repr

namespace LogFilter

/-- Everything up to a level. -/
def upTo (l : Level) : LogFilter := ⟨[⟨none, none, [], l⟩]⟩

/-- The directive that decides about an entry; of equally specific ones the last. -/
def deciding (f : LogFilter) (e : Entry) : Option Directive :=
  (f.directives.filter fun d => d.isStatic && d.concerns e).foldl
    (fun best d => match best with
      | some b => if b.precedes d then some b else some d
      | none => some d) none

/-- Whether an entry is shown. -/
def shows (f : LogFilter) (e : Entry) : Bool :=
  match f.deciding e with
  | some d => e.level.rank ≤ d.level.rank
  | none => false

end LogFilter

end SearchGateway.Launch
