import SearchGateway.Launch.Levels
import SearchGateway.Launch.Pattern
import SearchGateway.Text.Utf8

/-!
# Reading the filter of the log

A directive is a level, a target, or a target with a level behind an equals sign; between target
and level a span may stand in brackets, and in it a field in braces, with a value or without.

    Directive.read?     a directive such as `info`, `name=debug` or `name[span{field}]=warn`
    LogFilter.read?     directives between commas

Blanks around a directive are passed over when its signs are looked for, but they are not taken
away: what stands between two signs is cut out of the text as it was given, by the places that
the signs have in the text without the blanks.
-/

namespace SearchGateway.Launch

namespace Directive

/-! ## Parts -/

/-- What stands between two places, counted in octets. -/
def between? (octets : List UInt8) (first last : Nat) : Option (List Char) :=
  Text.Utf8.decode? ((octets.take last).drop first)

/-- Whether a text can be wanted as a value: a flag, a number or a regular expression. -/
def isValue (cs : List Char) : Bool :=
  (String.ofList cs ∈ ["true", "false"]) || (Number.uint64? cs).isSome
    || (Number.int64? cs).isSome || (Number.float? cs).isSome || Pattern.isWellFormed cs

/-- A field, with a value after an equals sign. -/
def field? (cs : List Char) : Option (String × Option String) :=
  if cs = [] then none
  else
    match Text.pieces (· == '=') cs with
    | name :: value :: _ =>
      if isValue value then some (String.ofList name, some (String.ofList value)) else none
    | _ => some (String.ofList cs, none)

/-- The level after an equals sign; without one everything is shown. -/
def levelAfter? (cs : List Char) : Option Level :=
  if cs = [] then some .trace else Level.read? cs

/-- A word alone is a level or else a target, of which everything is shown. -/
def ofWord (cs : List Char) : Directive :=
  match Level.read? cs with
  | some l => ⟨none, none, [], l⟩
  | none => ⟨some (String.ofList cs), none, [], .trace⟩

def isTargetStart (c : Char) : Bool := c ∈ ['-', ':', '_'] || Text.isLetterOrDigit c

/-! ## Reading -/

/-- Where reading stands; a part under way knows where it began. -/
inductive Stage
  | start
  | word (first : Nat)
  | span (first : Nat)
  | field (first : Nat)
  | behindField
  | behindSpan
  | level (first : Nat)
  deriving DecidableEq, Repr

/-- A directive as far as it has been read. -/
structure Reading where
  stage : Stage
  directive : Directive
  deriving DecidableEq, Repr

/-- Goes on with the sign at a place; what is not a sign of the stage belongs to the part. -/
def step (octets : List UInt8) (s : Reading) (place : Nat) (c : Char) : Option Reading :=
  let text? (first : Nat) : Option String := (between? octets first place).map String.ofList
  let d := s.directive
  match s.stage, c with
  | .start, '[' => some ⟨.span (place + 1), d⟩
  | .start, c => if isTargetStart c then some ⟨.word place, d⟩ else none
  | .word first, '=' =>
    (text? first).map fun t => ⟨.level (place + 1), { d with target := some t }⟩
  | .word first, '[' =>
    (text? first).map fun t => ⟨.span (place + 1), { d with target := some t }⟩
  | .span first, ']' => (text? first).map fun t => ⟨.behindSpan, { d with span := some t }⟩
  | .span first, '\x7b' =>
    (text? first).map fun t =>
      ⟨.field (place + 1), { d with span := if t = "" then none else some t }⟩
  | .field first, '\x7d' =>
    ((between? octets first place).bind field?).map fun f =>
      ⟨.behindField, { d with fields := d.fields ++ [f] }⟩
  | .behindField, ']' => some ⟨.behindSpan, d⟩
  | .behindSpan, '=' => some ⟨.level (place + 1), d⟩
  | .behindField, _ => none
  | .behindSpan, _ => none
  | _, _ => some s

/-- The directive once the text has ended. -/
def finish? (octets : List UInt8) (s : Reading) : Option Directive :=
  match s.stage with
  | .word first => (between? octets first octets.length).map ofWord
  | .level first =>
    ((between? octets first octets.length).bind levelAfter?).map fun l =>
      { s.directive with level := l }
  | .behindSpan => some s.directive
  | _ => none

/-- Goes through the signs from a place on. -/
def steps (octets : List UInt8) : Nat → Reading → List Char → Option Directive
  | _, s, [] => finish? octets s
  | place, s, c :: r =>
    (step octets s place c).bind fun s => steps octets (place + c.utf8Size) s r

/-- A directive: a level, or the level for a target, a span or a field. -/
def read? (cs : List Char) : Option Directive :=
  steps (Text.Utf8.encode cs) 0 ⟨.start, ⟨none, none, [], .trace⟩⟩ (Text.trimChars cs)

end Directive

/-- Directives between commas, if all of them can be read; without any only errors are
shown. -/
def LogFilter.read? (text : String) : Option LogFilter :=
  let pieces := (Text.pieces (· == ',') text.toList).filter (· ≠ [])
  if pieces = [] then some (upTo .error)
  else (pieces.mapM Directive.read?).map LogFilter.mk

end SearchGateway.Launch
