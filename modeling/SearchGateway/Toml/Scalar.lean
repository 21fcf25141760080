import SearchGateway.Number.Reading
import SearchGateway.Toml.Value

/-!
# Bare TOML values

Numbers, truth values, dates and times.  An underscore may stand between two digits; a
number does not start with a zero that another digit follows.  Whole numbers fit 64 signed
bits and doubles are finite unless `inf` is written.

    readBare?        the value that a run of characters spells
-/

namespace SearchGateway.Toml

open SearchGateway.Number (digitsValue digitValue)

/-! ## Digits -/

/-- Digits with single underscores between them, the underscores dropped. -/
def groupedDigits? (isDigit : Char → Bool) : List Char → Option (List Char)
  | [] => none
  | [c] => if isDigit c then some [c] else none
  | c :: '_' :: r => if isDigit c then (groupedDigits? isDigit r).map (c :: ·) else none
  | c :: r => if isDigit c then (groupedDigits? isDigit r).map (c :: ·) else none

/-- Decimal digits without a superfluous leading zero. -/
def wholeDigits? (cs : List Char) : Option (List Char) := do
  let ds ← groupedDigits? Char.isDigit cs
  match ds with
  | '0' :: _ :: _ => none
  | ds => some ds

/-- A number in a base that is a power of two. -/
def based? (base : Nat) (value? : Char → Option Nat) (cs : List Char) : Option Nat := do
  let ds ← groupedDigits? (fun c => (value? c).isSome) cs
  pure (ds.foldl (fun n c => base * n + (value? c).getD 0) 0)

def digitBelow (base : Nat) (c : Char) : Option Nat :=
  let v := if c.isDigit then c.toNat - 48
    else if 'a' ≤ c ∧ c ≤ 'f' then c.toNat - 87
    else if 'A' ≤ c ∧ c ≤ 'F' then c.toNat - 55
    else base
  if v < base then some v else none

/-! ## Numbers -/

def sign : List Char → Bool × List Char
  | '-' :: r => (true, r)
  | '+' :: r => (false, r)
  | cs => (false, cs)

def integerOf? (negative : Bool) (n : Nat) : Option Value :=
  let i : Int := if negative then -n else n
  if Number.fitsInt64 i then some (.integer i) else none

def readInteger? : List Char → Option Value
  | '0' :: 'x' :: r => (based? 16 (digitBelow 16) r).bind (integerOf? false)
  | '0' :: 'o' :: r => (based? 8 (digitBelow 8) r).bind (integerOf? false)
  | '0' :: 'b' :: r => (based? 2 (digitBelow 2) r).bind (integerOf? false)
  | cs =>
    let (negative, ds) := sign cs
    (wholeDigits? ds).bind fun ds => integerOf? negative (digitsValue ds)

/-- An exponent after its mark. -/
def exponent? (cs : List Char) : Option Int := do
  let (negative, ds) := sign cs
  let ds ← groupedDigits? Char.isDigit ds
  pure (if negative then -(digitsValue ds : Int) else digitsValue ds)

def isMark (c : Char) : Bool := c == 'e' || c == 'E'

def readFloat? (cs : List Char) : Option Value := do
  let (negative, body) := sign cs
  let signed (x : Float) : Value := .float (if negative then -x else x)
  if body = "inf".toList then return signed (1.0 / 0.0)
  if body = "nan".toList then return signed (0.0 / 0.0)
  let mantissa := body.takeWhile fun c => !isMark c
  let whole ← wholeDigits? (mantissa.takeWhile (· ≠ '.'))
  let fraction ← match mantissa.dropWhile (· ≠ '.') with
    | [] => some []
    | _ :: r => groupedDigits? Char.isDigit r
  let exponent ← match body.dropWhile fun c => !isMark c with
    | [] => if fraction = [] then none else some 0
    | _ :: r => exponent? r
  let x := Number.ofDecimal (digitsValue (whole ++ fraction)) (exponent - fraction.length)
  if x.isInf then none else some (signed x)

/-! ## Dates and times -/

/-- Exactly `n` digits at the start, with the rest. -/
def fixedDigits? (n : Nat) (cs : List Char) : Option (Nat × List Char) :=
  let ds := cs.take n
  if ds.length = n ∧ ds.all Char.isDigit then some (digitsValue ds, cs.drop n) else none

def expect? (c : Char) : List Char → Option (List Char)
  | d :: r => if d = c then some r else none
  | [] => none

def padded (width n : Nat) : String :=
  let ds := Nat.toDigits 10 n
  String.ofList (List.replicate (width - ds.length) '0' ++ ds)

def daysIn (year month : Nat) : Nat :=
  if month = 2 then
    if year % 4 = 0 ∧ (year % 100 ≠ 0 ∨ year % 400 = 0) then 29 else 28
  else if month ∈ [4, 6, 9, 11] then 30 else 31

/-- A date, with the rest. -/
def date? (cs : List Char) : Option (String × List Char) := do
  let (year, r) ← fixedDigits? 4 cs
  let r ← expect? '-' r
  let (month, r) ← fixedDigits? 2 r
  let r ← expect? '-' r
  let (day, r) ← fixedDigits? 2 r
  if 1 ≤ month ∧ month ≤ 12 ∧ 1 ≤ day ∧ day ≤ daysIn year month then
    some (padded 4 year ++ "-" ++ padded 2 month ++ "-" ++ padded 2 day, r)
  else none

/-- A fraction of a second: nine digits count; zeros at its end are dropped, a lone one
apart. -/
def fraction? : List Char → Option (String × List Char)
  | '.' :: r =>
    let ds := r.takeWhile Char.isDigit
    if ds = [] then none
    else
      let kept := ((ds.take 9).reverse.dropWhile (· = '0')).reverse
      some ("." ++ String.ofList (if kept = [] then ['0'] else kept), r.dropWhile Char.isDigit)
  | cs => some ("", cs)

/-- A time of day, with the rest; the seconds may be left out. -/
def time? (cs : List Char) : Option (String × List Char) := do
  let (hour, r) ← fixedDigits? 2 cs
  let r ← expect? ':' r
  let (minute, r) ← fixedDigits? 2 r
  if hour > 23 ∨ minute > 59 then none
  let clock := padded 2 hour ++ ":" ++ padded 2 minute
  match r with
  | ':' :: r => do
    let (second, r) ← fixedDigits? 2 r
    if second > 60 then none
    let (fraction, r) ← fraction? r
    pure (clock ++ ":" ++ padded 2 second ++ fraction, r)
  | r => pure (clock, r)

/-- An offset from universal time, which ends the text. -/
def offset? : List Char → Option String
  | [] => some ""
  | ['Z'] => some "Z"
  | ['z'] => some "Z"
  | c :: r => do
    if c ≠ '+' ∧ c ≠ '-' then none
    let (hour, r) ← fixedDigits? 2 r
    let r ← expect? ':' r
    let (minute, r) ← fixedDigits? 2 r
    if hour > 23 ∨ minute > 59 ∨ r ≠ [] then none
    let mark := if c = '-' ∧ (hour ≠ 0 ∨ minute ≠ 0) then "-" else "+"
    pure (mark ++ padded 2 hour ++ ":" ++ padded 2 minute)

def readDatetime? (cs : List Char) : Option Value :=
  match date? cs with
  | some (date, []) => some (.datetime date)
  | some (date, c :: r) => do
    if c ≠ 'T' ∧ c ≠ 't' ∧ c ≠ ' ' then none
    let (time, r) ← time? r
    let offset ← offset? r
    pure (.datetime (date ++ "T" ++ time ++ offset))
  | none => do
    let (time, r) ← time? cs
    if r = [] then some (.datetime time) else none

/-! ## Bare values -/

/-- The value that a run of characters spells. -/
def readBare? (cs : List Char) : Option Value :=
  if cs = "true".toList then some (.bool true)
  else if cs = "false".toList then some (.bool false)
  else (readInteger? cs).or ((readFloat? cs).or (readDatetime? cs))

end SearchGateway.Toml
