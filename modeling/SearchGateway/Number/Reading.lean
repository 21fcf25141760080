import SearchGateway.Number.Range

/-!
# Reading numbers

Whole numbers are an optional sign and ASCII digits, nothing else: no blanks, no
separators.  Floats have the usual decimal grammar, or one of the words `inf`,
`infinity` and `nan` in any case, and are rounded to the nearest double.

    integer?     a signed whole number of any size
    natural?     an unsigned one; a minus sign is refused even before zero
    float?       a float
    ofDecimal    the double nearest to `m · 10^e`

A range is a separate question (`fitsInt64`).
-/

namespace SearchGateway.Number

/-! ## Algorithm -/

def digitValue (c : Char) : Nat := c.toNat - '0'.toNat

/-- The value of a run of digits. -/
def digitsValue (cs : List Char) : Nat := cs.foldl (fun n c => 10 * n + digitValue c) 0

/-- A non-empty run of ASCII digits and nothing else. -/
def allDigits? (cs : List Char) : Option Nat :=
  if cs ≠ [] ∧ cs.all Char.isDigit then some (digitsValue cs) else none

def integer? : List Char → Option Int
  | '-' :: r => (allDigits? r).map fun n => -(n : Int)
  | '+' :: r => (allDigits? r).map fun n => (n : Int)
  | cs => (allDigits? cs).map fun n => (n : Int)

def natural? : List Char → Option Nat
  | '+' :: r => allDigits? r
  | cs => allDigits? cs

/-- A signed whole number that fits 64 bits. -/
def int64? (cs : List Char) : Option Int := (integer? cs).filter fitsInt64

/-- An unsigned whole number that fits 64 bits. -/
def uint64? (cs : List Char) : Option Nat := (natural? cs).filter (· ≤ maxUInt64)

/-- The double nearest to a whole number that fits 64 bits, signed or not. -/
def floatOfInt (i : Int) : Float :=
  if i < 0 then -(UInt64.ofNat i.natAbs).toFloat else (UInt64.ofNat i.natAbs).toFloat

/-- The double nearest to `m · 10^e`.  Beyond the bounds every value is infinite or zero. -/
def ofDecimal (m : Nat) (e : Int) : Float :=
  if m = 0 then 0.0
  else
    let lead := (Nat.toDigits 10 m).length + e
    if lead > 310 then 1.0 / 0.0
    else if lead < -330 then 0.0
    else Float.ofScientific m (e < 0) e.natAbs

/-- The parts of a decimal: whole digits, fraction digits, exponent. -/
structure DecimalText where
  whole : List Char
  fraction : List Char
  exponent : Int

/-- An exponent mark with its digits, or nothing at all. -/
def exponentPart? : List Char → Option Int
  | [] => some 0
  | c :: r => if c = 'e' ∨ c = 'E' then integer? r else none

def DecimalText.ofChars? (cs : List Char) : Option DecimalText :=
  let whole := cs.takeWhile Char.isDigit
  let rest := cs.dropWhile Char.isDigit
  let (fraction, rest) := match rest with
    | '.' :: r => (r.takeWhile Char.isDigit, r.dropWhile Char.isDigit)
    | r => ([], r)
  if whole = [] ∧ fraction = [] then none
  else (exponentPart? rest).map fun e => ⟨whole, fraction, e⟩

def DecimalText.toFloat (d : DecimalText) : Float :=
  ofDecimal (digitsValue (d.whole ++ d.fraction)) (d.exponent - d.fraction.length)

/-- A float without its sign. -/
def magnitude? (cs : List Char) : Option Float :=
  let word := cs.map Char.toLower
  if word = "inf".toList ∨ word = "infinity".toList then some (1.0 / 0.0)
  else if word = "nan".toList then some (0.0 / 0.0)
  else (DecimalText.ofChars? cs).map DecimalText.toFloat

def float? : List Char → Option Float
  | '-' :: r => (magnitude? r).map fun x => -x
  | '+' :: r => magnitude? r
  | cs => magnitude? cs

end SearchGateway.Number
