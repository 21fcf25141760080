import SearchGateway.Number.Reading
import SearchGateway.Text.Blank

/-!
# Internet addresses

Addresses of four octets and of eight groups of sixteen bits.  A host inside a URL is
read generously, octets in three bases and up to three of them merged into one; a
host in a configuration is read strictly.

    V4.readLoose     `0x7f.1` and the like
    V4.readStrict    four decimal octets
    V6.read          groups, one gap, perhaps an address of four octets at the end
    V6.write         lower-case groups, the longest run of zeros left out
-/

namespace SearchGateway.Url

open SearchGateway.Text (pieces)

/-! ## Four octets -/

/-- An address of four octets, as one number. -/
structure V4 where
  value : Nat
  deriving DecidableEq, Repr

namespace V4

def write (a : V4) : String :=
  let octet (i : Nat) : String := toString (a.value / Nat.pow 256 i % 256)
  octet 3 ++ "." ++ octet 2 ++ "." ++ octet 1 ++ "." ++ octet 0

def digitIn (base : Nat) (c : Char) : Option Nat :=
  let v := if c.isDigit then c.toNat - 48
    else if 'a' ≤ c ∧ c ≤ 'f' then c.toNat - 87
    else if 'A' ≤ c ∧ c ≤ 'F' then c.toNat - 55
    else base
  if v < base then some v else none

/-- Digits of a base; no digits at all are zero. -/
def numberIn (base : Nat) (cs : List Char) : Option Nat :=
  cs.foldlM (fun n c => (digitIn base c).map (base * n + ·)) 0

/-- A part of an address: hexadecimal after `0x`, octal after `0`, else decimal. -/
def number? : List Char → Option Nat
  | [] => none
  | '0' :: 'x' :: r => numberIn 16 r
  | '0' :: 'X' :: r => numberIn 16 r
  | '0' :: c :: r => numberIn 8 (c :: r)
  | cs => numberIn 10 cs

/-- The parts between dots; a dot at the end does not open one. -/
def parts (cs : List Char) : List (List Char) :=
  let ps := pieces (· == '.') cs
  if ps.length > 1 ∧ ps.getLast? = some [] then ps.dropLast else ps

/-- Whether a domain ends in a number, so that it must be an address. -/
def endsInNumber (cs : List Char) : Bool :=
  match (parts cs).getLast? with
  | none => false
  | some last => (last ≠ [] && last.all Char.isDigit) || (number? last).isSome

/-- An address with the last part standing for all octets that are left. -/
def readLoose (cs : List Char) : Option V4 := do
  let numbers ← (parts cs).mapM number?
  if numbers.length > 4 then none
  let last ← numbers.getLast?
  let leading := numbers.dropLast
  if last ≥ Nat.pow 256 (4 - leading.length) ∨ leading.any (· > 255) then none
  pure ⟨leading.zipIdx.foldl (fun sum (n, i) => sum + n * Nat.pow 256 (3 - i)) last⟩

/-- One to three digits, at most 255, without a leading zero. -/
def octet? (cs : List Char) : Option Nat := do
  let n ← Number.allDigits? cs
  if cs.length > 3 ∨ n > 255 ∨ (cs.length > 1 ∧ cs.head? = some '0') then none
  pure n

/-- Four decimal octets. -/
def readStrict (cs : List Char) : Option V4 := do
  match ← (pieces (· == '.') cs).mapM octet? with
  | [a, b, c, d] => some ⟨((a * 256 + b) * 256 + c) * 256 + d⟩
  | _ => none

end V4

/-! ## Eight groups -/

/-- An address of eight groups of sixteen bits. -/
structure V6 where
  groups : List Nat
  deriving DecidableEq, Repr

namespace V6

def hexText (n : Nat) : String := String.ofList (Nat.toDigits 16 n)

/-- The length of the run of zeros at the start. -/
def zeroRun (gs : List Nat) : Nat := (gs.takeWhile (· = 0)).length

/-- Start and length of the longest run of at least two zeros; of two the first. -/
def longestRun (gs : List Nat) : Nat × Nat :=
  (List.range gs.length).foldl (fun (best : Nat × Nat) i =>
    let run := zeroRun (gs.drop i)
    if run > best.2 ∧ run > 1 then (i, run) else best) (0, 0)

def joinColons (gs : List Nat) : String := ":".intercalate (gs.map hexText)

/-- The groups in lower-case hexadecimal, the longest run of zeros as two colons. -/
def write (a : V6) : String :=
  let (start, length) := longestRun a.groups
  if length = 0 then joinColons a.groups
  else joinColons (a.groups.take start) ++ "::" ++ joinColons (a.groups.drop (start + length))

/-- As `write`, but an embedded address of four octets keeps its dots. -/
def writeMapped (a : V6) : String :=
  match a.groups with
  | [0, 0, 0, 0, 0, 0xffff, high, low] => "::ffff:" ++ (V4.mk (high * 65536 + low)).write
  | _ => a.write

/-- One to four hexadecimal digits. -/
def group? (cs : List Char) : Option Nat :=
  if cs = [] ∨ cs.length > 4 then none else V4.numberIn 16 cs

/-- Groups between colons; the last may be four octets, which count as two groups. -/
def groups? : List (List Char) → Option (List Nat)
  | [] => some []
  | [g] =>
    match group? g with
    | some n => some [n]
    | none => (V4.readStrict g).map fun a => [a.value / 65536, a.value % 65536]
  | g :: r => do
    let n ← group? g
    let ns ← groups? r
    pure (n :: ns)

/-- Groups of a text that may be empty. -/
def side? (cs : List Char) : Option (List Nat) :=
  if cs = [] then some [] else groups? (pieces (· == ':') cs)

/-- Groups that end with a hexadecimal one. -/
def plainSide? (cs : List Char) : Option (List Nat) :=
  if cs = [] then some [] else (pieces (· == ':') cs).mapM group?

/-- Splits at the first pair of colons. -/
def splitGap : List Char → Option (List Char × List Char)
  | [] => none
  | ':' :: ':' :: r => some ([], r)
  | c :: r => (splitGap r).map fun (before, after) => (c :: before, after)

def read (cs : List Char) : Option V6 := do
  match splitGap cs with
  | none =>
    let gs ← groups? (pieces (· == ':') cs)
    if gs.length = 8 then some ⟨gs⟩ else none
  | some (before, after) =>
    let gs ← plainSide? before
    let hs ← side? after
    if gs.length + hs.length ≤ 7 then
      some ⟨gs ++ List.replicate (8 - gs.length - hs.length) 0 ++ hs⟩
    else none

end V6

end SearchGateway.Url
