import SearchGateway.Text.Blank

/-!
# Tables of code points

What a standard says about characters is written down in texts: numbers are hexadecimal, and
blanks stand between words.

    CodePoints.read     a set, such as `30-39 5F`
    Spellings.read      what code points are spelled, such as `41: 61*1A` or `BD: 31+2044+32`

In a table of spellings a word with a colon says which code point comes next; each other word
spells the next one.  A star and a number tell how many in a row are spelled so, each one code
point further on; after `/2` it is every second one.
-/

namespace SearchGateway.Text

/-! ## Words -/

/-- The words of a line. -/
def words (line : String) : List (List Char) :=
  (pieces (· == ' ') line.toList).filter (· ≠ [])

def hexDigitValue (c : Char) : Nat := if c.isDigit then c.toNat - 48 else c.toNat - 55

/-- A number in capital hexadecimal digits. -/
def hexadecimal (cs : List Char) : Nat := cs.foldl (fun n c => 16 * n + hexDigitValue c) 0

/-! ## Sets -/

/-- A set of code points, as ranges. -/
abbrev CodePoints := List (Nat × Nat)

namespace CodePoints

/-- A range, or a single code point. -/
def range (word : List Char) : Nat × Nat :=
  match pieces (· == '-') word with
  | a :: b :: _ => (hexadecimal a, hexadecimal b)
  | _ => (hexadecimal word, hexadecimal word)

def read (lines : List String) : CodePoints := lines.flatMap fun l => (words l).map range

def contains (s : CodePoints) (n : Nat) : Bool := s.any fun r => r.1 ≤ n && n ≤ r.2

end CodePoints

/-! ## Spellings -/

/-- Code points at equal distances, and what the first of them is spelled. -/
structure Run where
  first : Nat
  count : Nat
  step : Nat
  spelled : List Nat
  deriving DecidableEq, Repr

namespace Run

/-- What a code point is spelled; one that stands `k` behind the first moves by `k`. -/
def spell? (r : Run) (n : Nat) : Option (List Nat) :=
  let k := n - r.first
  if r.first ≤ n ∧ k % r.step = 0 ∧ k / r.step < r.count then
    match r.spelled with
    | [m] => some [m + k]
    | ms => some ms
  else none

/-- The code point behind the last one. -/
def next (r : Run) : Nat := r.first + (r.count - 1) * r.step + 1

/-- A word that spells a code point. -/
def read (first : Nat) (word : List Char) : Run :=
  let spelled := (pieces (· == '+') (word.takeWhile (· ≠ '*'))).map hexadecimal
  match pieces (· == '/') ((word.dropWhile (· ≠ '*')).drop 1) with
  | [] :: _ => ⟨first, 1, 1, spelled⟩
  | [count] => ⟨first, hexadecimal count, 1, spelled⟩
  | count :: step :: _ => ⟨first, hexadecimal count, hexadecimal step, spelled⟩
  | [] => ⟨first, 1, 1, spelled⟩

end Run

/-- What code points are spelled. -/
abbrev Spellings := List Run

namespace Spellings

/-- The words of a line, from a code point on. -/
def ofWords : Nat → List (List Char) → Spellings
  | _, [] => []
  | n, w :: ws =>
    if w.getLast? = some ':' then ofWords (hexadecimal w.dropLast) ws
    else Run.read n w :: ofWords (Run.read n w).next ws

def read (lines : List String) : Spellings := lines.flatMap fun l => ofWords 0 (words l)

/-- What a code point is spelled, if the table has it. -/
def find? (s : Spellings) (n : Nat) : Option (List Nat) := s.findSome? (·.spell? n)

/-- The code point that is spelled so. -/
def spelledSo? (s : Spellings) (ms : List Nat) : Option Nat :=
  (List.find? (fun r => r.spelled == ms) s).map Run.first

end Spellings

end SearchGateway.Text
