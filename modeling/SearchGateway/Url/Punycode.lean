/-!
# Punycode

A label of any characters written with letters and digits alone: the ASCII characters as
they are, and for the rest, in the order of their code points, how far it is from one to
the next, as numbers of base thirty-six whose digit limits adapt.

    Punycode.encode      a label in ASCII
    Punycode.decode?     the label that a text stands for
-/

namespace SearchGateway.Url.Punycode

/-! ## Digits -/

def digit (d : Nat) : Char := Char.ofNat (if d < 26 then 97 + d else 22 + d)

def digitValue? (c : Char) : Option Nat :=
  if 'a' ≤ c ∧ c ≤ 'z' then some (c.toNat - 97)
  else if 'A' ≤ c ∧ c ≤ 'Z' then some (c.toNat - 65)
  else if c.isDigit then some (c.toNat - 22)
  else none

/-- The smallest value of a digit that another one follows. -/
def threshold (k bias : Nat) : Nat := min 26 (max 1 (k - bias))

/-- Divides until what is left is small, and counts thirty-six for each step. -/
def shrink : Nat → Nat → Nat → Nat × Nat
  | 0, delta, k => (delta, k)
  | n + 1, delta, k => if delta > 455 then shrink n (delta / 35) (k + 36) else (delta, k)

/-- The bias after a distance, with so many characters placed. -/
def adapt (delta count : Nat) (first : Bool) : Nat :=
  let d := if first then delta / 700 else delta / 2
  let (d, k) := shrink 32 (d + d / count) 0
  k + 36 * d / (d + 38)

/-! ## Writing -/

/-- The digits of a distance. -/
def digits (bias : Nat) : Nat → Nat → Nat → List Char
  | 0, _, q => [digit q]
  | n + 1, k, q =>
    let t := threshold k bias
    if q < t then [digit q]
    else digit (t + (q - t) % (36 - t)) :: digits bias n (k + 36) ((q - t) / (36 - t))

structure Writing where
  out : List Char
  delta : Nat
  bias : Nat
  placed : Nat

/-- Passes one character of the label while code point `m` is being placed. -/
def pass (ascii m : Nat) (w : Writing) (c : Char) : Writing :=
  if c.toNat < m then { w with delta := w.delta + 1 }
  else if c.toNat = m then
    ⟨w.out ++ digits w.bias 64 36 w.delta, 0, adapt w.delta (w.placed + 1) (w.placed = ascii),
      w.placed + 1⟩
  else w

/-- Places code points in rising order, from `n` on. -/
def place (label : List Char) (ascii : Nat) : List Nat → Nat → Writing → Writing
  | [], _, w => w
  | m :: r, n, w =>
    let w := label.foldl (pass ascii m) { w with delta := w.delta + (m - n) * (w.placed + 1) }
    place label ascii r (m + 1) { w with delta := w.delta + 1 }

def isAscii (c : Char) : Bool := c.toNat < 128

/-- The code points beyond ASCII, each once, in rising order. -/
def beyond (label : List Char) : List Nat :=
  (((label.filter fun c => !isAscii c).map Char.toNat).mergeSort (· ≤ ·)).eraseDups

def encode (label : List Char) : List Char :=
  let basic := label.filter isAscii
  let start := if basic = [] then [] else basic ++ ['-']
  (place label basic.length (beyond label) 128 ⟨start, 0, 72, basic.length⟩).out

/-! ## Reading -/

/-- A distance, and the digits after it. -/
def distance? (bias : Nat) : Nat → Nat → Nat → List Char → Option (Nat × List Char)
  | _, _, _, [] => none
  | k, weight, sum, c :: r => do
    let d ← digitValue? c
    let sum := sum + d * weight
    let t := threshold k bias
    if sum ≥ 0x80000000 then none
    else if d < t then some (sum, r)
    else distance? bias (k + 36) (weight * (36 - t)) sum r

/-- Whether a number is a code point of a character. -/
def isScalar (n : Nat) : Bool := n < 0xD800 || (0xDFFF < n && n < 0x110000)

/-- Places what the digits say into the label. -/
def unplace : Nat → (n i bias : Nat) → (label cs : List Char) → Option (List Char)
  | _, _, _, _, label, [] => some label
  | 0, _, _, _, _, _ :: _ => none
  | fuel + 1, n, i, bias, label, c :: r => do
    let (delta, rest) ← distance? bias 36 1 0 (c :: r)
    let count := label.length + 1
    let spot := (i + delta) % count
    let n := n + (i + delta) / count
    if !isScalar n then none
    let label := label.take spot ++ Char.ofNat n :: label.drop spot
    unplace fuel n (spot + 1) (adapt delta count (i = 0)) label rest

/-- The characters before the last hyphen, and those after it. -/
def splitLast (cs : List Char) : List Char × List Char :=
  let tail := (cs.reverse.takeWhile (· ≠ '-')).reverse
  if tail.length = cs.length then ([], cs) else (cs.take (cs.length - tail.length - 1), tail)

def decode? (cs : List Char) : Option (List Char) :=
  let (basic, tail) := splitLast cs
  if basic.all isAscii then unplace tail.length 128 0 72 basic tail else none

end SearchGateway.Url.Punycode
