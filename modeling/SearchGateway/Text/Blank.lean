/-!
# Blanks

The characters with the Unicode property `White_Space`, and trimming by them.

    isBlank     the property
    trim        a text without blanks at either end
    lines       the lines of a text
-/

namespace SearchGateway.Text

/-! ## Algorithm -/

/-- The Unicode property `White_Space`. -/
def isBlank (c : Char) : Bool :=
  let n := c.toNat
  (9 ≤ n && n ≤ 13) || n == 0x20 || n == 0x85 || n == 0xA0 || n == 0x1680
    || (0x2000 ≤ n && n ≤ 0x200A) || n == 0x2028 || n == 0x2029 || n == 0x202F
    || n == 0x205F || n == 0x3000

def trimStart (cs : List Char) : List Char := cs.dropWhile isBlank

def trimEnd (cs : List Char) : List Char := (cs.reverse.dropWhile isBlank).reverse

def trimChars (cs : List Char) : List Char := trimEnd (trimStart cs)

/-- A text without blanks at either end. -/
def trim (s : String) : String := String.ofList (trimChars s.toList)

/-- The pieces between separators, empty ones included; there is always at least one. -/
def pieces (separates : Char → Bool) : List Char → List (List Char)
  | [] => [[]]
  | c :: r =>
    if separates c then [] :: pieces separates r
    else match pieces separates r with
      | [] => [[c]]
      | p :: ps => (c :: p) :: ps

/-- The lines of a text.  A carriage return before the end of a line belongs to the end. -/
def lines (s : String) : List String :=
  (pieces (· == '\n') s.toList).map fun l =>
    String.ofList (if l.getLast? = some '\r' then l.dropLast else l)

/-- Whether `needle` stands at the start of a text; then what follows it. -/
def after? : List Char → List Char → Option (List Char)
  | [], cs => some cs
  | _ :: _, [] => none
  | n :: ns, c :: cs => if n = c then after? ns cs else none

/-- Whether `needle` occurs anywhere in a text. -/
def occursIn (needle : List Char) : List Char → Bool
  | [] => needle.isEmpty
  | c :: r => (after? needle (c :: r)).isSome || occursIn needle r

/-! ## Lemmas -/

theorem pieces_ne_nil (separates : Char → Bool) (cs : List Char) : pieces separates cs ≠ [] := by
  cases cs with
  | nil => simp [pieces]
  | cons c r =>
    simp only [pieces]
    split
    · simp
    · split <;> simp

theorem after?_append (needle cs : List Char) : after? needle (needle ++ cs) = some cs := by
  induction needle with
  | nil => rfl
  | cons n ns ih => simp [after?, ih]

theorem eq_append_of_after? {needle cs rest : List Char} (h : after? needle cs = some rest) :
    cs = needle ++ rest := by
  fun_induction after? needle cs with
  | case1 => simp_all
  | case2 => simp at h
  | case3 n ns cs ih => simp [ih h]
  | case4 => simp at h

end SearchGateway.Text
