import SearchGateway.Text.Blank
import SearchGateway.Text.Letter

/-!
# Patterns

The value of a field may be wanted to match a regular expression.  Whether it does is never asked
here, but an ill-formed expression makes the whole filter useless.

    Pattern.isWellFormed      whether a text is a regular expression

An expression is read from left to right.  A repetition needs something to repeat, a bracket its
partner, a backslash one of the signs that it may stand before.  Nothing looks ahead or back, no
group is referred to, and the ends of words are found only while octets are matched instead of
characters.
-/

namespace SearchGateway.Launch.Pattern

/-! ## Flags -/

/-- What the flags of an expression say. -/
structure Flags where
  /-- Blanks and comments do not count. -/
  spaced : Bool
  /-- Octets are matched instead of characters; what they match is still text. -/
  octets : Bool
  deriving DecidableEq, Repr

def Flags.initial : Flags := ⟨false, false⟩

/-- What a list of flags says about one of them: behind a hyphen it is off. -/
def stateOf (flag : Char) (given : List Char) : Option Bool :=
  if given.contains flag then some (!(given.takeWhile (· ≠ flag)).contains '-') else none

def Flags.apply (f : Flags) (given : List Char) : Flags :=
  ⟨(stateOf 'x' given).getD f.spaced, ((stateOf 'u' given).map (!·)).getD f.octets⟩

/-- Drops blanks and comments; a comment ends with its line. -/
def dropBlanks (inComment : Bool) : List Char → List Char
  | [] => []
  | c :: r =>
    if inComment then dropBlanks (c ≠ '\n') r
    else if Text.isBlank c then dropBlanks false r
    else if c = '#' then dropBlanks true r
    else c :: r

def Flags.skip (f : Flags) (cs : List Char) : List Char :=
  if f.spaced then dropBlanks false cs else cs

/-- What `skip` leaves, unless that is nothing. -/
def Flags.skip? (f : Flags) (cs : List Char) : Option (List Char) :=
  if f.skip cs = [] then none else some (f.skip cs)

/-! ## Characters and what stands for them -/

/-- What a piece of an expression matches. -/
inductive Atom
  /-- One character. -/
  | character (code : Nat)
  /-- One of several characters. -/
  | several
  /-- No character, but a place between two. -/
  | place
  deriving DecidableEq, Repr

/-- Characters that mean something of their own without a backslash. -/
def isMeta (c : Char) : Bool := "\\.+*?()|[]\x7b\x7d^$#&-~".toList.contains c

/-- Characters that a backslash leaves as they are. -/
def isEscapable (c : Char) : Bool :=
  isMeta c || (c.toNat < 128 && !c.isAlphanum && c ≠ '<' && c ≠ '>')

/-- The control characters that have a letter. -/
def controls : List (Char × Nat) :=
  [('a', 7), ('f', 12), ('t', 9), ('n', 10), ('r', 13), ('v', 11)]

def hexValue? (c : Char) : Option Nat :=
  if c.isDigit then some (c.toNat - 48)
  else if 'a' ≤ c ∧ c ≤ 'f' then some (c.toNat - 87)
  else if 'A' ≤ c ∧ c ≤ 'F' then some (c.toNat - 55)
  else none

/-- A number of hexadecimal digits, and what follows the last. -/
def hexDigits? (f : Flags) : Nat → Nat → List Char → Option (Nat × List Char)
  | 0, n, cs => some (n, cs)
  | k + 1, n, cs =>
    match f.skip cs with
    | [] => none
    | c :: r => (hexValue? c).bind fun d => hexDigits? f k (16 * n + d) r

/-- How many digits the code of a character has. -/
def codeLength? (c : Char) : Option Nat :=
  [('x', 2), ('u', 4), ('U', 8)].lookup c

def isScalar (n : Nat) : Bool := n < 0xD800 || (0xDFFF < n && n < 0x110000)

/-- A character by its code. -/
def coded? (f : Flags) (letter : Char) (length : Nat) (cs : List Char) :
    Option (Atom × List Char) := do
  let (n, rest) ← hexDigits? f length 0 cs
  if isScalar n && !(f.octets && letter = 'x' && n ≥ 128) then
    pure (.character n, f.skip rest)
  else none

/-- The categories of characters, by their letters. -/
def isCategory (c : Char) : Bool := "CLMNPSZ".toList.contains c.toUpper

/-- What follows a backslash. -/
def escape? (f : Flags) : List Char → Option (Atom × List Char)
  | [] => none
  | c :: r =>
    match codeLength? c with
    | some n => coded? f c n r
    | none =>
      if c = 'p' ∨ c = 'P' then
        match f.skip r with
        | d :: r' => if isCategory d ∧ !f.octets then some (.several, f.skip r') else none
        | [] => none
      else if c ∈ ['d', 's', 'w'] then some (.several, r)
      else if c ∈ ['D', 'S', 'W'] then if f.octets then none else some (.several, r)
      else if isEscapable c then some (.character c.toNat, r)
      else if c ∈ ['A', 'z'] then some (.place, r)
      else if c ∈ ['b', 'B', '<', '>'] then if f.octets then some (.place, r) else none
      else (controls.lookup c).map fun n => (.character n, r)

/-! ## Classes -/

/-- The names that a class may have inside brackets and colons. -/
def classNames : List String :=
  ["alnum", "alpha", "ascii", "blank", "cntrl", "digit", "graph", "lower", "print", "punct",
    "space", "upper", "word", "xdigit"]

/-- A named class: whether it is negated, and what follows it. -/
def namedClass? (cs : List Char) : Option (Bool × List Char) := do
  let r ← Text.after? ['[', ':'] cs
  let negated := r.head? = some '^'
  let r := if negated then r.drop 1 else r
  let name := r.takeWhile (· ≠ ':')
  let rest ← Text.after? [':', ']'] (r.drop name.length)
  if String.ofList name ∈ classNames then pure (negated, rest) else none

/-- What stands at the start of a class: perhaps a caret, then hyphens that mean themselves, or a
closing bracket that does. -/
def openClass? (f : Flags) (cs : List Char) : Option (List Char) := do
  let cs ← f.skip? cs
  let isNegated := cs.head? = some '^'
  if isNegated ∧ f.octets then none
  let cs ← if isNegated then f.skip? (cs.drop 1) else some cs
  let rest ← f.skip? (dropHyphens f cs.length cs)
  if cs.head? ≠ some '-' ∧ rest.head? = some ']' then f.skip? (rest.drop 1) else some rest
where
  dropHyphens (f : Flags) : Nat → List Char → List Char
    | n + 1, '-' :: r => dropHyphens f n (f.skip r)
    | _, cs => cs

/-- One character of a class, or what stands for one. -/
def member? (f : Flags) : List Char → Option (Atom × List Char)
  | [] => none
  | '\\' :: r => escape? f r
  | c :: r => some (.character c.toNat, r)

/-- Octets beyond ASCII are parts of characters and cannot be told apart. -/
def isListed (f : Flags) : Atom → Bool
  | .character n => !f.octets || n < 128
  | .several => true
  | .place => false

/-- The sign behind a hyphen. -/
def behindHyphen (f : Flags) (cs : List Char) : Option Char :=
  if f.spaced then (cs.dropWhile fun c => Text.isBlank c || c = '#').head? else cs.head?

/-- A member of a class, or a range of them. -/
def range? (f : Flags) (cs : List Char) : Option (List Char) := do
  let (a, r) ← member? f cs
  let r ← f.skip? r
  if r.head? ≠ some '-' ∨ behindHyphen f (r.drop 1) ∈ [some ']', some '-'] then
    if isListed f a then pure r else none
  else
    let (b, r) ← member? f (← f.skip? (r.drop 1))
    match a, b with
    | .character m, .character n =>
      if m ≤ n ∧ isListed f a ∧ isListed f b then pure r else none
    | _, _ => none

/-- Whether a text begins with the sign of an operation on classes. -/
def isOperation : List Char → Bool
  | a :: b :: _ => a = b && ['&', '-', '~'].contains a
  | _ => false

/-- The rest of a class with so many open brackets around it, up to what follows the last. -/
def class? (f : Flags) : Nat → Nat → List Char → Option (List Char)
  | 0, _, _ => none
  | fuel + 1, depth, cs =>
    match f.skip cs with
    | [] => none
    | '[' :: r =>
      match namedClass? ('[' :: r) with
      | some (negated, r) => if negated ∧ f.octets then none else class? f fuel depth r
      | none => (openClass? f r).bind (class? f fuel (depth + 1))
    | ']' :: r => if depth = 0 then some r else class? f fuel (depth - 1) r
    | c :: r =>
      if isOperation (c :: r) then class? f fuel depth (r.drop 1)
      else (range? f (c :: r)).bind (class? f fuel depth)

/-! ## Groups -/

/-- Flags up to a colon or a closing bracket, which is left standing.  A flag may be given once,
and something has to follow the hyphen. -/
def flags? (given : List Char) : List Char → Option (List Char × List Char)
  | [] => none
  | c :: r =>
    if c = ':' ∨ c = ')' then
      if given.getLast? = some '-' then none else some (given, c :: r)
    else if "-imsUuRx".toList.contains c ∧ c ∉ given then flags? (given ++ [c]) r
    else none

/-- The name of a group, and what follows the angle bracket behind it. -/
def groupName? (cs : List Char) : Option (List Char × List Char) :=
  let name := cs.takeWhile (· ≠ '>')
  match name, cs.drop name.length with
  | c :: r, '>' :: rest =>
    if (c = '_' ∨ Text.isLetter c)
        ∧ r.all (fun d => ['_', '.', '[', ']'].contains d || Text.isLetterOrDigit d) then
      some (name, rest)
    else none
  | _, _ => none

/-- What has been read. -/
structure Reading where
  flags : Flags
  /-- The flags outside each open group, the innermost first. -/
  outside : List Flags
  names : List (List Char)
  /-- Whether there is something that a repetition can repeat. -/
  repeatable : Bool

def Reading.enter (s : Reading) (inside : Flags) : Reading :=
  ⟨inside, s.flags :: s.outside, s.names, false⟩

/-- What follows an opening bracket. -/
def openGroup? (s : Reading) (cs : List Char) : Option (Reading × List Char) :=
  let named (r : List Char) : Option (Reading × List Char) := do
    let (name, rest) ← groupName? r
    if name ∈ s.names then none
    pure ({ s.enter s.flags with names := name :: s.names }, rest)
  match s.flags.skip cs with
  | '?' :: 'P' :: '<' :: r => named r
  | '?' :: '<' :: r => named r
  | '?' :: r =>
    match flags? [] r with
    | some (given, ':' :: rest) => some (s.enter (s.flags.apply given), rest)
    | some (given, _ :: rest) =>
      if given = [] then none
      else some ({ s with flags := s.flags.apply given, repeatable := false }, rest)
    | _ => none
  | r => some (s.enter s.flags, r)

/-- The end of a group, which has the outer flags again. -/
def Reading.leave? (s : Reading) : Option Reading :=
  match s.outside with
  | f :: outside => some ⟨f, outside, s.names, true⟩
  | [] => none

/-! ## Expressions -/

/-- Reads on; every step takes a character at least. -/
def read? (fuel : Nat) (s : Reading) (cs : List Char) : Option Reading :=
  match fuel with
  | 0 => none
  | fuel + 1 =>
    let goOn (rest : List Char) : Option Reading := read? fuel { s with repeatable := true } rest
    match s.flags.skip cs with
    | [] => some s
    | '(' :: r => (openGroup? s r).bind fun (s, rest) => read? fuel s rest
    | ')' :: r => s.leave?.bind fun s => read? fuel s r
    | '|' :: r => read? fuel { s with repeatable := false } r
    | '[' :: r => ((openClass? s.flags r).bind (class? s.flags fuel 0)).bind goOn
    | '\\' :: r => (escape? s.flags r).bind fun (_, rest) => goOn rest
    | '.' :: r => if s.flags.octets then none else goOn r
    | '\x7b' :: _ => none
    | c :: r =>
      if c ∈ ['?', '*', '+'] then
        if s.repeatable then goOn (if r.head? = some '?' then r.drop 1 else r) else none
      else goOn r

/-- Whether a text is a regular expression. -/
def isWellFormed (cs : List Char) : Bool :=
  match read? (cs.length + 1) ⟨.initial, [], [], false⟩ cs with
  | some s => s.outside.isEmpty
  | none => false

end SearchGateway.Launch.Pattern
