/-!
# Quoted TOML strings

Four kinds of strings: basic and literal ones on one line, and both over several lines.
A reader takes what follows the opening quotes and gives the characters with the rest.
Control characters are refused, a tab apart; in several lines a line ending is kept as it
is written.
-/

namespace SearchGateway.Toml

/-! ## Algorithm -/

/-- A character that may stand in a string or a comment. -/
def isPlain (c : Char) : Bool := c == '\t' || (32 ≤ c.toNat && c.toNat ≠ 127)

def hexDigit? (c : Char) : Option Nat :=
  if c.isDigit then some (c.toNat - 48)
  else if 'a' ≤ c ∧ c ≤ 'f' then some (c.toNat - 87)
  else if 'A' ≤ c ∧ c ≤ 'F' then some (c.toNat - 55)
  else none

/-- The character of a hexadecimal code. -/
def codePoint? (ds : List Char) : Option Char := do
  let n ← ds.foldlM (fun n c => (hexDigit? c).map (16 * n + ·)) 0
  if n.isValidChar then some (Char.ofNat n) else none

/-- What a one-letter escape stands for. -/
def letterEscape? (c : Char) : Option Char :=
  match c with
  | 'b' => some '\x08'
  | 't' => some '\t'
  | 'n' => some '\n'
  | 'f' => some '\x0c'
  | 'r' => some '\r'
  | 'e' => some '\x1b'
  | '"' => some '"'
  | '\\' => some '\\'
  | _ => none

/-- Puts a character in front of what was read. -/
def push (c : Option Char) (rest : Option (List Char × List Char)) :
    Option (List Char × List Char) := do
  let c ← c
  let (cs, r) ← rest
  pure (c :: cs, r)

/-- A basic string on one line. -/
def readBasic : List Char → Option (List Char × List Char)
  | [] => none
  | '"' :: r => some ([], r)
  | '\\' :: 'u' :: a :: b :: c :: d :: r => push (codePoint? [a, b, c, d]) (readBasic r)
  | '\\' :: 'U' :: a :: b :: c :: d :: e :: f :: g :: h :: r =>
    push (codePoint? [a, b, c, d, e, f, g, h]) (readBasic r)
  | '\\' :: 'x' :: a :: b :: r => push (codePoint? [a, b]) (readBasic r)
  | '\\' :: c :: r => push (letterEscape? c) (readBasic r)
  | c :: r => push (if isPlain c then some c else none) (readBasic r)

/-- A literal string on one line. -/
def readLiteral : List Char → Option (List Char × List Char)
  | [] => none
  | '\'' :: r => some ([], r)
  | c :: r => push (if isPlain c then some c else none) (readLiteral r)

def isSpace (c : Char) : Bool := c == ' ' || c == '\t'

/-- Whether only spaces stand before the end of the line. -/
def restIsBlank (cs : List Char) : Bool :=
  match cs.dropWhile isSpace with
  | '\n' :: _ => true
  | '\r' :: '\n' :: _ => true
  | _ => false

/-- A basic string over several lines.  After a backslash at the end of a line
(`skipping`) blanks and line endings are dropped. -/
def readBasicLines (skipping : Bool) : List Char → Option (List Char × List Char)
  | [] => none
  | '"' :: '"' :: '"' :: '"' :: '"' :: r => some (['"', '"'], r)
  | '"' :: '"' :: '"' :: '"' :: r => some (['"'], r)
  | '"' :: '"' :: '"' :: r => some ([], r)
  | '\r' :: '\n' :: r =>
    if skipping then readBasicLines true r
    else push (some '\r') (push (some '\n') (readBasicLines false r))
  | '\n' :: r =>
    if skipping then readBasicLines true r else push (some '\n') (readBasicLines false r)
  | '\\' :: 'u' :: a :: b :: c :: d :: r =>
    push (codePoint? [a, b, c, d]) (readBasicLines false r)
  | '\\' :: 'U' :: a :: b :: c :: d :: e :: f :: g :: h :: r =>
    push (codePoint? [a, b, c, d, e, f, g, h]) (readBasicLines false r)
  | '\\' :: 'x' :: a :: b :: r => push (codePoint? [a, b]) (readBasicLines false r)
  | '\\' :: c :: r =>
    if restIsBlank (c :: r) then readBasicLines true (c :: r)
    else push (letterEscape? c) (readBasicLines false r)
  | c :: r =>
    if skipping && isSpace c then readBasicLines true r
    else push (if isPlain c then some c else none) (readBasicLines false r)

/-- A literal string over several lines. -/
def readLiteralLines : List Char → Option (List Char × List Char)
  | [] => none
  | '\'' :: '\'' :: '\'' :: '\'' :: '\'' :: r => some (['\'', '\''], r)
  | '\'' :: '\'' :: '\'' :: '\'' :: r => some (['\''], r)
  | '\'' :: '\'' :: '\'' :: r => some ([], r)
  | '\r' :: '\n' :: r => push (some '\r') (push (some '\n') (readLiteralLines r))
  | '\n' :: r => push (some '\n') (readLiteralLines r)
  | c :: r => push (if isPlain c then some c else none) (readLiteralLines r)

/-- A line ending right after the opening quotes does not count. -/
def skipFirstNewline : List Char → List Char
  | '\n' :: r => r
  | '\r' :: '\n' :: r => r
  | cs => cs

/-- A quoted string, with its rest; none if the text does not start with a quote. -/
def readQuoted : List Char → Option (String × List Char)
  | '"' :: '"' :: '"' :: r => text (readBasicLines false (skipFirstNewline r))
  | '\'' :: '\'' :: '\'' :: r => text (readLiteralLines (skipFirstNewline r))
  | '"' :: r => text (readBasic r)
  | '\'' :: r => text (readLiteral r)
  | _ => none
where
  text (o : Option (List Char × List Char)) : Option (String × List Char) :=
    o.map fun (cs, r) => (String.ofList cs, r)

/-- A quoted name: a string on one line. -/
def readQuotedName : List Char → Option (String × List Char)
  | '"' :: r => (readBasic r).map fun (cs, r) => (String.ofList cs, r)
  | '\'' :: r => (readLiteral r).map fun (cs, r) => (String.ofList cs, r)
  | _ => none

end SearchGateway.Toml
