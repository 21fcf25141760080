import SearchGateway.Json.Number

/-!
# Reading JSON

The strict grammar: blanks are space, tab, line feed and carriage return; no
comments, no trailing commas, no raw control characters in strings.

    Node.read         a text as a document as written
    Value.read        a text as a value, at most 127 levels deep

The two differ only where a document is well-formed and still means nothing: a
number beyond the range of doubles, half of a surrogate pair, or a nesting that is
too deep.  Reading a value fails there; reading a document leaves a gap, since
whoever skips that part never minds.
-/

namespace SearchGateway.Json

/-! ## Errors -/

inductive Fault
  | endInValue
  | endInArray
  | endInObject
  | endInString
  | expectedColon
  | expectedCommaOrBracket
  | expectedCommaOrBrace
  | expectedWord
  | expectedValue
  | invalidEscape
  | invalidNumber
  | numberOutOfRange
  | controlCharacter
  | keyNotText
  | loneSurrogate
  | brokenSurrogatePair
  | trailingComma
  | trailingCharacters
  | tooDeep
  deriving DecidableEq, Repr

def Fault.message : Fault → String
  | endInValue => "EOF while parsing a value"
  | endInArray => "EOF while parsing a list"
  | endInObject => "EOF while parsing an object"
  | endInString => "EOF while parsing a string"
  | expectedColon => "expected `:`"
  | expectedCommaOrBracket => "expected `,` or `]`"
  | expectedCommaOrBrace => "expected `,` or `\x7d`"
  | expectedWord => "expected ident"
  | expectedValue => "expected value"
  | invalidEscape => "invalid escape"
  | invalidNumber => "invalid number"
  | numberOutOfRange => "number out of range"
  | controlCharacter => "control character (\\u0000-\\u001F) found while parsing a string"
  | keyNotText => "key must be a string"
  | loneSurrogate => "lone leading surrogate in hex escape"
  | brokenSurrogatePair => "unexpected end of hex escape"
  | trailingComma => "trailing comma"
  | trailingCharacters => "trailing characters"
  | tooDeep => "recursion limit exceeded"

/-- Where reading stopped: what was left to read, and whether the next character had
been looked at. -/
structure Stop where
  fault : Fault
  rest : List Char
  looked : Bool
  deriving Repr

/-- A fault and its place; columns count octets. -/
structure ReadError where
  fault : Fault
  line : Nat
  column : Nat
  deriving DecidableEq, Repr

def ReadError.message (e : ReadError) : String :=
  e.fault.message ++ " at line " ++ toString e.line ++ " column " ++ toString e.column

/-- Line and column after some text. -/
def place (consumed : List Char) : Nat × Nat :=
  consumed.foldl (fun (line, column) c =>
    if c = '\n' then (line + 1, 0) else (line, column + c.utf8Size)) (1, 0)

def Stop.locate (text : List Char) (s : Stop) : ReadError :=
  let (line, column) := place (text.take (text.length - s.rest.length))
  match s.looked, s.rest with
  | true, '\n' :: _ => ⟨s.fault, line + 1, 0⟩
  | true, _ :: _ => ⟨s.fault, line, column + 1⟩
  | _, _ => ⟨s.fault, line, column⟩

/-! ## Algorithm -/

/-- A reading step ends with what was read and what is left, or where it stopped. -/
abbrev Reading := Except Stop

def stopAt {α : Type} (fault : Fault) (rest : List Char) : Reading α :=
  .error ⟨fault, rest, false⟩

def stopLooking {α : Type} (fault : Fault) (rest : List Char) : Reading α :=
  .error ⟨fault, rest, true⟩

def isSpace (c : Char) : Bool := c == ' ' || c == '\t' || c == '\n' || c == '\r'

def skipSpace (cs : List Char) : List Char := cs.dropWhile isSpace

/-- The rest of a word whose first letter is known. -/
def readWord (n : Node) : List Char → List Char → Reading (Node × List Char)
  | [], cs => .ok (n, cs)
  | _ :: _, [] => stopAt .endInValue []
  | w :: ws, c :: cs => if w = c then readWord n ws cs else stopAt .expectedWord cs

/-- Whether content that means nothing stops the reading. -/
inductive Mode
  | document
  | value
  deriving DecidableEq, Repr

/-- An exponent after its mark. -/
def readExponent (cs : List Char) : Reading ((Bool × List Char) × List Char) :=
  let (minus, cs) := match cs with
    | '+' :: r => (false, r)
    | '-' :: r => (true, r)
    | r => (false, r)
  match cs with
  | [] => stopAt .endInValue []
  | c :: r =>
    if c.isDigit then .ok ((minus, cs.takeWhile Char.isDigit), cs.dropWhile Char.isDigit)
    else stopAt .invalidNumber r

/-- A fraction after its point. -/
def readFraction (cs : List Char) : Reading ((List Char) × List Char) :=
  let ds := cs.takeWhile Char.isDigit
  let rest := cs.dropWhile Char.isDigit
  if ds = [] then
    if rest = [] then stopLooking .endInValue rest else stopLooking .invalidNumber rest
  else .ok (ds, rest)

/-- The whole part: a zero that no digit follows, or digits that do not start with one. -/
def readWhole : List Char → Reading ((List Char) × List Char)
  | [] => stopAt .endInValue []
  | '0' :: r =>
    match r with
    | [] => .ok (['0'], [])
    | c :: _ => if c.isDigit then stopLooking .invalidNumber r else .ok (['0'], r)
  | c :: r =>
    if c.isDigit then .ok (c :: r.takeWhile Char.isDigit, r.dropWhile Char.isDigit)
    else stopAt .invalidNumber r

/-- A number after its sign. -/
def readNumber (mode : Mode) (negative : Bool) (cs : List Char) : Reading (Node × List Char) := do
  let (whole, cs) ← readWhole cs
  let (fraction, cs) ← match cs with
    | '.' :: r => readFraction r
    | r => pure ([], r)
  let (exponent, cs) ← match cs with
    | c :: r =>
      if c = 'e' ∨ c = 'E' then do
        let (e, r) ← readExponent r
        pure (some e, r)
      else pure (none, c :: r)
    | [] => pure (none, [])
  match (Written.mk negative whole fraction exponent).value?, mode with
  | none, .value => stopAt .numberOutOfRange cs
  | n, _ => .ok (.number n, cs)

/-- Four hexadecimal digits. -/
def readHex : List Char → Reading (Nat × List Char)
  | a :: b :: c :: d :: r =>
    match hex? a, hex? b, hex? c, hex? d with
    | some a, some b, some c, some d => .ok (4096 * a + 256 * b + 16 * c + d, r)
    | _, _, _, _ => stopAt .invalidEscape r
  | _ => stopAt .endInString []
where
  hex? (c : Char) : Option Nat :=
    if c.isDigit then some (c.toNat - 48)
    else if 'a' ≤ c ∧ c ≤ 'f' then some (c.toNat - 87)
    else if 'A' ≤ c ∧ c ≤ 'F' then some (c.toNat - 55)
    else none

/-- What an escape stands for; none for half of a surrogate pair. -/
def readUnicode (mode : Mode) (cs : List Char) : Reading ((Option Char) × List Char) := do
  let (n, r) ← readHex cs
  let lone (fault : Fault) (left : List Char) : Reading ((Option Char) × List Char) :=
    if mode = .value then stopAt fault left else .ok (none, r)
  if 0xDC00 ≤ n ∧ n ≤ 0xDFFF then lone .loneSurrogate r
  else if n < 0xD800 ∨ 0xDBFF < n then .ok (some (Char.ofNat n), r)
  else match r with
    | '\\' :: 'u' :: low =>
      match readHex low with
      | .error e => if mode = .value then .error e else .ok (none, r)
      | .ok (m, later) =>
        if 0xDC00 ≤ m ∧ m ≤ 0xDFFF then
          .ok (some (Char.ofNat (0x10000 + (n - 0xD800) * 0x400 + (m - 0xDC00))), later)
        else lone .loneSurrogate later
    | _ => lone .brokenSurrogatePair (r.drop 1)

/-- An escape after its backslash. -/
def readEscape (mode : Mode) : List Char → Reading ((Option Char) × List Char)
  | [] => stopAt .endInString []
  | c :: r =>
    match c with
    | '"' => .ok (some '"', r)
    | '\\' => .ok (some '\\', r)
    | '/' => .ok (some '/', r)
    | 'b' => .ok (some '\x08', r)
    | 'f' => .ok (some '\x0c', r)
    | 'n' => .ok (some '\n', r)
    | 'r' => .ok (some '\r', r)
    | 't' => .ok (some '\t', r)
    | 'u' => readUnicode mode r
    | _ => stopAt .invalidEscape r

/-- A string after its opening quote.  The measure is the text itself. -/
def readText (mode : Mode) : Nat → List Char → Reading ((Option (List Char)) × List Char)
  | 0, cs => stopAt .endInString cs
  | _ + 1, [] => stopAt .endInString []
  | n + 1, c :: r =>
    if c = '"' then .ok (some [], r)
    else if c.toNat < 32 then stopAt .controlCharacter r
    else if c = '\\' then do
      let (e, r) ← readEscape mode r
      let (s, r) ← readText mode n r
      pure ((do return (← e) :: (← s)), r)
    else do
      let (s, r) ← readText mode n r
      pure (s.map (c :: ·), r)

def readString (mode : Mode) (cs : List Char) : Reading ((Option String) × List Char) := do
  let (s, r) ← readText mode (cs.length + 1) cs
  pure (s.map String.ofList, r)

/-- The colon between a name and its value. -/
def readColon (cs : List Char) : Reading (Unit × List Char) :=
  match skipSpace cs with
  | ':' :: r => .ok ((), r)
  | [] => stopLooking .endInObject []
  | r => stopLooking .expectedColon r

/-- What stands next in an array or an object: its end, or another item. -/
inductive Turn
  | done (rest : List Char)
  | more (start : List Char)

/-- After a bracket or an item: the end of the array or the start of an item. -/
def nextItem (first : Bool) (cs : List Char) : Reading Turn :=
  match skipSpace cs with
  | [] => stopLooking .endInArray []
  | c :: r =>
    if c = ']' then .ok (.done r)
    else if first then .ok (.more (c :: r))
    else if c = ',' then
      match skipSpace r with
      | [] => stopLooking .endInValue []
      | ']' :: r => stopLooking .trailingComma (']' :: r)
      | r => .ok (.more r)
    else stopLooking .expectedCommaOrBracket (c :: r)

/-- After a brace or a member: the end of the object or what follows the quote of a name. -/
def nextMember (first : Bool) (cs : List Char) : Reading Turn :=
  match skipSpace cs with
  | [] => stopLooking .endInObject []
  | c :: r =>
    if c = '\x7d' then .ok (.done r)
    else if first then name (c :: r)
    else if c = ',' then
      match skipSpace r with
      | [] => stopLooking .endInValue []
      | '\x7d' :: r => stopLooking .trailingComma ('\x7d' :: r)
      | r => name r
    else stopLooking .expectedCommaOrBrace (c :: r)
where
  name : List Char → Reading Turn
    | '"' :: r => .ok (.more r)
    | r => stopLooking .keyNotText r

/-- The name of a member and the colon after it. -/
def readName (mode : Mode) (cs : List Char) : Reading (Option String × List Char) := do
  let (k, r) ← readString mode cs
  let ((), r) ← readColon r
  pure (k, r)

mutual

/-- A value.  `room` is how many levels may still open; the first argument after it
is at least the number of steps that the text allows. -/
def readNode (mode : Mode) (room : Nat) : Nat → List Char → Reading (Node × List Char)
  | 0, cs => stopLooking .endInValue cs
  | n + 1, cs =>
    match skipSpace cs with
    | [] => stopLooking .endInValue []
    | c :: r =>
      if c = 'n' then readWord .null "ull".toList r
      else if c = 't' then readWord (.bool true) "rue".toList r
      else if c = 'f' then readWord (.bool false) "alse".toList r
      else if c = '-' then readNumber mode true r
      else if c.isDigit then readNumber mode false (c :: r)
      else if c = '"' then (readString mode r).map fun (s, r) => (.text s, r)
      else if c = '[' ∨ c = '\x7b' then
        if mode = .value ∧ room = 0 then stopLooking .tooDeep (c :: r)
        else if c = '[' then
          (readItems mode (room - 1) n true r).map fun (xs, r) => (.array xs, r)
        else (readMembers mode (room - 1) n true r).map fun (ms, r) => (.object ms, r)
      else stopLooking .expectedValue (c :: r)

/-- The items of an array, after its bracket or after an item. -/
def readItems (mode : Mode) (room : Nat) :
    Nat → Bool → List Char → Reading (List Node × List Char)
  | 0, _, cs => stopLooking .endInArray cs
  | n + 1, first, cs =>
    match nextItem first cs with
    | .error e => .error e
    | .ok (.done r) => .ok ([], r)
    | .ok (.more r) =>
      match readNode mode room n r with
      | .error e => .error e
      | .ok (x, r) => (readItems mode room n false r).map fun (xs, r) => (x :: xs, r)

/-- The members of an object, after its brace or after a member. -/
def readMembers (mode : Mode) (room : Nat) :
    Nat → Bool → List Char → Reading (List (Option String × Node) × List Char)
  | 0, _, cs => stopLooking .endInObject cs
  | n + 1, first, cs =>
    match nextMember first cs with
    | .error e => .error e
    | .ok (.done r) => .ok ([], r)
    | .ok (.more r) =>
      match readName mode r with
      | .error e => .error e
      | .ok (k, r) =>
        match readNode mode room n r with
        | .error e => .error e
        | .ok (x, r) => (readMembers mode room n false r).map fun (ms, r) => ((k, x) :: ms, r)

end

/-- How many arrays and objects may be open at once. -/
def maxDepth : Nat := 127

/-- A whole text. -/
def readAll (mode : Mode) (cs : List Char) : Reading Node := do
  let (x, r) ← readNode mode maxDepth (cs.length + 1) cs
  match skipSpace r with
  | [] => pure x
  | r => stopLooking .trailingCharacters r

/-- A text as a document as written. -/
def Node.read (text : String) : Except ReadError Node :=
  (readAll .document text.toList).mapError (·.locate text.toList)

/-- A text as a value. -/
def Value.read (text : String) : Except ReadError Value :=
  match readAll .value text.toList with
  | .error e => .error (e.locate text.toList)
  | .ok x =>
    match Value.ofNode? maxDepth x with
    | some v => .ok v
    | none => .error ⟨.tooDeep, 1, 0⟩

end SearchGateway.Json
