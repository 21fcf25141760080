import SearchGateway.Text.Utf8
import SearchGateway.Toml.Quoted
import SearchGateway.Toml.Scalar
import SearchGateway.Toml.Table

/-!
# Reading TOML

A document is a sequence of lines: a header, or a dotted name with its value, or nothing,
each with an optional comment.

    Table.read       the entries of a document, none if it is not well-formed
-/

namespace SearchGateway.Toml

/-! ## Blanks and names -/

def skipSpace (cs : List Char) : List Char := cs.dropWhile isSpace

/-- A comment as far as the end of its line. -/
def skipComment : List Char → Option (List Char)
  | '#' :: r =>
    let rest := r.dropWhile isPlain
    match rest with
    | [] => some []
    | '\n' :: _ => some rest
    | '\r' :: '\n' :: _ => some rest
    | _ => none
  | cs => some cs

/-- Blanks, comments and line endings. -/
def skipLines : Nat → List Char → Option (List Char)
  | 0, cs => some cs
  | n + 1, cs =>
    match skipSpace cs with
    | '\n' :: r => skipLines n r
    | '\r' :: '\n' :: r => skipLines n r
    | '#' :: r => (skipComment ('#' :: r)).bind (skipLines n)
    | r => some r

def isBareName (c : Char) : Bool := c.isAlphanum || c == '_' || c == '-'

/-- One name: bare or quoted. -/
def readName : List Char → Option (String × List Char)
  | '"' :: r => readQuotedName ('"' :: r)
  | '\'' :: r => readQuotedName ('\'' :: r)
  | cs =>
    let name := cs.takeWhile isBareName
    if name = [] then none else some (String.ofList name, cs.dropWhile isBareName)

/-- How deep values may lie in one another, and how many names a dotted name may have. -/
def depthLimit : Nat := 80

/-- At most so many names with dots between them; the blanks around the dots and at the end
are skipped. -/
def readNames : Nat → List Char → Option (List String × List Char)
  | 0, _ => none
  | n + 1, cs => do
    let (name, r) ← readName (skipSpace cs)
    match skipSpace r with
    | '.' :: r => do
      let (path, r) ← readNames n r
      pure (name :: path, r)
    | r => pure ([name], r)

/-- A dotted name. -/
def readPath (cs : List Char) : Option (List String × List Char) := readNames depthLimit cs

/-! ## Values -/

/-- A character of a bare value. -/
def isBareValue (c : Char) : Bool :=
  c.isAlphanum || c == '_' || c == '-' || c == '+' || c == '.' || c == ':'

/-- A bare value; a date and a time may have a space between them. -/
def readBareValue (cs : List Char) : Option (Value × List Char) := do
  let word := cs.takeWhile isBareValue
  let rest := cs.dropWhile isBareValue
  match rest with
  | ' ' :: c :: r =>
    if c.isDigit ∧ (date? word).any (·.2 = []) then
      let time := (c :: r).takeWhile isBareValue
      let v ← readBare? (word ++ ' ' :: time)
      pure (v, (c :: r).dropWhile isBareValue)
    else pure (← readBare? word, rest)
  | rest => pure (← readBare? word, rest)

mutual

/-- A value that holds others only so deep; the first argument is at least the number of
steps that the text allows. -/
def readValue : Nat → (depth : Nat) → List Char → Option (Value × List Char)
  | 0, _, _ => none
  | n + 1, depth, cs =>
    match cs with
    | '[' :: r =>
      if depth = 0 then none
      else (readItems n (depth - 1) r).map fun (vs, r) => (.array vs, r)
    | '\x7b' :: r =>
      if depth = 0 then none
      else (readFields n (depth - 1) true [] r).map fun (d, r) =>
        (.table (Draft.finishEntries d), r)
    | '"' :: r => (readQuoted ('"' :: r)).map fun (s, r) => (.text s, r)
    | '\'' :: r => (readQuoted ('\'' :: r)).map fun (s, r) => (.text s, r)
    | cs => readBareValue cs

/-- The items of an array, after its bracket or a comma. -/
def readItems : Nat → (depth : Nat) → List Char → Option (List Value × List Char)
  | 0, _, _ => none
  | n + 1, depth, cs =>
    match skipLines (cs.length + 1) cs with
    | none => none
    | some (']' :: r) => some ([], r)
    | some r =>
      match readValue n depth r with
      | none => none
      | some (v, r) =>
        match skipLines (r.length + 1) r with
        | some (',' :: r) => (readItems n depth r).map fun (vs, r) => (v :: vs, r)
        | some (']' :: r) => some ([v], r)
        | _ => none

/-- The entries of an inline table, after its brace or a comma. -/
def readFields : Nat → (depth : Nat) → Bool → Draft.Drafts → List Char →
    Option (Draft.Drafts × List Char)
  | 0, _, _, _, _ => none
  | n + 1, depth, first, done, cs =>
    match skipLines (cs.length + 1) cs with
    | none => none
    | some ('\x7d' :: r) => some (done, r)
    | some (',' :: r) => if first then none else readField n depth done r
    | some r => if first then readField n depth done r else none

/-- One entry of an inline table and what follows it; its parts may stand on lines of their
own. -/
def readField : Nat → (depth : Nat) → Draft.Drafts → List Char →
    Option (Draft.Drafts × List Char)
  | 0, _, _, _ => none
  | n + 1, depth, done, cs =>
    match skipLines (cs.length + 1) cs with
    | none => none
    | some ('\x7d' :: r) => some (done, r)
    | some r =>
      match readPath r with
      | none => none
      | some (path, r) =>
        match skipLines (r.length + 1) r with
        | some ('=' :: r) =>
          match (skipLines (r.length + 1) r).bind (readValue n depth) with
          | none => none
          | some (v, r) =>
            match Draft.assign path v done with
            | none => none
            | some done => readFields n depth false done r
        | _ => none

end

/-! ## Lines -/

/-- A document under way, and the header under which names are assigned. -/
structure Progress where
  entries : Draft.Drafts
  path : List String

/-- Assigns a name in the table under the current header. -/
def Progress.assign (p : Progress) (path : List String) (v : Value) : Option Progress := do
  let entries ← Draft.descend false (Draft.assign path v) p.path p.entries
  pure { p with entries }

/-- What stands after a header or a value: blanks, a comment, the end of the line. -/
def endLine (cs : List Char) : Option (List Char) := do
  match ← skipComment (skipSpace cs) with
  | [] => some []
  | '\n' :: r => some r
  | '\r' :: '\n' :: r => some r
  | _ => none

/-- One line that is not blank. -/
def readLine (p : Progress) (cs : List Char) : Option (Progress × List Char) :=
  match cs with
  | '[' :: '[' :: r => do
    match ← readPath r with
    | (path, ']' :: ']' :: r) =>
      let entries ← Draft.openItem path p.entries
      pure (⟨entries, path⟩, ← endLine r)
    | _ => none
  | '[' :: r => do
    match ← readPath r with
    | (path, ']' :: r) =>
      let entries ← Draft.openTable path p.entries
      pure (⟨entries, path⟩, ← endLine r)
    | _ => none
  | cs => do
    match ← readPath cs with
    | (path, '=' :: r) =>
      let r := skipSpace r
      let (v, r) ← readValue (2 * r.length + 2) depthLimit r
      pure (← p.assign path v, ← endLine r)
    | _ => none

def readLines : Nat → Progress → List Char → Option Progress
  | 0, p, _ => some p
  | n + 1, p, cs => do
    match ← skipLines (cs.length + 1) cs with
    | [] => some p
    | r => do
      let (p, r) ← readLine p r
      readLines n p r

/-- The entries of a document; a byte order mark in front of it does not count. -/
def Table.read (text : String) : Option (List (String × Value)) :=
  let cs := Text.Utf8.dropMark text.toList
  (readLines (cs.length + 1) ⟨[], []⟩ cs).map fun p => Draft.finishEntries p.entries

end SearchGateway.Toml
