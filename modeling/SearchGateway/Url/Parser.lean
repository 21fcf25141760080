import SearchGateway.Url.Basic
import SearchGateway.Url.Domain

/-!
# Reading URLs

A text is read the way the web reads it: blanks around it and line ends in it are dropped,
a web URL may be written with any number of slashes or backslashes, dots in a path are
resolved, and whatever a part does not let stand is escaped.

    Url.parse        a text as a URL
    Url.resolve      a text as a URL, relative to another one
-/

namespace SearchGateway.Url

inductive ParseError
  | relative
  | relativeToRootless
  | emptyHost
  | invalidPort
  | invalidV4
  | invalidV6
  | invalidDomain
  | invalidHostCharacter
  deriving DecidableEq, Repr

def ParseError.message : ParseError → String
  | relative => "relative URL without a base"
  | relativeToRootless => "relative URL with a cannot-be-a-base base"
  | emptyHost => "empty host"
  | invalidPort => "invalid port number"
  | invalidV4 => "invalid IPv4 address"
  | invalidV6 => "invalid IPv6 address"
  | invalidDomain => "invalid international domain name"
  | invalidHostCharacter => "invalid domain character"

abbrev Parsing := Except ParseError

/-! ## Hosts -/

/-- What no host can hold, whatever its kind. -/
def isForbiddenInHost (c : Char) : Bool :=
  "\x00\t\n\r #/:<>?@[\\]^|".toList.contains c

/-- An address of eight groups in brackets. -/
def readBracketed (cs : List Char) : Parsing Host :=
  match cs.reverse with
  | ']' :: r =>
    match V6.read r.reverse with
    | some a => .ok (.v6 a)
    | none => .error .invalidV6
  | _ => .error .invalidV6

/-- A host that is looked up: an address or a domain name. -/
def readDomain (cs : List Char) : Parsing Host :=
  match Domain.toAscii? (Text.Percent.decode (Text.Utf8.encode cs)) with
  | none => .error .invalidDomain
  | some name =>
    if name = "" then .error .emptyHost
    else if V4.endsInNumber name.toList then
      match V4.readLoose name.toList with
      | some a => .ok (.v4 a)
      | none => .error .invalidV4
    else .ok (.domain name)

/-- A host of a URL that is not of the web: any text. -/
def readName (cs : List Char) : Parsing Host :=
  if cs.any isForbiddenInHost then .error .invalidHostCharacter
  else .ok (.domain (escape (fun b => !isControl b) cs))

/-- A host in brackets, or one of the other kinds. -/
def readHost (other : List Char → Parsing Host) : List Char → Parsing Host
  | '[' :: r => readBracketed r
  | cs => other cs

/-! ## Authorities -/

/-- Splits at the last at sign. -/
def splitUser (cs : List Char) : Option (List Char) × List Char :=
  if cs.contains '@' then
    let after := (cs.reverse.takeWhile (· ≠ '@')).reverse
    (some (cs.take (cs.length - after.length - 1)), after)
  else (none, cs)

/-- The host as far as the colon outside brackets. -/
def splitHost (inside : Bool) : List Char → List Char × List Char
  | [] => ([], [])
  | c :: r =>
    if c = ':' ∧ !inside then ([], c :: r)
    else
      let (host, rest) := splitHost (c = '[' || (inside && c ≠ ']')) r
      (c :: host, rest)

/-- The port after a host.  What follows a backslash belongs to the path. -/
def readPort (scheme : String) (cs : List Char) : Parsing (Option Nat × List Char) :=
  let digits := cs.takeWhile Char.isDigit
  let rest := cs.dropWhile Char.isDigit
  let port := Number.digitsValue digits
  if port > 65535 then .error .invalidPort
  else if rest ≠ [] ∧ rest.head? ≠ some '\\' then .error .invalidPort
  else .ok (if digits = [] ∨ some port = defaultPort? scheme then none else some port, rest)

/-- User name and password. -/
def readUser (cs : List Char) : String × Option String :=
  let password := (cs.dropWhile (· ≠ ':')).drop 1
  (escape keepsInUser (cs.takeWhile (· ≠ ':')),
    if password = [] then none else some (escape keepsInUser password))

/-- An authority, and what a backslash after the port leaves for the path.  `ends` tells
whether nothing at all follows the authority. -/
def readAuthority (scheme : String) (ends : Bool) (cs : List Char) :
    Parsing (Authority × List Char) := do
  let web := family scheme = .web
  let (user, server) := splitUser cs
  if user = some [] ∧ server = [] ∧ !ends then throw .emptyHost
  let (username, password) := readUser (user.getD [])
  let (hostText, rest) := splitHost false server
  if hostText = [] then
    if web ∨ rest ≠ [] ∨ username ≠ "" ∨ password.isSome then throw .emptyHost
    return (⟨"", none, none, none⟩, [])
  let host ← readHost (if web then readDomain else readName) hostText
  let (port, rest) ← readPort scheme (rest.drop 1)
  return (⟨username, password, some host, port⟩, rest)

/-! ## Paths -/

/-- The spellings of one dot and of two. -/
def isDot (cs : List Char) : Bool :=
  String.ofList (cs.map Char.toLower) ∈ [".", "%2e"]

def isDoubleDot (cs : List Char) : Bool :=
  String.ofList (cs.map Char.toLower) ∈ ["..", "%2e.", ".%2e", "%2e%2e"]

/-- A drive, such as `C:`. -/
def isDrive (marks : List Char) : List Char → Bool
  | [letter, mark] => letter.isAlpha && marks.contains mark
  | _ => false

/-- One segment back; a drive stays, wherever it stands. -/
def goBack (names : List String) : List String :=
  if (names.getLast?.map fun n => isDrive [':', '|'] n.toList).getD false then names
  else names.dropLast

/-- Removes the last segment, but not a drive at the start of a file's path. -/
def shorten (file : Bool) (names : List String) : List String :=
  match names with
  | [n] => if file ∧ isDrive [':'] n.toList then names else []
  | _ => names.dropLast

/-- One segment, escaped; a drive gets its colon. -/
def readSegment (file : Bool) (before : List String) (piece : List Char) : String :=
  match file, before, piece with
  | true, [], [letter, '|'] =>
    if letter.isAlpha then String.ofList [letter, ':'] else escape keepsInPath piece
  | _, _, _ => escape keepsInPath piece

/-- Segments after those that are there already, with the dots resolved. -/
def walk (file : Bool) (names : List String) : List (List Char) → List String
  | [] => names
  | [p] =>
    if isDoubleDot p then goBack names ++ [""]
    else if isDot p then names ++ [""]
    else names ++ [readSegment file names p]
  | p :: q :: r =>
    walk file
      (if isDoubleDot p then goBack names
        else if isDot p then names
        else names ++ [readSegment file names p])
      (q :: r)

/-- In the path of a file, empty segments at the start go. -/
def trimFile : List String → List String
  | "" :: n :: r => trimFile (n :: r)
  | names => names

def startsWithDrive : Path → Bool
  | .segments (n :: _) => isDrive [':'] n.toList
  | _ => false

def separates (special : Bool) (c : Char) : Bool := c == '/' || (special && c == '\\')

/-- The path after those segments. -/
def readPath (kind : Family) (names : List String) (cs : List Char) : Path :=
  let names := walk (kind = .file) names (Text.pieces (separates (kind ≠ .other)) cs)
  .segments (if kind = .file then trimFile names else names)

/-- A path behind an authority or a base, with or without its slash. -/
def readRooted (kind : Family) (cs : List Char) : Path :=
  match cs with
  | [] => if kind = .other then .segments [] else readPath kind [] []
  | c :: r => if separates (kind ≠ .other) c then readPath kind [] r else readPath kind [] (c :: r)

/-! ## Parts -/

/-- A text before its query and fragment, and those two. -/
structure Parts where
  body : List Char
  query : Option (List Char)
  fragment : Option (List Char)

def Parts.split (cs : List Char) : Parts :=
  let before := cs.takeWhile (· ≠ '#')
  let fragment := match cs.dropWhile (· ≠ '#') with
    | _ :: r => some r
    | [] => none
  let query := match before.dropWhile (· ≠ '?') with
    | _ :: r => some r
    | [] => none
  ⟨before.takeWhile (· ≠ '?'), query, fragment⟩

/-- A URL whose query and fragment are those of a text. -/
def Parts.finish (p : Parts) (scheme : String) (authority : Option Authority) (path : Path) : Url :=
  ⟨scheme, authority, path, p.query.map (escape (keepsInQuery (family scheme ≠ .other))),
    p.fragment.map (escape keepsInFragment)⟩

/-- The text without what is dropped everywhere. -/
def tidy (s : String) : List Char :=
  let isEdge (c : Char) : Bool := c.toNat ≤ 32
  let cs := ((s.toList.dropWhile isEdge).reverse.dropWhile isEdge).reverse
  cs.filter fun c => c ≠ '\t' ∧ c ≠ '\n' ∧ c ≠ '\r'

/-- A scheme in small letters, and what follows its colon. -/
def readScheme (cs : List Char) : Option (String × List Char) :=
  let isPart (c : Char) : Bool := c.isAlphanum || c == '+' || c == '-' || c == '.'
  match cs.dropWhile isPart with
  | ':' :: r =>
    let scheme := cs.takeWhile isPart
    if (scheme.head?.map Char.isAlpha).getD false then
      some (String.ofList (scheme.map Char.toLower), r)
    else none
  | _ => none

/-- What follows two slashes. -/
def readAfterSlashes (scheme : String) (p : Parts) (cs : List Char) : Parsing Url := do
  let kind := family scheme
  let authority := cs.takeWhile fun c => !separates (kind ≠ .other) c
  let path := cs.dropWhile fun c => !separates (kind ≠ .other) c
  let ends := path = [] ∧ p.query.isNone ∧ p.fragment.isNone
  let (a, rest) ← readAuthority scheme ends authority
  pure (p.finish scheme (some a) (readRooted kind (rest ++ path)))

/-- A file's URL: perhaps a host between two slashes and the next one, and a path. -/
def readFile (p : Parts) : Parsing Url :=
  let special := separates true
  match p.body with
  | a :: b :: r =>
    if special a && special b then
      let host := r.takeWhile fun c => !special c
      let path := r.dropWhile fun c => !special c
      if isDrive [':', '|'] host then
        .ok (p.finish "file" (some ⟨"", none, none, none⟩) (readRooted .file ('/' :: r)))
      else do
        let host ← if host = [] then pure none else (readHost readDomain host).map some
        let path := readRooted .file path
        let isLocal := host = some (.domain "localhost") || startsWithDrive path
        pure (p.finish "file" (some ⟨"", none, if isLocal then none else host, none⟩) path)
    else .ok (p.finish "file" (some ⟨"", none, none, none⟩) (readRooted .file p.body))
  | body => .ok (p.finish "file" (some ⟨"", none, none, none⟩) (readRooted .file body))

/-- A text with a scheme. -/
def readAbsolute (scheme : String) (cs : List Char) : Parsing Url :=
  let p := Parts.split cs
  match family scheme with
  | .web => readAfterSlashes scheme p (p.body.dropWhile (separates true))
  | .file => readFile p
  | .other =>
    match p.body with
    | '/' :: '/' :: r => readAfterSlashes scheme p r
    | '/' :: r => .ok (p.finish scheme none (readPath .other [] r))
    | body => .ok (p.finish scheme none (.rootless (escape (fun b => !isControl b) body)))

/-- A text as a URL. -/
def parse (s : String) : Parsing Url :=
  match readScheme (tidy s) with
  | some (scheme, r) => readAbsolute scheme r
  | none => .error .relative

/-! ## Relative to another URL -/

/-- A text without a scheme, seen from a URL with a path. -/
def readRelative (base : Url) (names : List String) (cs : List Char) : Parsing Url :=
  let kind := family base.scheme
  let p := Parts.split cs
  let isSlash := separates (kind ≠ .other)
  match p.body with
  | [] =>
    let u := p.finish base.scheme base.authority base.path
    .ok (if p.query.isNone then { u with query := base.query } else u)
  | a :: r =>
    if isSlash a then
      match r with
      | b :: r' =>
        if isSlash b then
          if kind = .file then readFile p
          else readAfterSlashes base.scheme p
            (if kind = .web then r'.dropWhile isSlash else r')
        else .ok (p.finish base.scheme base.authority (readPath kind [] r))
      | [] => .ok (p.finish base.scheme base.authority (readPath kind [] []))
    else
      let path := readPath kind (shorten (kind = .file) names) p.body
      .ok (p.finish base.scheme base.authority path)

/-- A text as a URL, relative to another one. -/
def resolve (base : Url) (s : String) : Parsing Url :=
  let cs := tidy s
  let relative (cs : List Char) : Parsing Url :=
    match base.path with
    | .segments names => readRelative base names cs
    | .rootless _ => .error .relativeToRootless
  match readScheme cs with
  | some (scheme, r) =>
    if scheme = base.scheme ∧ family scheme ≠ .other ∧
        ((Parts.split r).body.takeWhile (separates true)).length < 2 then relative r
    else readAbsolute scheme r
  | none =>
    match cs, base.path with
    | '#' :: r, _ => .ok { base with fragment := some (escape keepsInFragment r) }
    | _, _ => relative cs

end SearchGateway.Url
