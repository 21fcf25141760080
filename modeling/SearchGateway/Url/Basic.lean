import SearchGateway.Text.Percent
import SearchGateway.Url.Address

/-!
# URLs

A URL in its parts, and the one text of it.

    Url.text         the URL written down
    Url.plainText    the same without user and password
    Url.push         one more path segment
    Url.addQuery     more query pairs
-/

namespace SearchGateway

namespace Url

inductive Host
  | domain (name : String)
  | v4 (address : V4)
  | v6 (address : V6)
  deriving DecidableEq, Repr

structure Authority where
  username : String
  password : Option String
  /-- Only a URL that is not of the web can do without. -/
  host : Option Host
  /-- A port other than the scheme's own. -/
  port : Option Nat
  deriving DecidableEq, Repr

inductive Path
  /-- A text without structure, as in `mailto:`. -/
  | rootless (text : String)
  /-- What stands between slashes, each segment with a slash before it. -/
  | segments (names : List String)
  deriving DecidableEq, Repr

/-- The schemes of the web, which have a host and treat backslashes as slashes. -/
inductive Family
  | web
  | file
  | other
  deriving DecidableEq, Repr

def family (scheme : String) : Family :=
  if scheme ∈ ["http", "https", "ws", "wss", "ftp"] then .web
  else if scheme = "file" then .file
  else .other

/-- The port that goes without saying. -/
def defaultPort? (scheme : String) : Option Nat :=
  if scheme ∈ ["http", "ws"] then some 80
  else if scheme ∈ ["https", "wss"] then some 443
  else if scheme = "ftp" then some 21
  else none

/-! ## Escapes -/

def isControl (b : UInt8) : Bool := b < 32 || b ≥ 127

def isOneOf (chars : String) (b : UInt8) : Bool := chars.toList.any fun c => c.toNat == b.toNat

/-- What a fragment lets stand. -/
def keepsInFragment (b : UInt8) : Bool := !isControl b && !isOneOf " \"<>`" b

/-- What a path lets stand. -/
def keepsInPath (b : UInt8) : Bool := keepsInFragment b && !isOneOf "#?\x7b\x7d" b

/-- What a user name or a password lets stand. -/
def keepsInUser (b : UInt8) : Bool := keepsInPath b && !isOneOf "/:;=@[\\]^|" b

/-- What a single segment lets stand. -/
def keepsInSegment (special : Bool) (b : UInt8) : Bool :=
  keepsInPath b && !isOneOf "/%" b && !(special && b == 92)

/-- What a query lets stand. -/
def keepsInQuery (special : Bool) (b : UInt8) : Bool :=
  !isControl b && !isOneOf " \"#<>" b && !(special && b == 39)

def escape (keep : UInt8 → Bool) (cs : List Char) : String :=
  String.ofList (Text.Percent.encode keep cs)

end Url

structure Url where
  scheme : String
  authority : Option Url.Authority
  path : Url.Path
  query : Option String
  fragment : Option String
  deriving DecidableEq, Repr

namespace Url

/-! ## Writing -/

def Host.text : Host → String
  | domain name => name
  | v4 a => a.write
  | v6 a => "[" ++ a.write ++ "]"

def Authority.server (a : Authority) : String :=
  (a.host.map Host.text).getD "" ++ (a.port.map fun p => ":" ++ toString p).getD ""

def Authority.hasUser (a : Authority) : Bool := a.username ≠ "" || a.password.isSome

def Authority.text (a : Authority) : String :=
  let user := a.username ++ (a.password.map (":" ++ ·)).getD ""
  (if a.hasUser then user ++ "@" else "") ++ a.server

def Path.text : Path → String
  | rootless t => t
  | segments names => String.join (names.map ("/" ++ ·))

/-- Without an authority a path must not begin as one would. -/
def Path.guarded : Path → String
  | segments ("" :: n :: r) => "/." ++ (segments ("" :: n :: r)).text
  | p => p.text

def part (mark : String) (t : Option String) : String := (t.map (mark ++ ·)).getD ""

def text (u : Url) : String :=
  let body := match u.authority with
    | some a => "//" ++ a.text ++ u.path.text
    | none => u.path.guarded
  u.scheme ++ ":" ++ body ++ part "?" u.query ++ part "#" u.fragment

/-- The URL without user and password, as messages show it. -/
def plainText (u : Url) : String :=
  let bare (a : Authority) : Authority := { a with username := "", password := none }
  { u with authority := u.authority.map bare }.text

/-! ## Changing -/

def isRootless (u : Url) : Bool := match u.path with
  | .rootless _ => true
  | .segments _ => false

def isSpecial (u : Url) : Bool := family u.scheme ≠ .other

/-- The path without an empty segment at its end; a lone one stays. -/
def dropEmptyEnd (names : List String) : List String :=
  if names.length > 1 ∧ names.getLast? = some "" then names.dropLast else names

/-- A path with one more segment; an empty path is filled. -/
def append (names : List String) (name : String) : List String :=
  if names = [""] then [name] else names ++ [name]

/-- A path without its last segment, which leaves an empty one. -/
def up (names : List String) : List String := names.dropLast ++ [""]

/-- One more segment.  A dot adds nothing; tabs and line ends are dropped, and if only
dots are left then, they lead as they would in a path. -/
def extend (special : Bool) (names : List String) (segment : String) : List String :=
  if segment = "." ∨ segment = ".." then names
  else
    let name := segment.toList.filter fun c => c ≠ '\t' ∧ c ≠ '\n' ∧ c ≠ '\r'
    if name = ['.', '.'] then up (if names = [""] then [] else names)
    else if name = ['.'] then append names ""
    else append names (escape (keepsInSegment special) name)

/-- One more segment below a path; an empty segment at its end gives way. -/
def push (u : Url) (segment : String) : Url :=
  match u.path with
  | .rootless _ => u
  | .segments names =>
    { u with path := .segments (extend u.isSpecial (dropEmptyEnd names) segment) }

/-- More pairs after those of the query; there is a query then, be it empty. -/
def addQuery (u : Url) (pairs : List Char) : Url :=
  let old := u.query.getD ""
  let joint := if old ≠ "" ∧ pairs ≠ [] then "&" else ""
  { u with query := some (old ++ joint ++ String.ofList pairs) }

end Url

end SearchGateway
