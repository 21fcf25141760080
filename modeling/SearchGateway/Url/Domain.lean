import SearchGateway.Text.Utf8
import SearchGateway.Url.Accents
import SearchGateway.Url.Direction
import SearchGateway.Url.Joining
import SearchGateway.Url.Letters
import SearchGateway.Url.Punycode

/-!
# Domain names

A domain name as it is looked up: small ASCII letters, with labels of other characters
written in punycode.

    Domain.Label.read?   one label, as it is shown and as it is looked up
    Domain.toAscii?      the name to look up, none if there is no such name
-/

namespace SearchGateway.Url.Domain

/-! ## Algorithm -/

/-- ASCII characters that no name can hold. -/
def isForbidden (c : Char) : Bool :=
  c.toNat < 33 || c.toNat == 127 || "%#/:<>?@[\\]^|".toList.contains c

/-- A name with every character mapped and composed. -/
def mapped? (cs : List Char) : Option (List Char) :=
  (cs.mapM Letters.map?).map fun parts => Letters.composed parts.flatten

/-! ### Labels -/

/-- A label as it is shown, and as it is looked up. -/
structure Label where
  shown : List Char
  ascii : List Char
  deriving DecidableEq, Repr

namespace Label

/-- What stands before a label in punycode. -/
def punycodeMark : List Char := "xn--".toList

/-- The longest label in punycode that is read. -/
def codeLimit : Nat := 2000

/-- The longest label that is written in punycode. -/
def shownLimit : Nat := 1000

def isAscii (label : List Char) : Bool := label.all Punycode.isAscii

/-- Whether a label beyond ASCII can be shown: it does not begin with a mark, and its joiners
fit. -/
def isShowable (label : List Char) : Bool :=
  !(label.head?.map Letters.isMark).getD false && Joining.isFit label
    && label.length ≤ shownLimit

/-- A label in punycode stands for one that is not in ASCII and that mapping leaves as it is. -/
def ofCode? (code : List Char) : Option Label := do
  if code.length > codeLimit then none
  let shown ← Punycode.decode? code
  if !isAscii shown && mapped? shown == some shown && !shown.contains '.'
      && Punycode.encode shown == code && isShowable shown then
    pure ⟨shown, punycodeMark ++ code⟩
  else none

def read? (label : List Char) : Option Label :=
  match Text.after? punycodeMark label with
  | some code => ofCode? code
  | none =>
    if isAscii label then some ⟨label, label⟩
    else if isShowable label then some ⟨label, punycodeMark ++ Punycode.encode label⟩
    else none

end Label

/-! ### Names -/

/-- Labels with dots between them. -/
def joinDots : List (List Char) → List Char
  | [] => []
  | [l] => l
  | l :: m :: r => l ++ '.' :: joinDots (m :: r)

/-- If anything in a name is written from right to left, each label keeps to one direction. -/
def isOrdered (labels : List Label) : Bool :=
  !labels.any (Direction.isTwoWay ·.shown) || labels.all (Direction.isUnambiguous ·.shown)

/-- The name to look up. -/
def toAscii? (octets : List UInt8) : Option String := do
  let cs ← mapped? (← Text.Utf8.decode? octets)
  if cs.any isForbidden then none
  let labels ← (Text.pieces (· == '.') cs).mapM Label.read?
  if isOrdered labels then pure (String.ofList (joinDots (labels.map (·.ascii)))) else none

end SearchGateway.Url.Domain
