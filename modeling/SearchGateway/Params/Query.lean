import SearchGateway.Params.Basic
import SearchGateway.Text.Blank
import SearchGateway.Text.Percent

/-!
# Query strings

The form encoding of parameters: pieces between ampersands, in each the name as
far as the first equals sign and the value after it, a plus sign for a space and
percent escapes for everything else that is special.

    Query.parse       a query string as parameters
    Query.print       parameters as a query string

Reading is total: empty pieces are skipped, a malformed escape stands for itself
and ill-formed octets become replacement characters.
-/

namespace SearchGateway.Query

/-! ## Algorithm -/

/-- A name or a value as its octets: a plus sign is a space, then escapes are resolved. -/
def readComponent (cs : List Char) : String :=
  String.ofList (Text.Percent.decodeText (cs.map fun c => if c = '+' then ' ' else c))

/-- Splits a piece at its first equals sign. -/
def readPair (piece : List Char) : String × String :=
  (readComponent (piece.takeWhile (· ≠ '=')), readComponent ((piece.dropWhile (· ≠ '=')).drop 1))

/-- The pairs of a query string, in order. -/
def readPairs (query : List Char) : List (String × String) :=
  ((Text.pieces (· == '&') query).filter (· ≠ [])).map readPair

/-- A query string as parameters; a repeated name gathers its values. -/
def parse (query : String) : Params := Params.ofPairs (readPairs query.toList)

/-- Letters, digits and `* - . _` stand for themselves. -/
def keeps (b : UInt8) : Bool :=
  let n := b.toNat
  (48 ≤ n && n ≤ 57) || (65 ≤ n && n ≤ 90) || (97 ≤ n && n ≤ 122)
    || n == 42 || n == 45 || n == 46 || n == 95

/-- One octet of a name or a value. -/
def writeOctet (b : UInt8) : List Char :=
  if keeps b then [Char.ofNat b.toNat] else if b = 32 then ['+'] else Text.Percent.escape b

def writeComponent (s : String) : List Char := (Text.Utf8.encode s.toList).flatMap writeOctet

def writePair (p : String × String) : List Char :=
  writeComponent p.1 ++ '=' :: writeComponent p.2

/-- Pairs joined by ampersands. -/
def writePairs : List (String × String) → List Char
  | [] => []
  | [p] => writePair p
  | p :: q :: r => writePair p ++ '&' :: writePairs (q :: r)

/-- Parameters as a query string, one pair for each value. -/
def print (m : Params) : String := String.ofList (writePairs m.pairs)

end SearchGateway.Query
