import SearchGateway.Json.Node
import SearchGateway.Number.Layout

/-!
# Printing JSON

The compact form: no blanks, members in order, and in strings only what must be
escaped is.

    Value.print      a value as text
-/

namespace SearchGateway.Json

/-! ## Algorithm -/

/-- Doubles are positional from `10^-5` as far as `10^15`, keep their point, and carry
the sign of an exponent; what is not a number, or infinite, is null. -/
def numberLayout : Number.Layout where
  positional e := -5 ≤ e && e ≤ 15
  whole := ".0"
  plusSign := true
  nan := "null"
  infinity := "null"
  negativeInfinity := "null"
  tie := .toEven

def lowerHex (n : Nat) : Char := Char.ofNat (if n < 10 then 48 + n else 87 + n)

/-- A character inside quotes. -/
def escapeChar (c : Char) : List Char :=
  if c = '"' then ['\\', '"']
  else if c = '\\' then ['\\', '\\']
  else if c = '\x08' then ['\\', 'b']
  else if c = '\x0c' then ['\\', 'f']
  else if c = '\n' then ['\\', 'n']
  else if c = '\r' then ['\\', 'r']
  else if c = '\t' then ['\\', 't']
  else if c.toNat < 32 then ['\\', 'u', '0', '0', lowerHex (c.toNat / 16), lowerHex (c.toNat % 16)]
  else [c]

def printText (s : String) : String :=
  String.ofList ('"' :: (s.toList.flatMap escapeChar ++ ['"']))

def Number.print : Number → String
  | .int i => toString i
  | .float x => numberLayout.write x

/-- Texts joined by commas. -/
def joinComma : List String → String
  | [] => ""
  | [s] => s
  | s :: r => s ++ "," ++ joinComma r

mutual

def Value.print : Value → String
  | .null => "null"
  | .bool true => "true"
  | .bool false => "false"
  | .number n => n.print
  | .text s => printText s
  | .array items => "[" ++ joinComma (printItems items) ++ "]"
  | .object members => "\x7b" ++ joinComma (printMembers members) ++ "\x7d"

def Value.printItems : List Value → List String
  | [] => []
  | v :: r => v.print :: printItems r

def Value.printMembers : List (String × Value) → List String
  | [] => []
  | (k, v) :: r => (printText k ++ ":" ++ v.print) :: printMembers r

end

end SearchGateway.Json
