import SearchGateway.Text.Utf8

/-!
# Percent-encoding

An octet that a format does not let stand for itself is written as a percent sign
and two upper-case hexadecimal digits.  Reading takes either case; a percent sign
that two digits do not follow stands for itself.

    encode            the octets of a text, those outside `keep` escaped
    decode            the octets that escapes stand for
-/

namespace SearchGateway.Text.Percent

/-! ## Algorithm -/

def hexDigit (n : Nat) : Char := Char.ofNat (if n < 10 then 48 + n else 55 + n)

def hexValue? (b : UInt8) : Option Nat :=
  let n := b.toNat
  if 48 ≤ n ∧ n ≤ 57 then some (n - 48)
  else if 65 ≤ n ∧ n ≤ 70 then some (n - 55)
  else if 97 ≤ n ∧ n ≤ 102 then some (n - 87)
  else none

def escape (b : UInt8) : List Char := ['%', hexDigit (b.toNat / 16), hexDigit (b.toNat % 16)]

/-- The octets of a text; those that `keep` admits stand for themselves. -/
def encode (keep : UInt8 → Bool) (cs : List Char) : List Char :=
  (Utf8.encode cs).flatMap fun b => if keep b then [Char.ofNat b.toNat] else escape b

def decode : List UInt8 → List UInt8
  | [] => []
  | [b] => [b]
  | [b, c] => [b, c]
  | b :: h :: l :: r =>
    if b = 37 then
      match hexValue? h, hexValue? l with
      | some x, some y => UInt8.ofNat (16 * x + y) :: decode r
      | _, _ => b :: decode (h :: l :: r)
    else b :: decode (h :: l :: r)

/-- A text with its escapes resolved; ill-formed octets become replacement characters. -/
def decodeText (cs : List Char) : List Char := Utf8.decodeLossy (decode (Utf8.encode cs))

end SearchGateway.Text.Percent
