import SearchGateway.Number.Shortest

/-!
# How a float is laid out as text

The digits of a float are always the shortest that read back; what differs from
one text to the next is where positional notation ends, whether a whole number
keeps a `.0`, and how an exponent and the special values are spelled.  A `Layout`
holds those decisions, one value for each kind of text.

    Layout.write     the text of a float in a layout
-/

namespace SearchGateway.Number

/-! ## Algorithm -/

/-- The decisions that shape the text of a float. -/
structure Layout where
  /-- Whether a leading digit of this decimal exponent is written without an exponent. -/
  positional : Int → Bool
  /-- What follows a whole number written without an exponent. -/
  whole : String
  /-- Whether a positive exponent carries a plus sign. -/
  plusSign : Bool
  nan : String
  infinity : String
  negativeInfinity : String
  tie : Tie

/-- The decimal digits of `n`, most significant first. -/
def digits (n : Nat) : List Char := Nat.toDigits 10 n

/-- `d · 10^k` without trailing zeros in `d`. -/
def Decimal.trim (d : Decimal) : Decimal :=
  go (Nat.log2 d.digits + 1) d
where
  go : Nat → Decimal → Decimal
    | 0, d => d
    | n + 1, d =>
      if d.digits ≠ 0 ∧ d.digits % 10 = 0 then go n ⟨d.digits / 10, d.exponent + 1⟩ else d

/-- Positional notation: zeros on either side of the digits as far as the point. -/
def Layout.positionalText (l : Layout) (ds : List Char) (k : Int) : List Char :=
  if 0 ≤ k then ds ++ List.replicate k.toNat '0' ++ l.whole.toList
  else
    let places := (-k).toNat
    if ds.length ≤ places then
      '0' :: '.' :: (List.replicate (places - ds.length) '0' ++ ds)
    else
      ds.take (ds.length - places) ++ '.' :: ds.drop (ds.length - places)

/-- One digit, the point if more follow, the rest, and the exponent. -/
def Layout.scientificText (l : Layout) (ds : List Char) (lead : Int) : List Char :=
  let mantissa := match ds with
    | [] => []
    | [d] => [d]
    | d :: r => d :: '.' :: r
  let sign := if lead < 0 then ['-'] else if l.plusSign then ['+'] else []
  mantissa ++ 'e' :: (sign ++ digits lead.natAbs)

/-- The text of a positive finite magnitude. -/
def Layout.magnitude (l : Layout) (b : Binary) : List Char :=
  let d := (b.shortest l.tie).trim
  let ds := digits d.digits
  let lead := d.exponent + ds.length - 1
  if l.positional lead then l.positionalText ds d.exponent else l.scientificText ds lead

/-- The text of a float. -/
def Layout.write (l : Layout) (x : Float) : String :=
  let bits := x.toBits
  let negative := bits.toNat ≥ 0x8000000000000000
  let b := Binary.ofBits bits
  if biasedOf bits = 0x7FF then
    if fractionOf bits ≠ 0 then l.nan
    else if negative then l.negativeInfinity else l.infinity
  else
    let body := if b.mantissa = 0 then '0' :: l.whole.toList else l.magnitude b
    String.ofList (if negative then '-' :: body else body)

/-- The text of a float inside a message: positional always, a whole number bare. -/
def Layout.plain : Layout where
  positional _ := true
  whole := ""
  plusSign := false
  nan := "NaN"
  infinity := "inf"
  negativeInfinity := "-inf"
  tie := .up

end SearchGateway.Number
