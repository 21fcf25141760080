/-!
# UTF-8

Writing characters as octets and reading octets that may be ill-formed.

    encode            the octets of a text
    scan              octets read as characters, `none` for each maximal ill-formed part
    decodeLossy       a replacement character for each ill-formed part
    decode?           well-formed octets only
    dropMark          a text without the mark before it
    truncate?         the octets within a limit, cut between two characters

A part is ill-formed as soon as an octet cannot continue it; that octet is then
looked at anew, so a truncated sequence never swallows what follows it.

To cut octets one steps back from the limit until a character ends there.  Two things may go wrong
on the way: nothing may be found down to the first octet, and a cut may be asked for within a
character.
-/

namespace SearchGateway.Text.Utf8

/-! ## Algorithm -/

def encode (cs : List Char) : List UInt8 := cs.flatMap String.utf8EncodeChar

/-- A sequence under way: its value so far, how many octets it still needs, and the
range in which the next one lies. -/
structure Pending where
  value : Nat
  left : Nat
  low : UInt8
  high : UInt8

/-- What an octet opens: a character, a longer sequence, or nothing. -/
inductive Opening
  | char (c : Char)
  | sequence (p : Pending)
  | nothing

/-- The second octet's range keeps out overlong forms, surrogates and values beyond
the last code point. -/
def opening (b : UInt8) : Opening :=
  if b < 0x80 then .char (Char.ofNat b.toNat)
  else if b < 0xC2 then .nothing
  else if b < 0xE0 then .sequence ⟨b.toNat - 0xC0, 1, 0x80, 0xBF⟩
  else if b < 0xF0 then
    .sequence ⟨b.toNat - 0xE0, 2, if b = 0xE0 then 0xA0 else 0x80, if b = 0xED then 0x9F else 0xBF⟩
  else if b < 0xF5 then
    .sequence ⟨b.toNat - 0xF0, 3, if b = 0xF0 then 0x90 else 0x80, if b = 0xF4 then 0x8F else 0xBF⟩
  else .nothing

/-- Octets as characters, with `none` for each maximal ill-formed part. -/
def scanFrom : Option Pending → List UInt8 → List (Option Char)
  | none, [] => []
  | some _, [] => [none]
  | none, b :: r => start b (fun p => scanFrom p r)
  | some p, b :: r =>
    if p.low ≤ b ∧ b ≤ p.high then
      let value := p.value * 64 + (b.toNat - 0x80)
      if p.left ≤ 1 then some (Char.ofNat value) :: scanFrom none r
      else scanFrom (some ⟨value, p.left - 1, 0x80, 0xBF⟩) r
    else none :: start b (fun p => scanFrom p r)
where
  start (b : UInt8) (goOn : Option Pending → List (Option Char)) : List (Option Char) :=
    match opening b with
    | .char c => some c :: goOn none
    | .sequence p => goOn (some p)
    | .nothing => none :: goOn none

def scan (bs : List UInt8) : List (Option Char) := scanFrom none bs

/-- A replacement character for each ill-formed part. -/
def decodeLossy (bs : List UInt8) : List Char := (scan bs).map (·.getD '\uFFFD')

/-- The text that well-formed octets spell. -/
def decode? (bs : List UInt8) : Option (List Char) := (scan bs).mapM id

/-- A text without the byte order mark that may stand before it. -/
def dropMark : List Char → List Char
  | '\uFEFF' :: r => r
  | cs => cs

/-! ### Cutting -/

/-- Whether an octet goes on with a character that an earlier one began. -/
def isContinuation (b : UInt8) : Bool := 0x80 ≤ b && b < 0xC0

/-- Whether octets can be cut at an index: at either end, or before an octet that begins a
character. -/
def isBoundary (bs : List UInt8) (i : Nat) : Bool :=
  i == 0 || match bs[i]? with
    | some b => !isContinuation b
    | none => i == bs.length

/-- The first boundary on the way back from an index, if there is one before the way ends. -/
def boundaryBack? (bs : List UInt8) : Nat → Option Nat
  | 0 => if isBoundary bs 0 then some 0 else none
  | i + 1 => if isBoundary bs (i + 1) then some (i + 1) else boundaryBack? bs i

/-- The octets before a boundary; elsewhere octets cannot be cut. -/
def before? (bs : List UInt8) (i : Nat) : Option (List UInt8) :=
  if isBoundary bs i then some (bs.take i) else none

/-- Octets, cut at the first boundary back from a limit if there are more of them. -/
def truncate? (limit : Nat) (bs : List UInt8) : Option (List UInt8) :=
  if bs.length ≤ limit then some bs else (boundaryBack? bs limit).bind (before? bs)

/-! ## Lemmas -/

@[simp] theorem encode_nil : encode [] = [] := rfl

@[simp] theorem encode_cons (c : Char) (cs : List Char) :
    encode (c :: cs) = String.utf8EncodeChar c ++ encode cs := by
  simp [encode]

@[simp] theorem encode_append (a b : List Char) : encode (a ++ b) = encode a ++ encode b := by
  simp [encode]

/-- The way back ends at the last boundary, at the latest before the first octet. -/
theorem exists_boundaryBack? (bs : List UInt8) (n : Nat) :
    ∃ i, boundaryBack? bs n = some i ∧ i ≤ n ∧ isBoundary bs i = true ∧
      ∀ j, j ≤ n → isBoundary bs j = true → j ≤ i := by
  induction n with
  | zero => exact ⟨0, rfl, Nat.le_refl 0, rfl, fun j hj _ => hj⟩
  | succ n ih =>
    rw [boundaryBack?]
    split
    · next h => exact ⟨n + 1, rfl, Nat.le_refl _, h, fun j hj _ => hj⟩
    · next h =>
      obtain ⟨i, hi, hle, hboundary, hlast⟩ := ih
      refine ⟨i, hi, Nat.le_succ_of_le hle, hboundary, fun j hj hj' => ?_⟩
      rcases Nat.le_succ_iff.mp hj with hj | rfl
      · exact hlast j hj hj'
      · exact absurd hj' h

/-- So octets can always be cut. -/
theorem isSome_truncate? (limit : Nat) (bs : List UInt8) : (truncate? limit bs).isSome = true := by
  unfold truncate?
  split
  · rfl
  · obtain ⟨i, hi, -, hboundary, -⟩ := exists_boundaryBack? bs limit
    rw [hi, Option.bind_some, before?, if_pos hboundary]
    rfl

end SearchGateway.Text.Utf8
