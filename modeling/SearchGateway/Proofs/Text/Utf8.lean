import Mathlib.Tactic.IntervalCases
import SearchGateway.Text.Utf8

/-!
# Reading what was written as octets

The octets of a text are read as that text, whatever comes after it.

    opening_two, opening_three, opening_four    what the first octet of a sequence opens
    scanFrom_more, scanFrom_last                one octet more of a sequence
    decodeLossy (encode cs) = cs                                     (decodeLossy_encode)
-/

namespace SearchGateway.Text.Utf8

/-! ## Lemmas -/

/-! ### First octets -/

theorem opening_two {n : Nat} (h : 2 ≤ n) (h' : n < 32) :
    opening (UInt8.ofNat (n + 192)) = .sequence ⟨n, 1, 0x80, 0xBF⟩ := by
  interval_cases n <;> rfl

theorem opening_three {n : Nat} (h : n < 16) :
    opening (UInt8.ofNat (n + 224)) =
      .sequence ⟨n, 2, if n = 0 then 0xA0 else 0x80, if n = 13 then 0x9F else 0xBF⟩ := by
  interval_cases n <;> rfl

theorem opening_four {n : Nat} (h : n < 5) :
    opening (UInt8.ofNat (n + 240)) =
      .sequence ⟨n, 3, if n = 0 then 0x90 else 0x80, if n = 4 then 0x8F else 0xBF⟩ := by
  interval_cases n <;> rfl

theorem scanFrom_ascii {n : Nat} (h : n < 128) (r : List UInt8) :
    scanFrom none (UInt8.ofNat n :: r) = some (Char.ofNat n) :: scanFrom none r := by
  have ho : opening (UInt8.ofNat n) = .char (Char.ofNat n) := by
    have hn : (UInt8.ofNat n).toNat = n := by simp; omega
    have hlt : UInt8.ofNat n < 0x80 := by rw [UInt8.lt_iff_toNat_lt, hn]; exact h
    unfold opening
    rw [if_pos hlt, hn]
  rw [scanFrom, scanFrom.start, ho]

theorem scanFrom_sequence {b : UInt8} {p : Pending} (h : opening b = .sequence p)
    (r : List UInt8) : scanFrom none (b :: r) = scanFrom (some p) r := by
  rw [scanFrom, scanFrom.start, h]

/-! ### The octets that follow -/

/-- What an octet in the range of a sequence makes of it. -/
theorem scanFrom_octet {p : Pending} {n : Nat} (hn : n < 64) (hlow : p.low.toNat ≤ n + 128)
    (hhigh : n + 128 ≤ p.high.toNat) (r : List UInt8) :
    scanFrom (some p) (UInt8.ofNat (n + 128) :: r) =
      if p.left ≤ 1 then some (Char.ofNat (p.value * 64 + n)) :: scanFrom none r
      else scanFrom (some ⟨p.value * 64 + n, p.left - 1, 0x80, 0xBF⟩) r := by
  have hb : (UInt8.ofNat (n + 128)).toNat = n + 128 := by simp; omega
  have hrange : p.low ≤ UInt8.ofNat (n + 128) ∧ UInt8.ofNat (n + 128) ≤ p.high := by
    rw [UInt8.le_iff_toNat_le, UInt8.le_iff_toNat_le, hb]
    exact ⟨hlow, hhigh⟩
  rw [scanFrom, if_pos hrange, hb, Nat.add_sub_cancel]

/-- An octet that is not the last of a sequence. -/
theorem scanFrom_more {value left n : Nat} {low high : UInt8} (hn : n < 64)
    (hlow : low.toNat ≤ n + 128) (hhigh : n + 128 ≤ high.toNat) (r : List UInt8) :
    scanFrom (some ⟨value, left + 2, low, high⟩) (UInt8.ofNat (n + 128) :: r) =
      scanFrom (some ⟨value * 64 + n, left + 1, 0x80, 0xBF⟩) r := by
  rw [scanFrom_octet hn hlow hhigh, if_neg (show ¬ left + 2 ≤ 1 by omega)]
  rfl

/-- The last octet of a sequence. -/
theorem scanFrom_last {value n : Nat} (hn : n < 64) (r : List UInt8) :
    scanFrom (some ⟨value, 1, 0x80, 0xBF⟩) (UInt8.ofNat (n + 128) :: r) =
      some (Char.ofNat (value * 64 + n)) :: scanFrom none r := by
  have hhigh : n + 128 ≤ (0xBF : UInt8).toNat := show n + 128 ≤ 191 by omega
  rw [scanFrom_octet hn (Nat.le_add_left _ _) hhigh, if_pos (Nat.le_refl 1)]

/-! ### Characters -/

theorem scanFrom_two {v : Nat} (h : 127 < v) (h' : v ≤ 2047) (r : List UInt8) :
    scanFrom none (UInt8.ofNat (v / 64 % 32 + 192) :: UInt8.ofNat (v % 64 + 128) :: r) =
      some (Char.ofNat v) :: scanFrom none r := by
  have hv : v / 64 % 32 * 64 + v % 64 = v := by omega
  rw [scanFrom_sequence (opening_two (by omega) (by omega)), scanFrom_last (by omega), hv]

/-- The range of the second octet keeps out overlong forms and surrogates. -/
theorem scanFrom_three {v : Nat} (h : 2047 < v) (h' : v ≤ 65535) (hs : v < 0xD800 ∨ 0xDFFF < v)
    (r : List UInt8) :
    scanFrom none (UInt8.ofNat (v / 4096 % 16 + 224) :: UInt8.ofNat (v / 64 % 64 + 128) ::
      UInt8.ofNat (v % 64 + 128) :: r) = some (Char.ofNat v) :: scanFrom none r := by
  have hlow : (if v / 4096 % 16 = 0 then (0xA0 : UInt8) else 0x80).toNat ≤ v / 64 % 64 + 128 := by
    split
    · show 160 ≤ _
      omega
    · exact Nat.le_add_left _ _
  have hhigh : v / 64 % 64 + 128 ≤ (if v / 4096 % 16 = 13 then (0x9F : UInt8) else 0xBF).toNat := by
    split
    · show _ ≤ 159
      omega
    · show _ ≤ 191
      omega
  have hv : (v / 4096 % 16 * 64 + v / 64 % 64) * 64 + v % 64 = v := by omega
  rw [scanFrom_sequence (opening_three (by omega)), scanFrom_more (by omega) hlow hhigh,
    scanFrom_last (by omega), hv]

/-- Here it keeps out overlong forms and what is beyond the last code point. -/
theorem scanFrom_four {v : Nat} (h : 65535 < v) (h' : v < 0x110000) (r : List UInt8) :
    scanFrom none (UInt8.ofNat (v / 262144 % 8 + 240) :: UInt8.ofNat (v / 4096 % 64 + 128) ::
      UInt8.ofNat (v / 64 % 64 + 128) :: UInt8.ofNat (v % 64 + 128) :: r) =
      some (Char.ofNat v) :: scanFrom none r := by
  have hlow : (if v / 262144 % 8 = 0 then (0x90 : UInt8) else 0x80).toNat ≤
      v / 4096 % 64 + 128 := by
    split
    · show 144 ≤ _
      omega
    · exact Nat.le_add_left _ _
  have hhigh : v / 4096 % 64 + 128 ≤
      (if v / 262144 % 8 = 4 then (0x8F : UInt8) else 0xBF).toNat := by
    split
    · show _ ≤ 143
      omega
    · show _ ≤ 191
      omega
  have hv : ((v / 262144 % 8 * 64 + v / 4096 % 64) * 64 + v / 64 % 64) * 64 + v % 64 = v := by
    omega
  rw [scanFrom_sequence (opening_four (by omega)), scanFrom_more (by omega) hlow hhigh,
    scanFrom_more (by omega) (Nat.le_add_left _ _) (show _ ≤ 191 by omega),
    scanFrom_last (by omega), hv]

/-- The octets of a character, by how many there are. -/
theorem utf8EncodeChar_eq (c : Char) : String.utf8EncodeChar c =
    if c.toNat ≤ 127 then [UInt8.ofNat c.toNat]
    else if c.toNat ≤ 2047 then
      [UInt8.ofNat (c.toNat / 64 % 32 + 192), UInt8.ofNat (c.toNat % 64 + 128)]
    else if c.toNat ≤ 65535 then
      [UInt8.ofNat (c.toNat / 4096 % 16 + 224), UInt8.ofNat (c.toNat / 64 % 64 + 128),
        UInt8.ofNat (c.toNat % 64 + 128)]
    else
      [UInt8.ofNat (c.toNat / 262144 % 8 + 240), UInt8.ofNat (c.toNat / 4096 % 64 + 128),
        UInt8.ofNat (c.toNat / 64 % 64 + 128), UInt8.ofNat (c.toNat % 64 + 128)] := rfl

/-- The octets of a character are read as that character, and then reading starts anew. -/
theorem scanFrom_utf8EncodeChar (c : Char) (r : List UInt8) :
    scanFrom none (String.utf8EncodeChar c ++ r) = some c :: scanFrom none r := by
  have hv : c.toNat < 0xD800 ∨ (0xDFFF < c.toNat ∧ c.toNat < 0x110000) := c.valid
  have hc : Char.ofNat c.toNat = c := Char.ofNat_toNat c
  rw [utf8EncodeChar_eq]
  conv => rhs; rw [← hc]
  split
  · next h1 => exact scanFrom_ascii (by omega) r
  · next h1 =>
    split
    · next h2 => exact scanFrom_two (by omega) h2 r
    · next h2 =>
      split
      · next h3 => exact scanFrom_three (by omega) h3 (by omega) r
      · next h3 => exact scanFrom_four (by omega) (by omega) r

theorem scan_encode (cs : List Char) : scan (encode cs) = cs.map some := by
  unfold scan
  induction cs with
  | nil => rfl
  | cons c r ih => rw [encode_cons, scanFrom_utf8EncodeChar, ih, List.map_cons]

/-- **What was written is read.** -/
theorem decodeLossy_encode (cs : List Char) : decodeLossy (encode cs) = cs := by
  rw [decodeLossy, scan_encode, List.map_map]
  exact List.map_id cs

end SearchGateway.Text.Utf8
