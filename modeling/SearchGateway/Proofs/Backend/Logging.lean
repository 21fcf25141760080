import SearchGateway.Backend.Client
import SearchGateway.Proofs.Text.Utf8

/-!
# What the log keeps of a query

A query is cut to a number of octets, at a boundary that is found on the way back from there.  The
octets of a text have a boundary where a character ends and nowhere else.  So a cut never fails,
nor does it go through a character, and what it leaves is as long as it can be.

    isBoundary_encode_iff    the boundaries of a text are the ends of its starts
    truncate?_encode         octets of a text are cut to octets of a start of it
    truncate_longest         a cut text is the longest start within the limit
-/

namespace SearchGateway.Text.Utf8

/-! ## Lemmas -/

/-! ### Octets of a character -/

theorem isContinuation_ofNat {n : Nat} (h : n < 256) :
    isContinuation (UInt8.ofNat n) = true ↔ 128 ≤ n ∧ n < 192 := by
  have hn : (UInt8.ofNat n).toNat = n := by simp; omega
  unfold isContinuation
  rw [Bool.and_eq_true, decide_eq_true_iff, decide_eq_true_iff, UInt8.le_iff_toNat_le,
    UInt8.lt_iff_toNat_lt, hn]
  rfl

theorem isContinuation_tail {n : Nat} (h : n < 64) :
    isContinuation (UInt8.ofNat (n + 128)) = true :=
  (isContinuation_ofNat (by omega)).mpr (by omega)

theorem isContinuation_lead {n : Nat} (h : n < 128 ∨ 192 ≤ n ∧ n < 256) :
    isContinuation (UInt8.ofNat n) = false :=
  Bool.eq_false_iff.mpr fun hc => by
    have hrange := (isContinuation_ofNat (by omega)).mp hc
    omega

/-- The first octet of a character begins it, and the others go on with it. -/
theorem exists_octets (c : Char) : ∃ b r, String.utf8EncodeChar c = b :: r ∧
    isContinuation b = false ∧ ∀ d ∈ r, isContinuation d = true := by
  have hv : c.toNat < 0x110000 := by
    have hvalid : c.toNat < 0xD800 ∨ (0xDFFF < c.toNat ∧ c.toNat < 0x110000) := c.valid
    omega
  have htail : ∀ n, isContinuation (UInt8.ofNat (n % 64 + 128)) = true :=
    fun n => isContinuation_tail (Nat.mod_lt n (by omega))
  rw [utf8EncodeChar_eq]
  split
  · exact ⟨_, _, rfl, isContinuation_lead (by omega), by simp⟩
  · split
    · exact ⟨_, _, rfl, isContinuation_lead (by omega), List.forall_mem_singleton.mpr (htail _)⟩
    · split
      · exact ⟨_, _, rfl, isContinuation_lead (by omega), List.forall_mem_cons.mpr ⟨htail _,
          List.forall_mem_singleton.mpr (htail _)⟩⟩
      · exact ⟨_, _, rfl, isContinuation_lead (by omega), List.forall_mem_cons.mpr ⟨htail _,
          List.forall_mem_cons.mpr ⟨htail _, List.forall_mem_singleton.mpr (htail _)⟩⟩⟩

/-! ### Boundaries -/

theorem isBoundary_iff {bs : List UInt8} {i : Nat} : isBoundary bs i = true ↔
    i = 0 ∨ i = bs.length ∨ ∃ b, bs[i]? = some b ∧ isContinuation b = false := by
  unfold isBoundary
  rw [Bool.or_eq_true, beq_iff_eq]
  cases hb : bs[i]? with
  | none => simp
  | some b =>
    have hlt : i < bs.length := (List.getElem?_eq_some_iff.mp hb).1
    have hne : i ≠ bs.length := by omega
    simp [hne]

/-- Within a character there is no boundary. -/
theorem not_isBoundary_inside {b : UInt8} {r bs : List UInt8} {i : Nat}
    (hr : ∀ d ∈ r, isContinuation d = true) (hi : 0 < i) (hlt : i < (b :: r).length) :
    ¬ isBoundary (b :: r ++ bs) i = true := by
  obtain ⟨k, rfl⟩ : ∃ k, i = k + 1 := ⟨i - 1, by omega⟩
  have hk : k < r.length := by simpa using hlt
  have hoctet : (b :: r ++ bs)[k + 1]? = some r[k] := by
    rw [List.cons_append, List.getElem?_cons_succ, List.getElem?_append_left hk,
      List.getElem?_eq_getElem hk]
  rw [isBoundary_iff, hoctet]
  rintro (h | h | ⟨d, hd, hc⟩)
  · omega
  · rw [List.cons_append, List.length_cons, List.length_append] at h
    omega
  · obtain rfl : r[k] = d := Option.some.inj hd
    rw [hr _ (List.getElem_mem hk)] at hc
    cases hc

/-- Behind a character the boundaries are those of what follows it. -/
theorem isBoundary_behind {e bs : List UInt8} (h : ∀ b ∈ bs.head?, isContinuation b = false)
    (j : Nat) : isBoundary (e ++ bs) (e.length + j) = true ↔ isBoundary bs j = true := by
  have hoctet : (e ++ bs)[e.length + j]? = bs[j]? := by
    rw [List.getElem?_append_right (by omega), Nat.add_sub_cancel_left]
  rw [isBoundary_iff, isBoundary_iff, hoctet, List.length_append]
  cases j with
  | succ j =>
    rw [Nat.add_left_cancel_iff]
    simp
  | zero =>
    -- right behind the character there is an end, or the octet that begins the next one
    have hstart : e.length + 0 = e.length + bs.length ∨
        ∃ b, bs[0]? = some b ∧ isContinuation b = false := by
      cases bs with
      | nil => exact .inl rfl
      | cons b r => exact .inr ⟨b, rfl, h b rfl⟩
    exact ⟨fun _ => .inl rfl, fun _ => .inr hstart⟩

theorem head?_encode (cs : List Char) : ∀ b ∈ (encode cs).head?, isContinuation b = false := by
  cases cs with
  | nil => simp
  | cons c r =>
    obtain ⟨b, e, hc, hb, -⟩ := exists_octets c
    rw [encode_cons, hc]
    intro d hd
    obtain rfl : b = d := Option.some.inj hd
    exact hb

/-- **The octets of a text can be cut where a start of it ends**, and nowhere else. -/
theorem isBoundary_encode_iff {cs : List Char} {i : Nat} : isBoundary (encode cs) i = true ↔
    ∃ start, start <+: cs ∧ (encode start).length = i := by
  induction cs generalizing i with
  | nil =>
    rw [encode_nil, isBoundary_iff]
    constructor
    · rintro (rfl | rfl | ⟨b, hb, -⟩)
      · exact ⟨[], List.prefix_rfl, rfl⟩
      · exact ⟨[], List.prefix_rfl, rfl⟩
      · cases hb
    · rintro ⟨start, hstart, rfl⟩
      rw [List.prefix_nil.mp hstart]
      exact .inl rfl
  | cons c r ih =>
    obtain ⟨b, e, hc, -, he⟩ := exists_octets c
    have hcons : ∀ start : List Char,
        (encode (c :: start)).length = (b :: e).length + (encode start).length := by
      intro start
      rw [encode_cons, hc, List.length_append]
    rw [encode_cons, hc]
    constructor
    · intro h
      by_cases hi : i = 0
      · exact ⟨[], List.nil_prefix, hi.symm⟩
      · have hle : (b :: e).length ≤ i :=
          Nat.le_of_not_lt fun hlt => not_isBoundary_inside he (by omega) hlt h
        obtain ⟨j, rfl⟩ := Nat.exists_eq_add_of_le hle
        obtain ⟨start, hstart, rfl⟩ := ih.mp ((isBoundary_behind (head?_encode r) j).mp h)
        exact ⟨c :: start, List.cons_prefix_cons.mpr ⟨rfl, hstart⟩, hcons start⟩
    · rintro ⟨start, hstart, rfl⟩
      cases start with
      | nil => rfl
      | cons d start =>
        obtain ⟨rfl, hrest⟩ := List.cons_prefix_cons.mp hstart
        rw [hcons]
        exact (isBoundary_behind (head?_encode r) _).mpr (ih.mpr ⟨start, hrest, rfl⟩)

/-! ### Cutting -/

/-- Of two starts of a text the one with fewer octets is a start of the other. -/
theorem prefix_of_length_le {cs s t : List Char} (hs : s <+: cs) (ht : t <+: cs)
    (h : (encode s).length ≤ (encode t).length) : s <+: t := by
  rcases List.prefix_or_prefix_of_prefix hs ht with hst | ⟨r, rfl⟩
  · exact hst
  · rw [encode_append, List.length_append] at h
    cases r with
    | nil => simp
    | cons c r =>
      obtain ⟨b, e, hc, -, -⟩ := exists_octets c
      rw [encode_cons, hc, List.length_append, List.length_cons] at h
      omega

theorem take_encode_of_prefix {cs start : List Char} (h : start <+: cs) :
    (encode cs).take (encode start).length = encode start := by
  obtain ⟨r, rfl⟩ := h
  rw [encode_append, List.take_left]

/-- **The octets of a text are cut to those of its longest start within the limit.** -/
theorem truncate?_encode (limit : Nat) (cs : List Char) :
    ∃ start, truncate? limit (encode cs) = some (encode start) ∧ start <+: cs ∧
      (encode start).length ≤ limit ∧
      ∀ s, s <+: cs → (encode s).length ≤ limit → s <+: start := by
  unfold truncate?
  split
  · next hfits => exact ⟨cs, rfl, List.prefix_rfl, hfits, fun s hs _ => hs⟩
  · obtain ⟨i, hi, hle, hboundary, hlast⟩ := exists_boundaryBack? (encode cs) limit
    obtain ⟨start, hstart, rfl⟩ := isBoundary_encode_iff.mp hboundary
    refine ⟨start, ?_, hstart, hle, fun s hs hlimit => ?_⟩
    · rw [hi, Option.bind_some, before?, if_pos hboundary, take_encode_of_prefix hstart]
    · have hs' := hlast (encode s).length hlimit (isBoundary_encode_iff.mpr ⟨s, hs, rfl⟩)
      exact prefix_of_length_le hs hstart hs'

end SearchGateway.Text.Utf8

namespace SearchGateway.Backend.Client

open Text.Utf8 (encode)

theorem length_encode (text : String) : (encode text.toList).length = text.utf8ByteSize := by
  have hbytes : text.toByteArray = (encode text.toList).toByteArray := by
    conv => lhs; rw [← String.ofList_toList (s := text)]
    exact String.toByteArray_ofList
  show _ = text.toByteArray.size
  rw [hbytes, List.size_toByteArray]

/-! ## Top theorem -/

/-- **A text is cut to its longest start within a number of octets**, whatever the text and the
number: the way back meets a boundary, the cut goes through no character, and a text that fits is
left as it is. -/
theorem truncate_longest (text : String) (limit : Nat) :
    ∃ start, truncate? text limit = some start ∧ start.toList <+: text.toList ∧
      start.utf8ByteSize ≤ limit ∧
      (∀ other : String, other.toList <+: text.toList → other.utf8ByteSize ≤ limit →
        other.toList <+: start.toList) ∧
      (text.utf8ByteSize ≤ limit → start = text) := by
  obtain ⟨start, hcut, hstart, hle, hlongest⟩ :=
    Text.Utf8.truncate?_encode limit text.toList
  refine ⟨String.ofList start, ?_, by rwa [String.toList_ofList], ?_, fun other ho hlimit => ?_,
    fun hfits => ?_⟩
  · unfold truncate?
    rw [hcut, Option.map_some, Text.Utf8.decodeLossy_encode]
  · rwa [← length_encode, String.toList_ofList]
  · rw [String.toList_ofList]
    exact hlongest _ ho (by rwa [length_encode])
  · have hwhole : text.toList <+: start :=
      hlongest _ List.prefix_rfl (by rwa [length_encode])
    rw [hstart.eq_of_length_le hwhole.length_le, String.ofList_toList]

end SearchGateway.Backend.Client
