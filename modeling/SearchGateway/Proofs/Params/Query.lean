import Mathlib.Tactic.IntervalCases
import SearchGateway.Params.Query
import SearchGateway.Proofs.Params.Pairs
import SearchGateway.Proofs.Text.Pieces
import SearchGateway.Proofs.Text.Utf8

/-!
# Reading a written query

Every text is written with letters, digits, a few marks and escapes, so that neither an
ampersand nor an equals sign stands in it; and what was written is read.

    readComponent (writeComponent s) = s                        (readComponent_writeComponent)
    readPairs (writePairs ps) = ps                              (readPairs_writePairs)
    (parse (print m)).entries = what has values in m.entries    (entries_parse_print)

A parameter without values leaves no trace in a query.
-/

namespace SearchGateway

/-! ## Escapes -/

namespace Text

namespace Utf8

theorem utf8EncodeChar_ascii {c : Char} (h : c.toNat < 128) :
    String.utf8EncodeChar c = [UInt8.ofNat c.toNat] := if_pos (Nat.le_of_lt_succ h)

theorem toNat_ofNat_of_lt {n : Nat} (h : n < 128) : (Char.ofNat n).toNat = n := by
  have hv : n.isValidChar := .inl (by omega)
  unfold Char.ofNat
  rw [dif_pos hv]
  rfl

/-- An octet below 128 stands for itself. -/
theorem encode_ofNat_cons {b : UInt8} (h : b.toNat < 128) (r : List Char) :
    encode (Char.ofNat b.toNat :: r) = b :: encode r := by
  have hc := toNat_ofNat_of_lt h
  rw [encode_cons, utf8EncodeChar_ascii (by omega), hc, UInt8.ofNat_toNat]
  rfl

end Utf8

namespace Percent

theorem decode_cons {b : UInt8} (h : b ≠ 37) (r : List UInt8) : decode (b :: r) = b :: decode r := by
  match r with
  | [] => rfl
  | [_] => rfl
  | _ :: _ :: _ => rw [decode, if_neg h]

theorem hexDigit_lt {n : Nat} (h : n < 16) : (hexDigit n).toNat < 128 := by
  interval_cases n <;> decide

/-- A hexadecimal digit is none of the marks that a query is made of. -/
theorem hexDigit_notMem {n : Nat} (h : n < 16) : hexDigit n ∉ ['+', '&', '='] := by
  interval_cases n <;> decide

theorem hexValue_hexDigit {n : Nat} (h : n < 16) :
    hexValue? (UInt8.ofNat (hexDigit n).toNat) = some n := by
  interval_cases n <;> decide

theorem decode_escape (b : UInt8) (r : List Char) :
    decode (Utf8.encode (escape b ++ r)) = b :: decode (Utf8.encode r) := by
  have hb : b.toNat < 256 := b.toNat_lt
  have hhigh : b.toNat / 16 < 16 := by omega
  have hlow : b.toNat % 16 < 16 := by omega
  have hencode : Utf8.encode (escape b ++ r) = 37 :: UInt8.ofNat (hexDigit (b.toNat / 16)).toNat ::
      UInt8.ofNat (hexDigit (b.toNat % 16)).toNat :: Utf8.encode r := by
    simp only [escape, List.cons_append, List.nil_append, Utf8.encode_cons,
      Utf8.utf8EncodeChar_ascii (hexDigit_lt hhigh), Utf8.utf8EncodeChar_ascii (hexDigit_lt hlow)]
    rfl
  have hvalue : UInt8.ofNat (16 * (b.toNat / 16) + b.toNat % 16) = b := by
    rw [Nat.div_add_mod, UInt8.ofNat_toNat]
  rw [hencode, decode, if_pos rfl, hexValue_hexDigit hhigh, hexValue_hexDigit hlow]
  simp only [hvalue]

end Percent

end Text

namespace Query

open Text

/-! ## Components -/

/-- What reading takes a plus sign for. -/
def unplus (c : Char) : Char := if c = '+' then ' ' else c

theorem unplus_of_ne {c : Char} (h : c ≠ '+') : unplus c = c := if_neg h

/-- What stands for itself is neither a mark nor a percent sign. -/
theorem cases_of_keeps {b : UInt8} (h : keeps b = true) :
    b.toNat < 128 ∧ b ≠ 37 ∧ Char.ofNat b.toNat ∉ ['+', '&', '='] := by
  have hrange : b.toNat < 128 ∧ b.toNat ≠ 37 ∧ b.toNat ≠ 38 ∧ b.toNat ≠ 43 ∧ b.toNat ≠ 61 := by
    simp only [keeps, Bool.or_eq_true, Bool.and_eq_true, decide_eq_true_eq, beq_iff_eq] at h
    omega
  obtain ⟨hlt, h37, h38, h43, h61⟩ := hrange
  have hc := Utf8.toNat_ofNat_of_lt hlt
  refine ⟨hlt, fun hb => h37 (by rw [hb]; rfl), fun hmem => ?_⟩
  simp only [List.mem_cons, List.not_mem_nil, or_false] at hmem
  rcases hmem with h | h | h
  · exact h43 (by rw [← hc, h]; rfl)
  · exact h38 (by rw [← hc, h]; rfl)
  · exact h61 (by rw [← hc, h]; rfl)

theorem map_unplus_escape (b : UInt8) : (Percent.escape b).map unplus = Percent.escape b := by
  have hb : b.toNat < 256 := b.toNat_lt
  have hne : ∀ n < 16, unplus (Percent.hexDigit n) = Percent.hexDigit n := fun n hn =>
    unplus_of_ne fun h => Percent.hexDigit_notMem hn (h ▸ List.mem_cons_self)
  simp only [Percent.escape, List.map_cons, List.map_nil, hne _ (show b.toNat / 16 < 16 by omega),
    hne _ (show b.toNat % 16 < 16 by omega), unplus_of_ne (show '%' ≠ '+' by decide)]

/-- One written octet is read as that octet. -/
theorem decode_writeOctet (b : UInt8) (r : List Char) :
    Percent.decode (Utf8.encode ((writeOctet b).map unplus ++ r)) =
      b :: Percent.decode (Utf8.encode r) := by
  unfold writeOctet
  split
  · next hk =>
    obtain ⟨hlt, hpercent, hmarks⟩ := cases_of_keeps hk
    have hplus : unplus (Char.ofNat b.toNat) = Char.ofNat b.toNat :=
      unplus_of_ne fun h => hmarks (h ▸ List.mem_cons_self)
    rw [List.map_singleton, hplus, List.singleton_append, Utf8.encode_ofNat_cons hlt,
      Percent.decode_cons hpercent]
  · split
    · next hspace =>
      subst hspace
      exact Percent.decode_cons (by decide) _
    · rw [map_unplus_escape, Percent.decode_escape]

theorem decode_flatMap_writeOctet (bs : List UInt8) :
    Percent.decode (Utf8.encode ((bs.flatMap writeOctet).map unplus)) = bs := by
  induction bs with
  | nil => rfl
  | cons b r ih => rw [List.flatMap_cons, List.map_append, decode_writeOctet, ih]

/-- **A written name or value is read as it was**, whatever its characters. -/
theorem readComponent_writeComponent (s : String) : readComponent (writeComponent s) = s := by
  have hread : readComponent (writeComponent s) = String.ofList (Utf8.decodeLossy
      (Percent.decode (Utf8.encode ((writeComponent s).map unplus)))) := rfl
  rw [hread, writeComponent, decode_flatMap_writeOctet, Utf8.decodeLossy_encode, String.ofList_toList]

/-! ## Pairs -/

theorem notMem_writeOctet (b : UInt8) : '&' ∉ writeOctet b ∧ '=' ∉ writeOctet b := by
  have hb : b.toNat < 256 := b.toNat_lt
  have hmark : ∀ m ∈ ['&', '='], m ∉ writeOctet b := by
    intro m hm
    have hm' : m ∈ ['+', '&', '='] := List.mem_cons_of_mem _ hm
    unfold writeOctet
    split
    · next hk =>
      rw [List.mem_singleton]
      exact fun h => (cases_of_keeps hk).2.2 (h ▸ hm')
    · split
      · rw [List.mem_singleton]
        intro h
        subst h
        revert hm
        decide
      · intro h
        simp only [Percent.escape, List.mem_cons, List.not_mem_nil, or_false] at h
        rcases h with h | h | h
        · subst h
          revert hm
          decide
        · exact Percent.hexDigit_notMem (by omega) (h ▸ hm')
        · exact Percent.hexDigit_notMem (by omega) (h ▸ hm')
  exact ⟨hmark _ List.mem_cons_self, hmark _ (List.mem_cons_of_mem _ List.mem_cons_self)⟩

theorem notMem_writeComponent (s : String) :
    '&' ∉ writeComponent s ∧ '=' ∉ writeComponent s := by
  constructor
  · intro h
    obtain ⟨b, -, hb⟩ := List.mem_flatMap.mp h
    exact (notMem_writeOctet b).1 hb
  · intro h
    obtain ⟨b, -, hb⟩ := List.mem_flatMap.mp h
    exact (notMem_writeOctet b).2 hb

theorem readPair_writePair (p : String × String) : readPair (writePair p) = p := by
  have hname : ∀ c ∈ writeComponent p.1, decide (c ≠ '=') = true := fun c hc =>
    decide_eq_true fun h => (notMem_writeComponent p.1).2 (h ▸ hc)
  unfold readPair writePair
  rw [List.takeWhile_append_of_pos hname, List.dropWhile_append_of_pos hname]
  simp only [List.takeWhile_cons, List.dropWhile_cons, ne_eq, not_true_eq_false, decide_false,
    Bool.false_eq_true, if_false, List.append_nil, List.drop_one, List.tail_cons,
    readComponent_writeComponent]

theorem notMem_writePair (p : String × String) : '&' ∉ writePair p := by
  unfold writePair
  rw [List.mem_append, List.mem_cons, not_or, not_or]
  exact ⟨(notMem_writeComponent p.1).1, by decide, (notMem_writeComponent p.2).1⟩

/-- The pieces of a written query are its pairs, each of them written. -/
theorem pieces_writePairs (p : String × String) (ps : List (String × String)) :
    pieces (· == '&') (writePairs (p :: ps)) = (p :: ps).map writePair := by
  have hpair : ∀ q : String × String, ∀ c ∈ writePair q, (c == '&') = false := fun q c hc =>
    beq_eq_false_iff_ne.mpr fun h => notMem_writePair q (h ▸ hc)
  induction ps generalizing p with
  | nil => exact pieces_of_none (hpair p)
  | cons q r ih =>
    rw [writePairs, pieces_append_cons (hpair p) rfl, ih q]
    rfl

/-- **Written pairs are read as they were**, in their order. -/
theorem readPairs_writePairs (ps : List (String × String)) : readPairs (writePairs ps) = ps := by
  cases ps with
  | nil => rfl
  | cons p r =>
    have hne : ∀ piece ∈ (p :: r).map writePair, decide (piece ≠ []) = true := by
      intro piece h
      obtain ⟨q, -, rfl⟩ := List.mem_map.mp h
      simp [writePair]
    unfold readPairs
    rw [pieces_writePairs, List.filter_eq_self.mpr hne, List.map_map]
    exact (List.map_congr_left fun q _ => readPair_writePair q).trans (List.map_id _)

end Query

/-! ## Parameters -/

namespace Entries

/-- Looking up among the entries that pass a test. -/
theorem find?_filter {β : Type} (p : β → Bool) {es : List (String × β)} (hn : (keys es).Nodup)
    (k : String) : find? k (es.filter fun e => p e.2) = (find? k es).filter p := by
  induction es with
  | nil => rfl
  | cons e r ih =>
    obtain ⟨j, w⟩ := e
    obtain ⟨hj, hr⟩ := List.nodup_cons.mp hn
    by_cases hk : j = k
    · subst hk
      have hnone : find? j r = none := find?_eq_none_iff.mpr hj
      have hrest : find? j (r.filter fun e => p e.2) = none := by rw [ih hr, hnone]; rfl
      cases hp : p w <;> simp [find?, hp, hrest, Option.filter_some]
    · cases hp : p w <;> simp [find?, hk, hp, ih hr]

theorem alter_alter {β : Type} (k : String) (f g : Option β → β) (es : List (String × β)) :
    alter k f (alter k g es) = alter k (fun old => f (some (g old))) es := by
  induction es with
  | nil => simp [alter]
  | cons e r ih =>
    obtain ⟨j, w⟩ := e
    by_cases hj : j = k
    · simp [alter, hj]
    · simp [alter, hj, ih]

end Entries

namespace Params

open Entries (keys)

/-- The entries that have values. -/
def given (es : List (String × List String)) : List (String × List String) :=
  es.filter fun e => e.2 ≠ []

theorem find?_given {es : List (String × List String)} (hn : (keys es).Nodup) (k : String) :
    Entries.find? k (given es) = (Entries.find? k es).filter (· ≠ []) :=
  Entries.find?_filter (fun vs => decide (vs ≠ [])) hn k

theorem addAll_addAll (m : Params) (k : String) (vs ws : List String) :
    (m.addAll k vs).addAll k ws = m.addAll k (vs ++ ws) := by
  apply Ordered.ext
  show Entries.alter k _ (Entries.alter k _ m.entries) = Entries.alter k _ m.entries
  rw [Entries.alter_alter]
  simp only [Option.getD_some, List.append_assoc]

/-- Values added one by one under a name. -/
theorem foldl_add (k v : String) (vs : List String) (m : Params) :
    ((v :: vs).map fun v => (k, v)).foldl (fun m p => m.add p.1 p.2) m = m.addAll k (v :: vs) := by
  induction vs generalizing m v with
  | nil => rfl
  | cons w r ih =>
    rw [List.map_cons, List.foldl_cons, ih, add, addAll_addAll]
    rfl

theorem entries_addAll_of_notMem {m : Params} {k : String} (h : k ∉ m.keys) (vs : List String) :
    (m.addAll k vs).entries = m.entries ++ [(k, vs)] := by
  have hk : k ∉ keys m.entries := h
  rw [addAll, Ordered.entries_alter, Entries.amend, if_neg hk]
  rfl

/-- A name that pairs are gathered under has values. -/
theorem ne_nil_of_mem_ofPairs {ps : List (String × String)} {e : String × List String}
    (he : e ∈ (ofPairs ps).entries) : e.2 ≠ [] := by
  have hstep : ∀ (m : Params) (k v : String), (∀ e ∈ m.entries, e.2 ≠ []) →
      ∀ e ∈ (m.add k v).entries, e.2 ≠ [] := by
    intro m k v hm e he
    rw [add, addAll, Ordered.entries_alter, Entries.amend] at he
    split at he
    · obtain ⟨d, hd, rfl⟩ := List.mem_map.mp he
      by_cases hk : d.1 = k
      · simp [hk]
      · rw [if_neg hk]
        exact hm d hd
    · rcases List.mem_append.mp he with he | he
      · exact hm e he
      · rw [List.mem_singleton.mp he]
        exact List.cons_ne_nil v []
  have hrun : ∀ (ps : List (String × String)) (m : Params), (∀ e ∈ m.entries, e.2 ≠ []) →
      ∀ e ∈ (ps.foldl (fun m p => m.add p.1 p.2) m).entries, e.2 ≠ [] := by
    intro ps
    induction ps with
    | nil => exact fun m hm => hm
    | cons p r ih => exact fun m hm => ih _ (hstep m p.1 p.2 hm)
  exact hrun ps Ordered.empty (fun _ h => absurd h List.not_mem_nil) e he

/-- Pairs of entries that are new are gathered into those entries. -/
theorem entries_foldl_add (es : List (String × List String)) (m : Params) (hn : (keys es).Nodup)
    (hm : ∀ k ∈ keys es, k ∉ m.keys) :
    ((es.flatMap fun e => e.2.map fun v => (e.1, v)).foldl (fun m p => m.add p.1 p.2) m).entries =
      m.entries ++ given es := by
  induction es generalizing m with
  | nil => exact (List.append_nil _).symm
  | cons e r ih =>
    obtain ⟨k, vs⟩ := e
    obtain ⟨hk, hr⟩ := List.nodup_cons.mp hn
    have hrest : ∀ j ∈ keys r, j ∉ m.keys := fun j hj => hm j (List.mem_cons_of_mem k hj)
    rw [List.flatMap_cons, List.foldl_append]
    cases vs with
    | nil => exact ih m hr hrest
    | cons v vs =>
      have hentries := entries_addAll_of_notMem (hm k List.mem_cons_self) (v :: vs)
      have hnew : ∀ j ∈ keys r, j ∉ (m.addAll k (v :: vs)).keys := by
        intro j hj hmem
        rw [Ordered.keys, hentries, keys, List.map_append, List.mem_append] at hmem
        rcases hmem with hmem | hmem
        · exact hrest j hj hmem
        · have hjk : j = k := List.mem_singleton.mp hmem
          exact hk (hjk ▸ hj)
      rw [foldl_add, ih _ hr hnew, hentries, List.append_assoc]
      rfl

end Params

namespace Query

/-- **Written parameters are read as they were**, names and values in their order; of those
without values nothing is left. -/
theorem entries_parse_print (m : Params) : (parse (print m)).entries = Params.given m.entries := by
  rw [parse, print, String.toList_ofList, readPairs_writePairs]
  exact Params.entries_foldl_add m.entries Ordered.empty m.distinct fun _ _ => List.not_mem_nil

end Query

end SearchGateway
