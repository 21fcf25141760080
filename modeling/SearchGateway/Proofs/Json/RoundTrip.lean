import SearchGateway.Proofs.Json.Parts

/-!
# What is printed reads back

A text that a value begins is read in steps, each of which leaves what follows.  A printed value
is read as that value wherever a value can stand; by induction on how it nests.  Doubles are left
to a hypothesis: their digits are the shortest, and the reader rounds twice.

    ReadsAs room cs x         a text that is read as `x` wherever a value can stand
    readString_escaped        a printed string is read as it
    readItems_commas          printed items are read as they are
    readMembers_commas        printed members are read as they are
    read_print                a value that fits reads back from its print
-/

namespace SearchGateway.Json

/-! ## Algorithm -/

/-- A double that reads back from its print. -/
def ReadsBack (x : Float) : Prop :=
  Value.read (numberLayout.write x) = .ok (.number (.float x))

/-- A text that is read as `x` wherever a value can stand; blanks around it do not matter, and
it does not begin with what closes an array. -/
structure ReadsAs (room : Nat) (cs : List Char) (x : Node) : Prop where
  starts : ∃ c r, skipSpace cs = c :: r ∧ c ≠ ']'
  reads : ∀ n rest, cs.length ≤ n → Ends rest →
    ∃ r, readNode .value room n (cs ++ rest) = .ok (x, r) ∧ skipSpace r = skipSpace rest

/-! ## Lemmas -/

/-! ### Blanks -/

theorem skipSpace_append_of_nil {cs : List Char} (h : skipSpace cs = []) (rest : List Char) :
    skipSpace (cs ++ rest) = skipSpace rest := by
  unfold skipSpace at h ⊢
  rw [List.dropWhile_append, h]
  rfl

theorem skipSpace_append_of_cons {cs r : List Char} {c : Char} (h : skipSpace cs = c :: r)
    (rest : List Char) : skipSpace (cs ++ rest) = c :: r ++ rest := by
  unfold skipSpace at h ⊢
  rw [List.dropWhile_append, h]
  rfl

theorem skipSpace_of_not {c : Char} (hc : isSpace c = false) (r : List Char) :
    skipSpace (c :: r) = c :: r := by
  unfold skipSpace
  rw [List.dropWhile_cons, hc]
  rfl

theorem skipSpace_skipSpace (cs : List Char) : skipSpace (skipSpace cs) = skipSpace cs := by
  unfold skipSpace
  induction cs with
  | nil => rfl
  | cons c cs ih =>
    by_cases hc : isSpace c = true
    · rw [List.dropWhile_cons_of_pos hc, ih]
    · rw [List.dropWhile_cons_of_neg hc, List.dropWhile_cons_of_neg hc]

/-- Blanks in front of a value do not matter. -/
theorem ReadsAs.reads_skipSpace {room : Nat} {cs : List Char} {x : Node} (h : ReadsAs room cs x)
    {n : Nat} {rest : List Char} (hn : cs.length ≤ n) (hrest : Ends rest) :
    ∃ r, readNode .value room n (skipSpace (cs ++ rest)) = .ok (x, r) ∧
      skipSpace r = skipSpace rest := by
  obtain ⟨r, hr, hskip⟩ := h.reads n rest hn hrest
  refine ⟨r, ?_, hskip⟩
  cases n with
  | zero => cases hr
  | succ n =>
    rw [← hr]
    unfold readNode
    rw [skipSpace_skipSpace]

theorem ReadsAs.length_pos {room : Nat} {cs : List Char} {x : Node} (h : ReadsAs room cs x) :
    0 < cs.length := by
  obtain ⟨c, r, hcs, -⟩ := h.starts
  cases cs with
  | nil => cases hcs
  | cons c cs => exact Nat.zero_lt_succ _

theorem ReadsAs.starts_append {room : Nat} {cs : List Char} {x : Node} (h : ReadsAs room cs x)
    (rest : List Char) : ∃ c r, skipSpace (cs ++ rest) = c :: r ∧ c ≠ ']' := by
  obtain ⟨c, r, hcs, hc⟩ := h.starts
  exact ⟨c, r ++ rest, skipSpace_append_of_cons hcs rest, hc⟩

/-! ### Strings -/

/-- Two hexadecimal digits write every control character. -/
theorem hex?_lowerHex {n : Nat} (hn : n < 32) :
    readHex.hex? (lowerHex (n / 16)) = some (n / 16) ∧
      readHex.hex? (lowerHex (n % 16)) = some (n % 16) := by
  have hall : ∀ m < 32, readHex.hex? (lowerHex (m / 16)) = some (m / 16) ∧
      readHex.hex? (lowerHex (m % 16)) = some (m % 16) := by decide
  exact hall n hn

theorem readEscape_control {mode : Mode} {c : Char} (hc : c.toNat < 32) (r : List Char) :
    readEscape mode ('u' :: '0' :: '0' :: lowerHex (c.toNat / 16) :: lowerHex (c.toNat % 16) :: r) =
      .ok (some c, r) := by
  obtain ⟨hhigh, hlow⟩ := hex?_lowerHex hc
  have hzero : readHex.hex? '0' = some 0 := by decide
  have hhex : readHex ('0' :: '0' :: lowerHex (c.toNat / 16) :: lowerHex (c.toNat % 16) :: r) =
      .ok (c.toNat, r) := by
    have hsum : 4096 * 0 + 256 * 0 + 16 * (c.toNat / 16) + c.toNat % 16 = c.toNat := by omega
    simp only [readHex, hzero, hhigh, hlow, hsum]
  show readUnicode mode _ = _
  unfold readUnicode
  rw [hhex]
  show (if 0xDC00 ≤ c.toNat ∧ c.toNat ≤ 0xDFFF then _ else _) = _
  rw [if_neg (by omega), if_pos (by omega), Char.ofNat_toNat]

/-- An escaped character is read as it. -/
theorem readText_escapeChar (mode : Mode) (n : Nat) (c : Char) (r : List Char) :
    readText mode (n + 1) (escapeChar c ++ r) =
      (readText mode n r).bind fun (s, r) => .ok (s.map (c :: ·), r) := by
  have hescape : ∀ e, readEscape mode (e ++ r) = .ok (some c, r) →
      readText mode (n + 1) ('\\' :: e ++ r) =
        (readText mode n r).bind fun (s, r) => .ok (s.map (c :: ·), r) := by
    intro e he
    show (readEscape mode (e ++ r) >>= _) = _
    rw [he]
    show (readText mode n r >>= _) = _
    cases readText mode n r with
    | error e => rfl
    | ok p =>
      obtain ⟨s, r⟩ := p
      cases s <;> rfl
  unfold escapeChar
  split
  · next h => exact hescape ['"'] (by rw [h]; rfl)
  split
  · next h => exact hescape ['\\'] (by rw [h]; rfl)
  split
  · next h => exact hescape ['b'] (by rw [h]; rfl)
  split
  · next h => exact hescape ['f'] (by rw [h]; rfl)
  split
  · next h => exact hescape ['n'] (by rw [h]; rfl)
  split
  · next h => exact hescape ['r'] (by rw [h]; rfl)
  split
  · next h => exact hescape ['t'] (by rw [h]; rfl)
  split
  · next h => exact hescape ['u', '0', '0', _, _] (readEscape_control h r)
  · next hquote hback _ _ _ _ _ hcontrol =>
    show readText mode (n + 1) (c :: r) = _
    rw [readText, if_neg hquote, if_neg hcontrol, if_neg hback]
    rfl

theorem readText_escaped (mode : Mode) (cs rest : List Char) :
    ∀ n, cs.length < n →
      readText mode n (cs.flatMap escapeChar ++ '"' :: rest) = .ok (some cs, rest) := by
  induction cs with
  | nil =>
    intro n hn
    obtain ⟨n, rfl⟩ := Nat.exists_eq_add_one_of_ne_zero (show n ≠ 0 by simp at hn; omega)
    rfl
  | cons c cs ih =>
    intro n hn
    rw [List.length_cons] at hn
    obtain ⟨n, rfl⟩ := Nat.exists_eq_add_one_of_ne_zero (show n ≠ 0 by omega)
    rw [List.flatMap_cons, List.append_assoc, readText_escapeChar, ih n (by omega)]
    rfl

theorem length_le_escaped (cs : List Char) : cs.length ≤ (cs.flatMap escapeChar).length := by
  have hone : ∀ c, 1 ≤ (escapeChar c).length := by
    intro c
    unfold escapeChar
    repeat' split
    all_goals simp
  induction cs with
  | nil => exact Nat.le_refl 0
  | cons c cs ih =>
    have := hone c
    rw [List.flatMap_cons, List.length_append, List.length_cons]
    omega

/-- **A printed string is read as it**, with what follows its quote left. -/
theorem readString_escaped (mode : Mode) (s : String) (rest : List Char) :
    readString mode (s.toList.flatMap escapeChar ++ '"' :: rest) = .ok (some s, rest) := by
  have hlength := length_le_escaped s.toList
  unfold readString
  rw [readText_escaped mode s.toList rest _ (by rw [List.length_append]; omega)]
  show Except.ok (some (String.ofList s.toList), rest) = _
  rw [String.ofList_toList]

theorem toList_printText (s : String) :
    (printText s).toList = '"' :: (s.toList.flatMap escapeChar ++ ['"']) := by
  unfold printText
  rw [String.toList_ofList]

/-! ### Leaves -/

theorem readsAs_text (room : Nat) (s : String) : ReadsAs room (printText s).toList (.text s) := by
  rw [toList_printText]
  refine ⟨⟨_, _, rfl, by decide⟩, fun n rest hn _ => ⟨rest, ?_, rfl⟩⟩
  obtain ⟨n, rfl⟩ := Nat.exists_eq_add_one_of_ne_zero (show n ≠ 0 by simp at hn; omega)
  show (readString .value ((s.toList.flatMap escapeChar ++ ['"']) ++ rest)).map _ = _
  rw [List.append_assoc]
  show (readString .value (s.toList.flatMap escapeChar ++ '"' :: rest)).map _ = _
  rw [readString_escaped]
  rfl

theorem readWord_append (x : Node) (ws rest : List Char) :
    readWord x ws (ws ++ rest) = .ok (x, rest) := by
  induction ws with
  | nil => rfl
  | cons w ws ih => rw [List.cons_append, readWord, if_pos rfl, ih]

theorem readsAs_word {room : Nat} {x : Node} (w : Char) (ws : List Char)
    (hstart : isSpace w = false ∧ w ≠ ']')
    (hread : ∀ n r, readNode .value room (n + 1) (w :: r) = readWord x ws r) :
    ReadsAs room (w :: ws) x := by
  refine ⟨⟨w, ws, skipSpace_of_not hstart.1 ws, hstart.2⟩, fun n rest hn _ => ⟨rest, ?_, rfl⟩⟩
  rw [List.length_cons] at hn
  obtain ⟨n, rfl⟩ := Nat.exists_eq_add_one_of_ne_zero (show n ≠ 0 by omega)
  rw [List.cons_append, hread, readWord_append]

/-- What is read as a number begins with a sign or a digit. -/
theorem cases_of_readNode {mode : Mode} {room n : Nat} {cs r : List Char} {v : Option Number}
    (h : readNode mode room (n + 1) cs = .ok (.number v, r)) :
    ∃ c ds, skipSpace cs = c :: ds ∧
      (c = '-' ∧ readNumber mode true ds = .ok (.number v, r) ∨
        c.isDigit = true ∧ readNumber mode false (c :: ds) = .ok (.number v, r)) := by
  rw [readNode] at h
  split at h
  · cases h
  · next c ds hcs =>
    refine ⟨c, ds, hcs, ?_⟩
    split at h
    · cases eq_of_readWord h
    split at h
    · cases eq_of_readWord h
    split at h
    · cases eq_of_readWord h
    split at h
    · next hc => exact .inl ⟨hc, h⟩
    split at h
    · next hc => exact .inr ⟨hc, h⟩
    split at h
    · obtain ⟨_, -, hx⟩ := of_map_eq_ok h
      cases hx
    split at h
    · split at h
      · cases h
      split at h
      · obtain ⟨_, -, hx⟩ := of_map_eq_ok h
        cases hx
      · obtain ⟨_, -, hx⟩ := of_map_eq_ok h
        cases hx
    · cases h

theorem readNode_digit {mode : Mode} {room n : Nat} {cs ds : List Char} {c : Char}
    (hcs : skipSpace cs = c :: ds) (hc : c.isDigit = true) :
    readNode mode room (n + 1) cs = readNumber mode false (c :: ds) := by
  have hnot : c ≠ 'n' ∧ c ≠ 't' ∧ c ≠ 'f' ∧ c ≠ '-' := by
    refine ⟨?_, ?_, ?_, ?_⟩ <;> rintro rfl <;> cases hc
  obtain ⟨h₁, h₂, h₃, h₄⟩ := hnot
  rw [readNode, hcs]
  show (if c = 'n' then _ else _) = _
  rw [if_neg h₁, if_neg h₂, if_neg h₃, if_neg h₄, if_pos hc]

theorem isSpace_digit {c : Char} (hc : c.isDigit = true) : isSpace c = false := by
  refine Bool.eq_false_iff.mpr fun hspace => ?_
  simp only [isSpace, Bool.or_eq_true, beq_iff_eq] at hspace
  rcases hspace with ((rfl | rfl) | rfl) | rfl <;> cases hc

/-- **A text that is read as a number alone is read as it wherever a value can stand.** -/
theorem readsAs_number {room room' n : Nat} {cs r : List Char} {v : Option Number}
    (h : readNode .value room (n + 1) cs = .ok (.number v, r)) (hr : skipSpace r = []) :
    ReadsAs room' cs (.number v) := by
  obtain ⟨c, ds, hcs, hc⟩ := cases_of_readNode h
  have hne : cs ≠ [] := by
    rintro rfl
    cases hcs
  have hpos : 0 < cs.length := List.length_pos_iff.mpr hne
  refine ⟨⟨c, ds, hcs, ?_⟩, fun m rest hm hrest => ⟨r ++ rest, ?_, skipSpace_append_of_nil hr rest⟩⟩
  · rintro rfl
    rcases hc with ⟨heq, -⟩ | ⟨hdigit, -⟩
    · cases heq
    · cases hdigit
  · obtain ⟨m, rfl⟩ := Nat.exists_eq_add_one_of_ne_zero (show m ≠ 0 by omega)
    have hstart := skipSpace_append_of_cons hcs rest
    rcases hc with ⟨rfl, hnumber⟩ | ⟨hdigit, hnumber⟩
    · rw [readNode, hstart]
      show readNumber .value true (ds ++ rest) = _
      exact readNumber_append hrest hnumber
    · rw [readNode_digit hstart hdigit]
      exact readNumber_append hrest hnumber

theorem eq_number_of_ofNode? {room : Nat} {x : Node} {v : Number}
    (h : Value.ofNode? room x = some (.number v)) : x = .number (some v) := by
  cases x with
  | number n =>
    obtain ⟨m, hm, heq⟩ := Option.map_eq_some_iff.mp h
    cases heq
    rw [hm]
  | null => cases h
  | bool b => cases h
  | text s =>
    obtain ⟨m, -, heq⟩ := Option.map_eq_some_iff.mp h
    cases heq
  | array items =>
    cases room with
    | zero => cases h
    | succ room =>
      obtain ⟨vs, -, heq⟩ := Option.map_eq_some_iff.mp h
      cases heq
  | object members =>
    cases room with
    | zero => cases h
    | succ room =>
      obtain ⟨ms, -, heq⟩ := Option.map_eq_some_iff.mp h
      cases heq

theorem readsAs_double {x : Float} (h : ReadsBack x) (room : Nat) :
    ReadsAs room (numberLayout.write x).toList (.number (some (.float x))) := by
  unfold ReadsBack Value.read at h
  split at h
  · cases h
  · next y hy =>
    obtain ⟨⟨z, r⟩, hz, hr⟩ := of_bind_eq_ok hy
    simp only at hr
    split at hr
    · next hblank =>
      cases hr
      have hy : y = .number (some (.float x)) := by
        split at h
        · next w hw =>
          cases h
          exact eq_number_of_ofNode? hw
        · cases h
      rw [hy] at hz
      exact readsAs_number hz hblank
    · cases hr

theorem toList_toString_ofNat (m : Nat) : (toString (Int.ofNat m)).toList = Nat.toDigits 10 m := by
  show (String.ofList (Nat.toDigits 10 m)).toList = _
  rw [String.toList_ofList]

theorem toList_toString_negSucc (m : Nat) :
    (toString (Int.negSucc m)).toList = '-' :: Nat.toDigits 10 (m + 1) := by
  show ("-" ++ String.ofList (Nat.toDigits 10 (m + 1))).toList = _
  rw [String.toList_append, String.toList_ofList, String.toList_ofList]
  rfl

theorem readsAs_int {i : Int} (low : -2 ^ 63 ≤ i) (high : i < 2 ^ 64) (room : Nat) :
    ReadsAs room (toString i).toList (.number (some (.int i))) := by
  cases i with
  | ofNat m =>
    have hm : m < 2 ^ 64 := by
      have : Int.ofNat m = (m : Int) := rfl
      omega
    have hnumber : readNumber .value false (Nat.toDigits 10 m) =
        .ok (.number (some (.int m)), []) := readNumber_toDigits hm
    have hdigits : ∀ c ∈ Nat.toDigits 10 m, c.isDigit = true :=
      fun c hc => Nat.isDigit_of_mem_toDigits (by omega) (by omega) hc
    rw [toList_toString_ofNat]
    have hnode : readNode .value room 1 (Nat.toDigits 10 m) =
        .ok (.number (some (.int m)), []) := by
      cases hcs : Nat.toDigits 10 m with
      | nil => exact absurd hcs Nat.toDigits_ne_nil
      | cons c ds =>
        rw [hcs] at hnumber hdigits
        have hc := hdigits c List.mem_cons_self
        rw [readNode_digit (skipSpace_of_not (isSpace_digit hc) ds) hc]
        exact hnumber
    exact readsAs_number hnode rfl
  | negSucc m =>
    have hm : 0 < m + 1 ∧ m + 1 ≤ 2 ^ 63 := by
      have : Int.negSucc m = -((m : Int) + 1) := rfl
      omega
    have hnode : readNode .value room 1 ('-' :: Nat.toDigits 10 (m + 1)) =
        .ok (.number (some (.int (Int.negSucc m))), []) := readNumber_toDigits hm
    rw [toList_toString_negSucc]
    exact readsAs_number hnode rfl

/-! ### Arrays and objects -/

theorem nextItem_congr {first : Bool} {cs cs' : List Char} (h : skipSpace cs = skipSpace cs') :
    nextItem first cs = nextItem first cs' := by
  unfold nextItem
  rw [h]

theorem nextMember_congr {first : Bool} {cs cs' : List Char} (h : skipSpace cs = skipSpace cs') :
    nextMember first cs = nextMember first cs' := by
  unfold nextMember
  rw [h]

theorem nextItem_first {cs : List Char} (h : ∃ c r, skipSpace cs = c :: r ∧ c ≠ ']') :
    nextItem true cs = .ok (.more (skipSpace cs)) := by
  obtain ⟨c, r, hcs, hc⟩ := h
  unfold nextItem
  rw [hcs]
  show (if c = ']' then _ else _) = _
  rw [if_neg hc]
  rfl

theorem nextItem_comma {cs : List Char} (h : ∃ c r, skipSpace cs = c :: r ∧ c ≠ ']') :
    nextItem false (',' :: cs) = .ok (.more (skipSpace cs)) := by
  obtain ⟨c, r, hcs, hc⟩ := h
  have hcomma : skipSpace (',' :: cs) = ',' :: cs := rfl
  simp only [nextItem, hcomma, hcs, Bool.false_eq_true, if_false, if_true]
  rw [if_neg (by decide)]
  split
  · next heq => cases heq
  · next heq =>
    cases heq
    exact absurd rfl hc
  · rfl

theorem nextMember_first (cs : List Char) : nextMember true ('"' :: cs) = .ok (.more cs) := rfl

theorem nextMember_comma (cs : List Char) :
    nextMember false (',' :: '"' :: cs) = .ok (.more cs) := rfl

/-- Items as they follow one another after a comma each. -/
def commas (texts : List (List Char)) : List Char := texts.flatMap (',' :: ·)

/-- Items with a comma between them. -/
def separated : List (List Char) → List Char
  | [] => []
  | text :: texts => text ++ commas texts

theorem commas_cons (text : List Char) (texts : List (List Char)) :
    commas (text :: texts) = ',' :: (text ++ commas texts) := by
  unfold commas
  rw [List.flatMap_cons, List.cons_append]

theorem ends_commas {texts : List (List Char)} {c : Char} (hc : c = ',' ∨ c = ']' ∨ c = '\x7d')
    (rest : List Char) : Ends (commas texts ++ c :: rest) := by
  cases texts with
  | nil => exact ends_cons hc rest
  | cons text texts => exact ends_cons (.inl rfl) _

/-- An item is read, and the rest after it. -/
theorem ReadsAs.readItems {room : Nat} {text tail : List Char} {x : Node}
    (h : ReadsAs room text x) (htail : Ends tail) {n : Nat} (hn : text.length ≤ n) {first : Bool}
    {cs : List Char} (hcs : nextItem first cs = .ok (.more (skipSpace (text ++ tail)))) :
    ∃ r, skipSpace r = skipSpace tail ∧ readItems .value room (n + 1) first cs =
      (readItems .value room n false r).map fun (xs, r) => (x :: xs, r) := by
  obtain ⟨r, hr, hskip⟩ := h.reads_skipSpace hn htail
  refine ⟨r, hskip, ?_⟩
  simp only [Json.readItems, hcs, hr]

/-- **Printed items are read as they are**, each by what is known of it. -/
theorem readItems_commas {room : Nat} {rest : List Char} {vs : List Value} :
    (∀ v ∈ vs, ReadsAs room v.print.toList v.toNode) →
    ∀ n cs, (commas (vs.map (·.print.toList))).length + 1 ≤ n →
      skipSpace cs = skipSpace (commas (vs.map (·.print.toList)) ++ ']' :: rest) →
      readItems .value room n false cs = .ok (vs.map Value.toNode, rest) := by
  induction vs with
  | nil =>
    intro _ n cs hn hcs
    obtain ⟨n, rfl⟩ := Nat.exists_eq_add_one_of_ne_zero (show n ≠ 0 by omega)
    rw [readItems, nextItem_congr hcs]
    rfl
  | cons v vs ih =>
    intro hvs n cs hn hcs
    obtain ⟨n, rfl⟩ := Nat.exists_eq_add_one_of_ne_zero (show n ≠ 0 by omega)
    have hv := hvs v List.mem_cons_self
    rw [List.map_cons, commas_cons, List.length_cons, List.length_append] at hn
    rw [List.map_cons, commas_cons, List.cons_append, List.append_assoc] at hcs
    have hnext := (nextItem_congr hcs).trans (nextItem_comma (hv.starts_append _))
    obtain ⟨r', hskip, hread⟩ :=
      hv.readItems (ends_commas (.inr (.inl rfl)) rest) (n := n) (by omega) hnext
    rw [hread, ih (fun w hw => hvs w (List.mem_cons_of_mem v hw)) n r' (by omega) hskip]
    rfl

theorem readItems_separated {room : Nat} {rest : List Char} {vs : List Value}
    (hvs : ∀ v ∈ vs, ReadsAs room v.print.toList v.toNode) {n : Nat}
    (hn : (separated (vs.map (·.print.toList))).length + 1 ≤ n) :
    readItems .value room n true (separated (vs.map (·.print.toList)) ++ ']' :: rest) =
      .ok (vs.map Value.toNode, rest) := by
  obtain ⟨n, rfl⟩ := Nat.exists_eq_add_one_of_ne_zero (show n ≠ 0 by omega)
  cases vs with
  | nil => rfl
  | cons v vs =>
    have hv := hvs v List.mem_cons_self
    have hpos := hv.length_pos
    rw [List.map_cons, separated, List.length_append] at hn
    rw [List.map_cons, separated, List.append_assoc]
    have hnext := nextItem_first
      (hv.starts_append (commas (vs.map (·.print.toList)) ++ ']' :: rest))
    obtain ⟨r', hskip, hread⟩ :=
      hv.readItems (ends_commas (.inr (.inl rfl)) rest) (n := n) (by omega) hnext
    rw [hread, readItems_commas (fun w hw => hvs w (List.mem_cons_of_mem v hw)) n r' (by omega)
      hskip]
    rfl

/-- A member as it is printed. -/
def memberText (m : String × Value) : List Char :=
  (printText m.1).toList ++ ':' :: m.2.print.toList

theorem readName_escaped {mode : Mode} {k : String} {r : List Char} :
    readName mode (k.toList.flatMap escapeChar ++ '"' :: ':' :: r) = .ok (some k, r) := by
  unfold readName
  rw [readString_escaped]
  rfl

theorem length_le_memberText (m : String × Value) :
    m.2.print.toList.length ≤ (memberText m).length := by
  unfold memberText
  rw [List.length_append, List.length_cons]
  omega

/-- A member is read, and the rest after it. -/
theorem ReadsAs.readMembers {room : Nat} {text tail : List Char} {x : Node}
    (h : ReadsAs room text x) (htail : Ends tail) {n : Nat} (hn : text.length ≤ n) {first : Bool}
    {cs : List Char} {k : String} (hcs : nextMember first cs =
      .ok (.more (k.toList.flatMap escapeChar ++ '"' :: ':' :: (text ++ tail)))) :
    ∃ r, skipSpace r = skipSpace tail ∧ readMembers .value room (n + 1) first cs =
      (readMembers .value room n false r).map fun (ms, r) => ((some k, x) :: ms, r) := by
  obtain ⟨r, hr, hskip⟩ := h.reads n tail hn htail
  refine ⟨r, hskip, ?_⟩
  simp only [Json.readMembers, hcs, readName_escaped, hr]

theorem append_memberText (m : String × Value) (tail : List Char) :
    memberText m ++ tail =
      '"' :: (m.1.toList.flatMap escapeChar ++ '"' :: ':' :: (m.2.print.toList ++ tail)) := by
  simp only [memberText, toList_printText, List.cons_append, List.append_assoc, List.nil_append]

/-- **Printed members are read as they are**, each by what is known of its value. -/
theorem readMembers_commas {room : Nat} {rest : List Char} {ms : List (String × Value)} :
    (∀ m ∈ ms, ReadsAs room m.2.print.toList m.2.toNode) →
    ∀ n cs, (commas (ms.map memberText)).length + 1 ≤ n →
      skipSpace cs = skipSpace (commas (ms.map memberText) ++ '\x7d' :: rest) →
      readMembers .value room n false cs =
        .ok (ms.map fun m => (some m.1, m.2.toNode), rest) := by
  induction ms with
  | nil =>
    intro _ n cs hn hcs
    obtain ⟨n, rfl⟩ := Nat.exists_eq_add_one_of_ne_zero (show n ≠ 0 by omega)
    rw [readMembers, nextMember_congr hcs]
    rfl
  | cons m ms ih =>
    intro hms n cs hn hcs
    obtain ⟨n, rfl⟩ := Nat.exists_eq_add_one_of_ne_zero (show n ≠ 0 by omega)
    have hm := hms m List.mem_cons_self
    have hlength := length_le_memberText m
    rw [List.map_cons, commas_cons, List.length_cons, List.length_append] at hn
    rw [List.map_cons, commas_cons, List.cons_append, List.append_assoc,
      append_memberText] at hcs
    have hnext := (nextMember_congr hcs).trans (nextMember_comma _)
    obtain ⟨r', hskip, hread⟩ := hm.readMembers (ends_commas (.inr (.inr rfl)) rest) (n := n)
      (by omega) (k := m.1) hnext
    rw [hread, ih (fun w hw => hms w (List.mem_cons_of_mem _ hw)) n r' (by omega) hskip]
    rfl

theorem readMembers_separated {room : Nat} {rest : List Char} {ms : List (String × Value)}
    (hms : ∀ m ∈ ms, ReadsAs room m.2.print.toList m.2.toNode) {n : Nat}
    (hn : (separated (ms.map memberText)).length + 1 ≤ n) :
    readMembers .value room n true (separated (ms.map memberText) ++ '\x7d' :: rest) =
      .ok (ms.map fun m => (some m.1, m.2.toNode), rest) := by
  obtain ⟨n, rfl⟩ := Nat.exists_eq_add_one_of_ne_zero (show n ≠ 0 by omega)
  cases ms with
  | nil => rfl
  | cons m ms =>
    have hm := hms m List.mem_cons_self
    have hpos := hm.length_pos
    have hlength := length_le_memberText m
    rw [List.map_cons, separated, List.length_append] at hn
    rw [List.map_cons, separated, List.append_assoc, append_memberText]
    obtain ⟨r', hskip, hread⟩ := hm.readMembers (ends_commas (.inr (.inr rfl)) rest) (n := n)
      (by omega) (k := m.1) (nextMember_first _)
    rw [hread, readMembers_commas (fun w hw => hms w (List.mem_cons_of_mem m hw)) n r' (by omega)
      hskip]
    rfl

/-! ### Values -/

namespace Value

theorem toItems_eq (vs : List Value) : toItems vs = vs.map toNode := by
  induction vs with
  | nil => rfl
  | cons v vs ih => rw [toItems, ih, List.map_cons]

theorem toMembers_eq (ms : List (String × Value)) :
    toMembers ms = ms.map fun m => (some m.1, m.2.toNode) := by
  induction ms with
  | nil => rfl
  | cons m ms ih => rw [toMembers, ih, List.map_cons]

theorem printItems_eq (vs : List Value) : printItems vs = vs.map print := by
  induction vs with
  | nil => rfl
  | cons v vs ih => rw [printItems, ih, List.map_cons]

theorem printMembers_eq (ms : List (String × Value)) :
    printMembers ms = ms.map fun m => printText m.1 ++ ":" ++ m.2.print := by
  induction ms with
  | nil => rfl
  | cons m ms ih => rw [printMembers, ih, List.map_cons]

end Value

theorem toList_joinComma (texts : List String) :
    (joinComma texts).toList = separated (texts.map String.toList) := by
  induction texts with
  | nil => rfl
  | cons s texts ih =>
    cases texts with
    | nil =>
      show s.toList = s.toList ++ []
      rw [List.append_nil]
    | cons t texts =>
      show (s ++ "," ++ joinComma (t :: texts)).toList = _
      rw [String.toList_append, String.toList_append, ih, List.append_assoc]
      rfl

theorem toList_print_array (items : List Value) :
    (Value.array items).print.toList =
      '[' :: (separated (items.map (·.print.toList)) ++ [']']) := by
  rw [Value.print, Value.printItems_eq, String.toList_append, String.toList_append,
    toList_joinComma, List.map_map]
  rfl

theorem toList_print_object (members : List (String × Value)) :
    (Value.object members).print.toList =
      '\x7b' :: (separated (members.map memberText) ++ ['\x7d']) := by
  have hmember : (String.toList ∘ fun m : String × Value => printText m.1 ++ ":" ++ m.2.print) =
      memberText := by
    funext m
    show (printText m.1 ++ ":" ++ m.2.print).toList = _
    rw [String.toList_append, String.toList_append, List.append_assoc]
    rfl
  rw [Value.print, Value.printMembers_eq, String.toList_append, String.toList_append,
    toList_joinComma, List.map_map, hmember]
  rfl

theorem readsAs_array {room : Nat} {items : List Value}
    (h : ∀ v ∈ items, ReadsAs room v.print.toList v.toNode) :
    ReadsAs (room + 1) (Value.array items).print.toList (Value.array items).toNode := by
  rw [toList_print_array, Value.toNode, Value.toItems_eq]
  refine ⟨⟨_, _, rfl, by decide⟩, fun n rest hn _ => ⟨rest, ?_, rfl⟩⟩
  rw [List.length_cons, List.length_append, List.length_singleton] at hn
  obtain ⟨n, rfl⟩ := Nat.exists_eq_add_one_of_ne_zero (show n ≠ 0 by omega)
  rw [List.cons_append, List.append_assoc]
  show (readItems .value room n true (_ ++ ']' :: rest)).map _ = _
  rw [readItems_separated h (by omega)]
  rfl

theorem readsAs_object {room : Nat} {members : List (String × Value)}
    (h : ∀ m ∈ members, ReadsAs room m.2.print.toList m.2.toNode) :
    ReadsAs (room + 1) (Value.object members).print.toList (Value.object members).toNode := by
  rw [toList_print_object, Value.toNode, Value.toMembers_eq]
  refine ⟨⟨_, _, rfl, by decide⟩, fun n rest hn _ => ⟨rest, ?_, rfl⟩⟩
  rw [List.length_cons, List.length_append, List.length_singleton] at hn
  obtain ⟨n, rfl⟩ := Nat.exists_eq_add_one_of_ne_zero (show n ≠ 0 by omega)
  rw [List.cons_append, List.append_assoc]
  show (readMembers .value room n true (_ ++ '\x7d' :: rest)).map _ = _
  rw [readMembers_separated h (by omega)]
  rfl

namespace Value

/-- A value that fits is read from its print wherever a value can stand, as far as its doubles
are. -/
theorem readsAs_print {room : Nat} {v : Value} (h : v.Fits room) :
    (∀ x, .number (.float x) ∈ v :: v.parts → ReadsBack x) →
      ReadsAs room v.print.toList v.toNode := by
  induction h with
  | null =>
    exact fun _ => readsAs_word 'n' "ull".toList (by decide) fun _ _ => rfl
  | @bool room b =>
    intro _
    cases b with
    | true => exact readsAs_word 't' "rue".toList (by decide) fun _ _ => rfl
    | false => exact readsAs_word 'f' "alse".toList (by decide) fun _ _ => rfl
  | int low high => exact fun _ => readsAs_int low high _
  | float => exact fun hx => readsAs_double (hx _ List.mem_cons_self) _
  | text => exact fun _ => readsAs_text _ _
  | @array room items inner ih =>
    intro hx
    refine readsAs_array fun v hv => ih v hv fun x hmem => hx x ?_
    rw [parts_array]
    exact List.mem_cons_of_mem _ (List.mem_flatMap.mpr ⟨v, hv, hmem⟩)
  | @object room members distinct inner ih =>
    intro hx
    refine readsAs_object fun m hm => ih m hm fun x hmem => hx x ?_
    rw [parts_object]
    exact List.mem_cons_of_mem _ (List.mem_flatMap.mpr ⟨m, hm, hmem⟩)

theorem ofItems?_toItems {room : Nat} {vs : List Value}
    (h : ∀ v ∈ vs, ofNode? room v.toNode = some v) : ofItems? room (toItems vs) = some vs := by
  induction vs with
  | nil => rfl
  | cons v vs ih =>
    rw [toItems, ofItems?, h v List.mem_cons_self,
      ih fun w hw => h w (List.mem_cons_of_mem v hw)]

theorem setMember_of_notMem {k : String} {v : Value} {ms : List (String × Value)}
    (h : k ∉ ms.map Prod.fst) : setMember k v ms = ms ++ [(k, v)] := by
  induction ms with
  | nil => rfl
  | cons m ms ih =>
    obtain ⟨k', w⟩ := m
    rw [List.map_cons, List.mem_cons, not_or] at h
    rw [setMember, if_neg fun heq => h.1 heq.symm, ih h.2, List.cons_append]

theorem ofMembers?_toMembers {room : Nat} {ms : List (String × Value)}
    (h : ∀ m ∈ ms, ofNode? room m.2.toNode = some m.2) :
    ∀ done, ((done ++ ms).map Prod.fst).Nodup →
      ofMembers? room done (toMembers ms) = some (done ++ ms) := by
  induction ms with
  | nil =>
    intro done _
    rw [toMembers, ofMembers?, List.append_nil]
  | cons m ms ih =>
    obtain ⟨k, v⟩ := m
    intro done hdistinct
    have hassoc : done ++ (k, v) :: ms = done ++ [(k, v)] ++ ms := by
      rw [List.append_assoc, List.singleton_append]
    have hfresh : k ∉ done.map Prod.fst := by
      intro hk
      rw [List.map_append, List.nodup_append] at hdistinct
      exact hdistinct.2.2 k hk k List.mem_cons_self rfl
    rw [hassoc] at hdistinct ⊢
    rw [toMembers]
    unfold ofMembers?
    rw [h (k, v) List.mem_cons_self]
    show ofMembers? room (setMember k v done) (toMembers ms) = _
    rw [setMember_of_notMem hfresh]
    exact ih (fun m hm => h m (List.mem_cons_of_mem _ hm)) _ hdistinct

theorem ofNode?_toNode {room : Nat} {v : Value} (h : v.Fits room) :
    ofNode? room v.toNode = some v := by
  induction h with
  | null => rfl
  | bool => rfl
  | int low high => rfl
  | float => rfl
  | text => rfl
  | array inner ih =>
    rw [toNode, ofNode?, ofItems?_toItems ih]
    rfl
  | object distinct inner ih =>
    rw [toNode, ofNode?, ofMembers?_toMembers ih [] distinct]
    rfl

theorem readAll_print {v : Value} (h : v.Fits maxDepth)
    (hx : ∀ x, .number (.float x) ∈ v :: v.parts → ReadsBack x) :
    readAll .value v.print.toList = .ok v.toNode := by
  obtain ⟨r, hr, hskip⟩ :=
    (readsAs_print h hx).reads (v.print.toList.length + 1) [] (by omega) ends_nil
  rw [List.append_nil] at hr
  have hnil : skipSpace r = [] := hskip
  simp only [readAll, hr, bind, Except.bind, hnil]
  rfl

/-- **A value that fits reads back from its print**, as far as its doubles do. -/
theorem read_print {v : Value} (h : v.Fits maxDepth)
    (hx : ∀ x, .number (.float x) ∈ v :: v.parts → ReadsBack x) : read v.print = .ok v := by
  simp only [read, readAll_print h hx, ofNode?_toNode h]

end Value

end SearchGateway.Json
