import SearchGateway.Json.Make
import SearchGateway.Json.Record
import SearchGateway.Proofs.Json.RoundTrip
import SearchGateway.Proofs.Params.Pairs

/-!
# What is read out of a document

A document is read more leniently than a value: what means nothing is left as a gap.  So whatever
is read as a value is read alike as a document, and a printed value is one.  A record takes its
fields out of a document, wherever they stand there, and nothing that is known may stand there
twice.

    Follows x y              a reading that goes as another one wherever that succeeds
    follows_readAll          reading a document follows reading a value
    Node.read_print          a printed value is read as a document
    HasField names name v    a document gives a field, once
    hasField_of_read         what a record holds under a name is given so
    HasField.unique          and nothing else of that name
    Undoes decode write P    a decoder that takes back what is written of values with `P`
-/

namespace SearchGateway.Json

/-! ## Algorithm -/

/-- Where the first reading succeeds, the second gives the same. -/
def Follows {α : Type} (x y : Reading α) : Prop := ∀ a, x = .ok a → y = .ok a

/-- A document gives a field of a record with these names: it is an object in which one member
has the name of the field and no other has, or an array in which the value stands where the name
stands among the names. -/
inductive HasField (names : List String) (name : String) (v : Node) : Node → Prop
  | member (before after : List (Option String × Node))
    (hbefore : ∀ m ∈ before, m.1 ≠ some name) (hafter : ∀ m ∈ after, m.1 ≠ some name) :
    HasField names name v (.object (before ++ (some name, v) :: after))
  | item (place : Nat) (items : List Node) (hname : names[place]? = some name)
    (hitem : items[place]? = some v) : HasField names name v (.array items)

/-- A decoder takes back what is written of values with a property, and gives no others. -/
structure Undoes {α : Type} (decode : Decoder α) (write : α → Value) (P : α → Prop) : Prop where
  back : ∀ a, P a → decode (write a).toNode = some a
  sound : ∀ n a, n.Fits → decode n = some a → P a

/-! ## Lemmas -/

/-! ### Values as documents -/

section Follows

variable {α β : Type} {x y : Reading α}

theorem Follows.refl (x : Reading α) : Follows x x := fun _ h => h

theorem follows_error (e : Stop) (y : Reading α) : Follows (.error e) y := by
  intro a h
  cases h

theorem Follows.bind {f g : α → Reading β} (h : Follows x y) (hf : ∀ a, Follows (f a) (g a)) :
    Follows (x >>= f) (y >>= g) := by
  intro b hb
  obtain ⟨a, ha, hb⟩ := of_bind_eq_ok hb
  rw [h a ha]
  exact hf a b hb

theorem Follows.map (h : Follows x y) (f : α → β) : Follows (x.map f) (y.map f) := by
  intro b hb
  obtain ⟨a, ha, rfl⟩ := of_map_eq_ok hb
  rw [h a ha]
  rfl

end Follows

/-- A number that means something is concluded alike. -/
theorem follows_concludeNumber (w : Written) (cs : List Char) :
    Follows (concludeNumber .value w cs) (concludeNumber .document w cs) := by
  unfold concludeNumber
  cases w.value? with
  | none => exact follows_error _ _
  | some n => exact .refl _

theorem follows_readNumber (negative : Bool) (cs : List Char) :
    Follows (readNumber .value negative cs) (readNumber .document negative cs) := by
  rw [readNumber_eq, readNumber_eq]
  refine (Follows.refl (readWhole cs)).bind ?_
  rintro ⟨whole, cs⟩
  refine (Follows.refl (readFractionPart cs)).bind ?_
  rintro ⟨fraction, cs⟩
  refine (Follows.refl (readExponentPart cs)).bind ?_
  rintro ⟨exponent, cs⟩
  exact follows_concludeNumber _ cs

/-- Whatever is half of a surrogate pair stops the reading of a value. -/
theorem follows_readUnicode (cs : List Char) :
    Follows (readUnicode .value cs) (readUnicode .document cs) := by
  unfold readUnicode
  refine (Follows.refl (readHex cs)).bind ?_
  rintro ⟨n, r⟩
  dsimp only
  split
  · exact follows_error _ _
  split
  · exact .refl _
  split
  · next low =>
    cases readHex low with
    | error e => exact follows_error _ _
    | ok p =>
      dsimp only
      split
      · exact .refl _
      · exact follows_error _ _
  · exact follows_error _ _

theorem follows_readEscape (cs : List Char) :
    Follows (readEscape .value cs) (readEscape .document cs) := by
  cases cs with
  | nil => exact .refl _
  | cons c r =>
    unfold readEscape
    dsimp only
    split
    case h_9 => exact follows_readUnicode r
    all_goals exact .refl _

theorem follows_readText (n : Nat) (cs : List Char) :
    Follows (readText .value n cs) (readText .document n cs) := by
  induction n generalizing cs with
  | zero => exact .refl _
  | succ n ih =>
    cases cs with
    | nil => exact .refl _
    | cons c r =>
      unfold readText
      split
      · exact .refl _
      split
      · exact .refl _
      split
      · refine (follows_readEscape r).bind ?_
        rintro ⟨e, r⟩
        exact (ih r).bind fun _ => .refl _
      · exact (ih r).bind fun _ => .refl _

theorem follows_readString (cs : List Char) :
    Follows (readString .value cs) (readString .document cs) :=
  (follows_readText _ cs).bind fun _ => .refl _

theorem follows_readName (cs : List Char) :
    Follows (readName .value cs) (readName .document cs) :=
  (follows_readString cs).bind fun _ => .refl _

/-- Reading a document within `n` steps follows reading a value, be it a value, items or
members. -/
structure FollowingWithin (n : Nat) : Prop where
  node : ∀ room cs, Follows (readNode .value room n cs) (readNode .document room n cs)
  items : ∀ room first cs,
    Follows (readItems .value room n first cs) (readItems .document room n first cs)
  members : ∀ room first cs,
    Follows (readMembers .value room n first cs) (readMembers .document room n first cs)

section

variable {n : Nat}

theorem follows_readNode (ih : FollowingWithin n) (room : Nat) (cs : List Char) :
    Follows (readNode .value room (n + 1) cs) (readNode .document room (n + 1) cs) := by
  unfold readNode
  cases skipSpace cs with
  | nil => exact .refl _
  | cons c r =>
    dsimp only
    -- one case for each character that a value can begin with
    split
    · exact .refl _
    split
    · exact .refl _
    split
    · exact .refl _
    split
    · exact follows_readNumber true r
    split
    · exact follows_readNumber false (c :: r)
    split
    · exact (follows_readString r).map _
    split
    · split
      · exact follows_error _ _
      have hmode : ¬ (Mode.document = .value ∧ room = 0) := by simp
      rw [if_neg hmode]
      split
      · exact (ih.items _ _ _).map _
      · exact (ih.members _ _ _).map _
    · exact .refl _

theorem follows_readItems (ih : FollowingWithin n) (room : Nat) (first : Bool) (cs : List Char) :
    Follows (readItems .value room (n + 1) first cs)
      (readItems .document room (n + 1) first cs) := by
  unfold readItems
  cases nextItem first cs with
  | error e => exact follows_error _ _
  | ok turn =>
    cases turn with
    | done r => exact .refl _
    | more r =>
      dsimp only
      cases hx : readNode .value room n r with
      | error e => exact follows_error _ _
      | ok p =>
        obtain ⟨x, r⟩ := p
        rw [ih.node room _ _ hx]
        exact (ih.items room false r).map _

theorem follows_readMembers (ih : FollowingWithin n) (room : Nat) (first : Bool)
    (cs : List Char) :
    Follows (readMembers .value room (n + 1) first cs)
      (readMembers .document room (n + 1) first cs) := by
  unfold readMembers
  cases nextMember first cs with
  | error e => exact follows_error _ _
  | ok turn =>
    cases turn with
    | done r => exact .refl _
    | more r =>
      dsimp only
      cases hk : readName .value r with
      | error e => exact follows_error _ _
      | ok p =>
        obtain ⟨k, r⟩ := p
        rw [follows_readName _ _ hk]
        dsimp only
        cases hx : readNode .value room n r with
        | error e => exact follows_error _ _
        | ok p =>
          obtain ⟨x, r⟩ := p
          rw [ih.node room _ _ hx]
          exact (ih.members room false r).map _

end

/-- Reading a document follows reading a value, by induction on the steps allowed. -/
theorem followingWithin (n : Nat) : FollowingWithin n := by
  induction n with
  | zero => exact ⟨fun _ _ => .refl _, fun _ _ _ => .refl _, fun _ _ _ => .refl _⟩
  | succ n ih => exact ⟨follows_readNode ih, follows_readItems ih, follows_readMembers ih⟩

/-- **Whatever is read as a value is read alike as a document.** -/
theorem follows_readAll (cs : List Char) : Follows (readAll .value cs) (readAll .document cs) :=
  ((followingWithin _).node maxDepth cs).bind fun _ => .refl _

/-- **A printed value that fits is read as a document**, as far as its doubles are. -/
theorem Node.read_print {v : Value} (h : v.Fits maxDepth)
    (hx : ∀ x, .number (.float x) ∈ v :: v.parts → ReadsBack x) :
    Node.read v.print = .ok v.toNode := by
  unfold Node.read
  rw [follows_readAll _ _ (Value.readAll_print h hx)]
  rfl

theorem fits_of_nodeRead {text : String} {x : Node} (h : Node.read text = .ok x) : x.Fits :=
  fits_of_readAll (of_mapError_eq_ok h)

/-! ### Records -/

section Records

variable {names : List String} {name : String} {v : Node} {ms : List (Option String × Node)}

theorem HasField.cons {m : Option String × Node} (h : HasField names name v (.object ms))
    (hm : m.1 ≠ some name) : HasField names name v (.object (m :: ms)) := by
  -- where the field stands is not known yet, so the document is not a pattern
  generalize hn : Node.object ms = n at h
  cases h with
  | member before after hbefore hafter =>
    injection hn with hn
    subst hn
    exact .member (m :: before) after (List.forall_mem_cons.mpr ⟨hm, hbefore⟩) hafter
  | item => cases hn

/-- Under a known name a record holds what was found before, and then no member has that name; or
what the members give, once. -/
theorem hasField_of_ofMembers (hname : name ∈ names) {found r : Record}
    (h : Record.ofMembers names found ms = some r) (hv : r.lookup name = some v) :
    (found.lookup name = some v ∧ ∀ m ∈ ms, m.1 ≠ some name) ∨
      (found.lookup name = none ∧ HasField names name v (.object ms)) := by
  induction ms generalizing found with
  | nil =>
    cases h
    exact .inl ⟨hv, fun m hm => absurd hm List.not_mem_nil⟩
  | cons m ms ih =>
    obtain ⟨_ | k, n⟩ := m
    · cases h
    rw [Record.ofMembers] at h
    by_cases hk : k = name
    · subst hk
      rw [if_pos hname] at h
      cases hfound : found.lookup k with
      | some w => simp [hfound] at h
      | none =>
        rw [hfound, if_neg (by simp)] at h
        obtain ⟨hn, hms⟩ | ⟨hnone, -⟩ := ih h
        · have hnv : n = v := by
            rw [List.lookup_append, hfound] at hn
            simpa using hn
          subst hnv
          exact .inr ⟨rfl, .member [] ms (by simp) hms⟩
        · rw [List.lookup_append, hfound] at hnone
          simp at hnone
    · have hne : some k ≠ some name := fun h => hk (Option.some.inj h)
      have hbehind : ∀ found', Record.ofMembers names found' ms = some r →
          found'.lookup name = found.lookup name →
          (found.lookup name = some v ∧ ∀ m ∈ (some k, n) :: ms, m.1 ≠ some name) ∨
            (found.lookup name = none ∧ HasField names name v (.object ((some k, n) :: ms))) := by
        intro found' hfound' heq
        rw [← heq]
        obtain ⟨hv, hms⟩ | ⟨hnone, hfield⟩ := ih hfound'
        · exact .inl ⟨hv, List.forall_mem_cons.mpr ⟨hne, hms⟩⟩
        · exact .inr ⟨hnone, hfield.cons hne⟩
      split at h
      · split at h
        · cases h
        · refine hbehind _ h ?_
          have hkn : (name == k) = false := by simpa using fun h : name = k => hk h.symm
          rw [List.lookup_append, List.lookup_cons, hkn]
          simp
      · exact hbehind found h rfl

theorem place_of_lookup_zip {items : List Node}
    (h : (names.zip items).lookup name = some v) :
    ∃ place : Nat, names[place]? = some name ∧ items[place]? = some v := by
  induction names generalizing items with
  | nil => cases h
  | cons k names ih =>
    cases items with
    | nil => cases h
    | cons n items =>
      rw [List.zip_cons_cons, List.lookup_cons] at h
      split at h
      · next hk =>
        cases h
        exact ⟨0, by simpa using (beq_iff_eq.mp hk).symm, rfl⟩
      · obtain ⟨place, hname, hitem⟩ := ih h
        exact ⟨place + 1, hname, hitem⟩

/-- **What a record holds under a name is given by the document**, in one place. -/
theorem hasField_of_read {n : Node} {r : Record} (hname : name ∈ names)
    (h : Record.read names n = some r) (hv : r.lookup name = some v) :
    HasField names name v n := by
  cases n with
  | object ms =>
    obtain ⟨hnone, -⟩ | ⟨-, hfield⟩ := hasField_of_ofMembers hname h hv
    · cases hnone
    · exact hfield
  | array items =>
    rw [Record.read] at h
    split at h
    · cases h
      obtain ⟨place, hplace, hitem⟩ := place_of_lookup_zip hv
      exact .item place items hplace hitem
    · cases h
  | null | bool _ | number _ | text _ => cases h

/-- A document gives one value for a field. -/
theorem HasField.unique (hnames : names.Nodup) {w n : Node} (hv : HasField names name v n)
    (hw : HasField names name w n) : v = w := by
  cases hv with
  | member before after hbefore hafter =>
    generalize hn : Node.object (before ++ (some name, v) :: after) = n at hw
    cases hw with
    | member before' after' =>
      injection hn with hn
      have hmem : (some name, w) ∈ before ++ (some name, v) :: after := by
        rw [hn]
        exact List.mem_append_right _ List.mem_cons_self
      rcases List.mem_append.mp hmem with hmem | hmem
      · exact absurd rfl (hbefore _ hmem)
      rcases List.mem_cons.mp hmem with heq | hmem
      · exact (Prod.mk.inj heq).2.symm
      · exact absurd rfl (hafter _ hmem)
    | item => cases hn
  | item place items hname hitem =>
    cases hw with
    | item place' _ hname' hitem' =>
      obtain ⟨hlt, -⟩ := List.getElem?_eq_some_iff.mp hname
      have hplace : place = place' :=
        (List.getElem?_inj hlt hnames).mp (hname.trans hname'.symm)
      subst hplace
      exact Option.some.inj (hitem.symm.trans hitem')

/-- A field of a document that fits, fits. -/
theorem HasField.fits {n : Node} (h : HasField names name v n) (hn : n.Fits) : v.Fits := by
  cases h with
  | member before after hbefore hafter =>
    cases hn with
    | object inner => exact inner _ (List.mem_append_right _ List.mem_cons_self)
  | item place items hname hitem =>
    cases hn with
    | array inner => exact inner v (List.mem_of_getElem? hitem)

end Records

/-! ### Fields, lists and maps -/

section Fields

variable {α : Type} {read : Decoder α} {write : α → Value} {P : α → Prop} {r : Record}
variable {name : String} {default : α}

/-- A field with a default is the default or is read. -/
theorem of_optional {a : α} (h : Source.optional r name read default = some a) :
    a = default ∨ ∃ n, r.lookup name = some n ∧ read n = some a := by
  unfold Source.optional at h
  split at h
  · next n hn => exact .inr ⟨n, hn, h⟩
  · exact .inl (Option.some.inj h).symm

theorem of_required {a : α} (h : Source.required r name read = some a) :
    ∃ n, r.lookup name = some n ∧ read n = some a :=
  Option.bind_eq_some_iff.mp h

/-- A field that is read, or else has a default, has the property if the default has it. -/
theorem Undoes.of_optional (h : Undoes read write P) (hdefault : P default) {names : List String}
    {n : Node} (hn : n.Fits) (hr : Record.read names n = some r) (hname : name ∈ names) {a : α}
    (ha : Source.optional r name read default = some a) : P a := by
  obtain rfl | ⟨m, hm, hread⟩ := Json.of_optional ha
  · exact hdefault
  · exact h.sound m a ((hasField_of_read hname hr hm).fits hn) hread

theorem Undoes.of_required (h : Undoes read write P) {names : List String} {n : Node}
    (hn : n.Fits) (hr : Record.read names n = some r) (hname : name ∈ names) {a : α}
    (ha : Source.required r name read = some a) : P a := by
  obtain ⟨m, hm, hread⟩ := Json.of_required ha
  exact h.sound m a ((hasField_of_read hname hr hm).fits hn) hread

theorem Undoes.list (h : Undoes read write P) :
    Undoes (Source.list read) (fun as => .array (as.map write)) fun as => ∀ a ∈ as, P a where
  back as hall := by
    have hitems : (Value.array (as.map write)).toNode =
        .array (as.map fun a => (write a).toNode) := by
      rw [Value.toNode, Value.toItems_eq, List.map_map]
      rfl
    rw [hitems]
    show (as.map fun a => (write a).toNode).mapM read = some as
    rw [mapM_eq_some_iff, List.map_map]
    exact List.map_congr_left fun a ha => h.back a (hall a ha)
  sound n as hn hread a ha := by
    obtain ⟨items, hitems, hread⟩ := Option.bind_eq_some_iff.mp hread
    obtain ⟨m, hm, hma⟩ := exists_of_mem_mapM hread ha
    cases hn with
    | array inner =>
      cases hitems
      exact h.sound m a (inner m hm) hma
    | _ => cases hitems

/-- A map is written in its order, and read back in it. -/
theorem Undoes.map (h : Undoes read write P) :
    Undoes (Source.map read) (.ofMap write) fun o => ∀ a ∈ o.values, P a where
  back o hall := by
    have hmembers : membersOf (Value.ofMap write o).toNode =
        some (o.entries.map fun e => (e.1, (write e.2).toNode)) := by
      rw [Value.ofMap, Value.toNode, Value.toMembers_eq, List.map_map]
      show (List.map _ o.entries).mapM
        (fun m : Option String × Node => m.1.map fun k => (k, m.2)) = _
      rw [mapM_eq_some_iff, List.map_map, List.map_map]
      rfl
    have hvalues : (o.entries.map fun e => (e.1, (write e.2).toNode)).mapM
        (fun m => (read m.2).map fun a => (m.1, a)) = some o.entries := by
      rw [mapM_eq_some_iff, List.map_map]
      refine List.map_congr_left fun e he => ?_
      show (read (write e.2).toNode).map _ = _
      rw [h.back e.2 (hall e.2 (List.mem_map_of_mem he))]
      rfl
    show (membersOf (Value.ofMap write o).toNode >>= _) = _
    rw [hmembers]
    rw [Option.bind_eq_bind, Option.bind_some, hvalues]
    exact congrArg some (Ordered.ext (Ordered.entries_ofList o.distinct))
  sound n o hn hread := by
    obtain ⟨members, hmembers, hread⟩ := Option.bind_eq_some_iff.mp hread
    obtain ⟨es, hes, hread⟩ := Option.bind_eq_some_iff.mp hread
    cases hread
    refine Ordered.forall_values_ofList fun e he => ?_
    obtain ⟨m, hm, hme⟩ := exists_of_mem_mapM hes he
    obtain ⟨a, ha, rfl⟩ := Option.map_eq_some_iff.mp hme
    cases hn with
    | object inner =>
      obtain ⟨m', hm', hmm⟩ := exists_of_mem_mapM hmembers hm
      obtain ⟨k, -, rfl⟩ := Option.map_eq_some_iff.mp hmm
      exact h.sound m'.2 a (inner m' hm') ha
    | _ => cases hmembers

end Fields

/-! ### What is made of values -/

namespace Value

variable {α : Type} {f : α → Value} {o : Ordered α} {room : Nat} {x : Float}

theorem fits_ofInt {i : Int} (low : Number.minInt64 ≤ i) (high : i ≤ Number.maxUInt64) :
    (ofInt i).Fits room := by
  unfold Number.minInt64 at low
  unfold Number.maxUInt64 at high
  exact .int (by omega) (by omega)

theorem fits_ofMap (h : ∀ a ∈ o.values, (f a).Fits room) : (ofMap f o).Fits (room + 1) := by
  refine .object ?_ ?_
  · rw [List.map_map]
    exact o.distinct
  · intro m hm
    obtain ⟨e, he, rfl⟩ := List.mem_map.mp hm
    exact h e.2 (List.mem_map_of_mem he)

theorem ofMap_map {β : Type} (g : β → α) (o : Ordered β) :
    ofMap f (o.map g) = ofMap (fun b => f (g b)) o := by
  unfold ofMap Ordered.map
  rw [List.map_map]
  rfl

theorem member?_eq_some_iff {k : String} {v w : Value} :
    v.member? k = some w ↔ ∃ members, v = .object members ∧ members.lookup k = some w := by
  cases v <;> simp [member?]

theorem text?_eq_some_iff {v : Value} {s : String} : v.text? = some s ↔ v = .text s := by
  cases v <;> simp [text?]

/-- A double in an array stands in one of its items. -/
theorem float_mem_array {items : List Value} :
    .number (.float x) ∈ Value.array items :: (Value.array items).parts ↔
      ∃ v ∈ items, .number (.float x) ∈ v :: v.parts := by
  simp

theorem float_mem_object {members : List (String × Value)} :
    .number (.float x) ∈ Value.object members :: (Value.object members).parts ↔
      ∃ m ∈ members, .number (.float x) ∈ m.2 :: m.2.parts := by
  simp

theorem float_mem_ofMap (h : .number (.float x) ∈ ofMap f o :: (ofMap f o).parts) :
    ∃ a ∈ o.values, .number (.float x) ∈ f a :: (f a).parts := by
  obtain ⟨m, hm, hx⟩ := float_mem_object.mp h
  obtain ⟨e, he, rfl⟩ := List.mem_map.mp hm
  exact ⟨e.2, List.mem_map_of_mem he, hx⟩

end Value

end SearchGateway.Json
