import SearchGateway.Ordered
import SearchGateway.Proofs.Json.Numbers

/-!
# The parts of a value

What stands in the arrays and objects of a value, at any depth, and what is known of a value
that has been read from a text: it nests only so deep, the names within an object differ, and
whole numbers fit into 64 bits.

    Value.parts v                                       elements and members, at any depth
    Value.Fits room v                                   a value as it is read
    Value.read text = .ok v → v.Fits maxDepth           (fits_of_read)
-/

namespace SearchGateway.Json

/-! ## Parts -/

namespace Value

/-- What passes from the elements of every array to it, and from the values of the members of
every object to it, holds of all values. -/
theorem induction {P : Value → Prop} (null : P .null) (bool : ∀ b, P (.bool b))
    (number : ∀ n, P (.number n)) (text : ∀ s, P (.text s))
    (array : ∀ items, (∀ v ∈ items, P v) → P (.array items))
    (object : ∀ members, (∀ m ∈ members, P m.2) → P (.object members)) (v : Value) : P v := by
  refine @Value.rec P (fun items => ∀ v ∈ items, P v) (fun members => ∀ m ∈ members, P m.2)
    (fun m => P m.2) null bool number text array object ?_ ?_ ?_ ?_ (fun _ _ h => h) v
  · intro v hv
    cases hv
  · intro v r hv hr w hw
    rcases List.mem_cons.mp hw with rfl | hw
    · exact hv
    · exact hr w hw
  · intro m hm
    cases hm
  · intro m r hm hr w hw
    rcases List.mem_cons.mp hw with rfl | hw
    · exact hm
    · exact hr w hw

mutual

/-- The elements of arrays and the values of members that stand in a value, at any depth, in the
order of the text; the value itself is none of them. -/
def parts : Value → List Value
  | .array items => partsOfItems items
  | .object members => partsOfMembers members
  | _ => []

def partsOfItems : List Value → List Value
  | [] => []
  | v :: r => v :: (parts v ++ partsOfItems r)

def partsOfMembers : List (String × Value) → List Value
  | [] => []
  | (_, v) :: r => v :: (parts v ++ partsOfMembers r)

end

@[simp]
theorem parts_array (items : List Value) :
    (Value.array items).parts = items.flatMap fun v => v :: v.parts := by
  show partsOfItems items = _
  induction items with
  | nil => rfl
  | cons v r ih => rw [partsOfItems, ih, List.flatMap_cons, List.cons_append]

@[simp]
theorem parts_object (members : List (String × Value)) :
    (Value.object members).parts = members.flatMap fun m => m.2 :: m.2.parts := by
  show partsOfMembers members = _
  induction members with
  | nil => rfl
  | cons m r ih => rw [partsOfMembers, ih, List.flatMap_cons, List.cons_append]

/-! ## Values that are read -/

/-- A value that nests at most `room` deep, with distinct names in each object and whole numbers
of 64 bits, signed or not. -/
inductive Fits : Nat → Value → Prop
  | null {room : Nat} : Fits room .null
  | bool {room : Nat} {b : Bool} : Fits room (.bool b)
  | int {room : Nat} {i : Int} (low : -2 ^ 63 ≤ i) (high : i < 2 ^ 64) : Fits room (.number (.int i))
  | float {room : Nat} {x : Float} : Fits room (.number (.float x))
  | text {room : Nat} {s : String} : Fits room (.text s)
  | array {room : Nat} {items : List Value} (inner : ∀ v ∈ items, Fits room v) :
      Fits (room + 1) (.array items)
  | object {room : Nat} {members : List (String × Value)}
      (distinct : (members.map Prod.fst).Nodup) (inner : ∀ m ∈ members, Fits room m.2) :
      Fits (room + 1) (.object members)

end Value

/-- A document as written whose whole numbers fit into 64 bits, signed or not. -/
inductive Node.Fits : Node → Prop
  | null : Fits .null
  | bool {b : Bool} : Fits (.bool b)
  | number {n : Option Number} (whole : ∀ i, n = some (.int i) → -2 ^ 63 ≤ i ∧ i < 2 ^ 64) :
      Fits (.number n)
  | text {s : Option String} : Fits (.text s)
  | array {items : List Node} (inner : ∀ n ∈ items, Fits n) : Fits (.array items)
  | object {members : List (Option String × Node)} (inner : ∀ m ∈ members, Fits m.2) :
      Fits (.object members)

/-! ## Lemmas -/

/-! ### Documents -/

theorem fits_of_readNumber {mode : Mode} {negative : Bool} {cs r : List Char} {x : Node}
    (h : readNumber mode negative cs = .ok (x, r)) : x.Fits := by
  obtain ⟨w, rfl⟩ := eq_value?_of_readNumber h
  exact .number fun i hi => int_of_value? hi

theorem eq_of_readWord {x y : Node} {ws cs r : List Char} (h : readWord x ws cs = .ok (y, r)) :
    y = x := by
  induction ws generalizing cs with
  | nil =>
    cases h
    rfl
  | cons w ws ih =>
    cases cs with
    | nil => cases h
    | cons c cs =>
      rw [readWord] at h
      split at h
      · exact ih h
      · cases h

/-- Whatever is read within `n` steps fits, be it a value, items or members. -/
structure FittingWithin (mode : Mode) (n : Nat) : Prop where
  node : ∀ {room cs x r}, readNode mode room n cs = .ok (x, r) → x.Fits
  items : ∀ {room first cs xs r}, readItems mode room n first cs = .ok (xs, r) →
    ∀ x ∈ xs, x.Fits
  members : ∀ {room first cs ms r}, readMembers mode room n first cs = .ok (ms, r) →
    ∀ m ∈ ms, m.2.Fits

section

variable {mode : Mode} {n room : Nat} {first : Bool} {cs r : List Char}

theorem fits_of_readNode (ih : FittingWithin mode n) {x : Node}
    (h : readNode mode room (n + 1) cs = .ok (x, r)) : x.Fits := by
  rw [readNode] at h
  split at h
  · cases h
  -- one case for each character that a value can begin with
  split at h
  · rw [eq_of_readWord h]
    exact .null
  split at h
  · rw [eq_of_readWord h]
    exact .bool
  split at h
  · rw [eq_of_readWord h]
    exact .bool
  split at h
  · exact fits_of_readNumber h
  split at h
  · exact fits_of_readNumber h
  split at h
  · obtain ⟨_, -, hx⟩ := of_map_eq_ok h
    cases hx
    exact .text
  split at h
  · split at h
    · cases h
    split at h
    · obtain ⟨_, hxs, hx⟩ := of_map_eq_ok h
      cases hx
      exact .array (ih.items hxs)
    · obtain ⟨_, hms, hx⟩ := of_map_eq_ok h
      cases hx
      exact .object (ih.members hms)
  · cases h

theorem fits_of_readItems (ih : FittingWithin mode n) {xs : List Node}
    (h : readItems mode room (n + 1) first cs = .ok (xs, r)) : ∀ x ∈ xs, x.Fits := by
  rw [readItems] at h
  split at h
  · cases h
  · cases h
    intro x hx
    cases hx
  · split at h
    · cases h
    · next x rest hx =>
      obtain ⟨_, hys, heq⟩ := of_map_eq_ok h
      cases heq
      intro y hy
      rcases List.mem_cons.mp hy with rfl | hy
      · exact ih.node hx
      · exact ih.items hys y hy

theorem fits_of_readMembers (ih : FittingWithin mode n) {ms : List (Option String × Node)}
    (h : readMembers mode room (n + 1) first cs = .ok (ms, r)) : ∀ m ∈ ms, m.2.Fits := by
  rw [readMembers] at h
  split at h
  · cases h
  · cases h
    intro m hm
    cases hm
  · split at h
    · cases h
    · split at h
      · cases h
      · next x rest hx =>
        obtain ⟨_, hks, heq⟩ := of_map_eq_ok h
        cases heq
        intro m hm
        rcases List.mem_cons.mp hm with rfl | hm
        · exact ih.node hx
        · exact ih.members hks m hm

end

/-- What is read fits, by induction on the steps allowed. -/
theorem fittingWithin (mode : Mode) (n : Nat) : FittingWithin mode n := by
  induction n with
  | zero =>
    constructor
    -- no step is left for any of the three
    all_goals
      intros
      contradiction
  | succ n ih => exact ⟨fits_of_readNode ih, fits_of_readItems ih, fits_of_readMembers ih⟩

theorem fits_of_readAll {mode : Mode} {cs : List Char} {x : Node} (h : readAll mode cs = .ok x) :
    x.Fits := by
  obtain ⟨⟨y, r⟩, hy, h⟩ := of_bind_eq_ok h
  simp only at h
  split at h
  · cases h
    exact (fittingWithin mode _).node hy
  · cases h

/-! ### What documents mean -/

namespace Value

theorem setMember_eq_alter (k : String) (v : Value) (ms : List (String × Value)) :
    setMember k v ms = Entries.alter k (fun _ => v) ms := by
  induction ms with
  | nil => rfl
  | cons m r ih =>
    obtain ⟨k', w⟩ := m
    rw [setMember, Entries.alter, ih]

theorem mem_of_mem_setMember {k : String} {v : Value} {ms : List (String × Value)}
    {m : String × Value} (h : m ∈ setMember k v ms) : m.2 = v ∨ m ∈ ms := by
  induction ms with
  | nil =>
    have hm : m = (k, v) := by simpa [setMember] using h
    exact .inl (by rw [hm])
  | cons e r ih =>
    obtain ⟨k', w⟩ := e
    rw [setMember] at h
    split at h
    · rcases List.mem_cons.mp h with rfl | h
      · exact .inl rfl
      · exact .inr (List.mem_cons_of_mem _ h)
    · rcases List.mem_cons.mp h with rfl | h
      · exact .inr List.mem_cons_self
      · rcases ih h with h | h
        · exact .inl h
        · exact .inr (List.mem_cons_of_mem _ h)

theorem fits_of_ofItems? {room : Nat} {nodes : List Node}
    (hnodes : ∀ n ∈ nodes, ∀ v, ofNode? room n = some v → v.Fits room) :
    ∀ {vs : List Value}, ofItems? room nodes = some vs → ∀ v ∈ vs, v.Fits room := by
  induction nodes with
  | nil =>
    intro vs h v hv
    cases h
    cases hv
  | cons n r ih =>
    intro vs h v hv
    rw [ofItems?] at h
    split at h
    · next w ws hw hws =>
      cases h
      rcases List.mem_cons.mp hv with rfl | hv
      · exact hnodes n List.mem_cons_self v hw
      · exact ih (fun m hm => hnodes m (List.mem_cons_of_mem n hm)) hws v hv
    · cases h

theorem fits_of_ofMembers? {room : Nat} {nodes : List (Option String × Node)}
    (hnodes : ∀ m ∈ nodes, ∀ v, ofNode? room m.2 = some v → v.Fits room) :
    ∀ {done ms : List (String × Value)}, (done.map Prod.fst).Nodup →
      (∀ m ∈ done, m.2.Fits room) → ofMembers? room done nodes = some ms →
      (ms.map Prod.fst).Nodup ∧ ∀ m ∈ ms, m.2.Fits room := by
  induction nodes with
  | nil =>
    intro done ms hdistinct hdone h
    cases h
    exact ⟨hdistinct, hdone⟩
  | cons e r ih =>
    obtain ⟨k, n⟩ := e
    intro done ms hdistinct hdone h
    unfold ofMembers? at h
    cases k with
    | none => cases h
    | some k =>
      cases hv : ofNode? room n with
      | none =>
        rw [hv] at h
        cases h
      | some v =>
        rw [hv] at h
        refine ih (fun m hm => hnodes m (List.mem_cons_of_mem _ hm)) ?_ (fun m hm => ?_) h
        · rw [setMember_eq_alter]
          exact Entries.nodup_alter hdistinct
        · rcases mem_of_mem_setMember hm with hm | hm
          · rw [hm]
            exact hnodes _ List.mem_cons_self v hv
          · exact hdone m hm

theorem fits_of_ofNode? {n : Node} (hn : n.Fits) :
    ∀ {room : Nat} {v : Value}, ofNode? room n = some v → v.Fits room := by
  induction hn with
  | null =>
    intro room v h
    cases h
    exact .null
  | bool =>
    intro room v h
    cases h
    exact .bool
  | @number n whole =>
    intro room v h
    obtain ⟨m, hm, rfl⟩ := Option.map_eq_some_iff.mp h
    cases m with
    | int i => exact .int (whole i hm).1 (whole i hm).2
    | float x => exact .float
  | text =>
    intro room v h
    obtain ⟨s, -, rfl⟩ := Option.map_eq_some_iff.mp h
    exact .text
  | array inner ih =>
    intro room v h
    cases room with
    | zero => cases h
    | succ room =>
      obtain ⟨vs, hvs, rfl⟩ := Option.map_eq_some_iff.mp h
      exact .array (fits_of_ofItems? (fun n hn v hv => ih n hn hv) hvs)
  | object inner ih =>
    intro room v h
    cases room with
    | zero => cases h
    | succ room =>
      obtain ⟨ms, hms, rfl⟩ := Option.map_eq_some_iff.mp h
      obtain ⟨hdistinct, hfits⟩ := fits_of_ofMembers? (fun m hm v hv => ih m hm hv)
        (show (([] : List (String × Value)).map Prod.fst).Nodup from List.nodup_nil) (fun m hm => absurd hm List.not_mem_nil) hms
      exact .object hdistinct hfits

/-- **A value that has been read fits**: it nests at most `maxDepth` deep, the names in each of
its objects differ, and its whole numbers have 64 bits. -/
theorem fits_of_read {text : String} {v : Value} (h : Value.read text = .ok v) :
    v.Fits maxDepth := by
  unfold Value.read at h
  split at h
  · cases h
  · next x hx =>
    split at h
    · next w hw =>
      cases h
      exact fits_of_ofNode? (fits_of_readAll hx) hw
    · cases h

end Value

end SearchGateway.Json
