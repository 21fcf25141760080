/-!
# Rosters

Things that carry a name, kept in the order of their names, one for each name.
Names compare by code point, which is also the order of their octets.

    Roster.insert          adds a thing; one of the same name is replaced
    Roster.find?           the thing of a name
    Roster.find?_insert    looking up after an insertion
-/

namespace SearchGateway

/-- Things in the order of their names, no name twice. -/
structure Roster (α : Type) (name : α → String) where
  items : List α
  sorted : items.Pairwise fun a b => name a < name b

namespace Roster

variable {α : Type} {name : α → String}

/-! ## Algorithm -/

/-- Puts a thing where its name belongs; one of the same name gives way. -/
def place (name : α → String) (a : α) : List α → List α
  | [] => [a]
  | b :: r =>
    if name a < name b then a :: b :: r
    else if name a = name b then a :: r
    else b :: place name a r

/-! ## Lemmas -/

theorem mem_of_mem_place {a x : α} {l : List α} (h : x ∈ place name a l) : x = a ∨ x ∈ l := by
  induction l with
  | nil => simpa [place] using h
  | cons b r ih =>
    simp only [place] at h
    split at h
    · simpa using h
    · split at h
      · rcases List.mem_cons.mp h with h | h
        · exact .inl h
        · exact .inr (List.mem_cons_of_mem _ h)
      · rcases List.mem_cons.mp h with h | h
        · exact .inr (h ▸ List.mem_cons_self)
        · rcases ih h with h | h
          · exact .inl h
          · exact .inr (List.mem_cons_of_mem _ h)

theorem pairwise_place {a : α} {l : List α} (h : l.Pairwise fun x y => name x < name y) :
    (place name a l).Pairwise fun x y => name x < name y := by
  induction l with
  | nil => simp [place]
  | cons b r ih =>
    rw [List.pairwise_cons] at h
    simp only [place]
    split
    · next hab =>
      refine List.pairwise_cons.mpr ⟨?_, List.pairwise_cons.mpr h⟩
      intro x hx
      rcases List.mem_cons.mp hx with rfl | hx
      · exact hab
      · exact String.lt_trans hab (h.1 x hx)
    · split
      · next hab =>
        exact List.pairwise_cons.mpr ⟨fun x hx => hab ▸ h.1 x hx, h.2⟩
      · next hlt hne =>
        refine List.pairwise_cons.mpr ⟨?_, ih h.2⟩
        intro x hx
        rcases mem_of_mem_place hx with rfl | hx
        · exact Decidable.byContradiction fun hba =>
            hne (String.le_antisymm hba hlt)
        · exact h.1 x hx

/-! ## The roster -/

def empty : Roster α name := ⟨[], .nil⟩

instance : Inhabited (Roster α name) := ⟨empty⟩

/-- Adds a thing; one of the same name is replaced. -/
def insert (r : Roster α name) (a : α) : Roster α name :=
  ⟨place name a r.items, pairwise_place r.sorted⟩

/-- The thing of a name. -/
def find? (r : Roster α name) (k : String) : Option α := r.items.find? fun a => name a == k

def contains (r : Roster α name) (k : String) : Bool := (r.find? k).isSome

def size (r : Roster α name) : Nat := r.items.length

/-- Things inserted one after the other; of two of one name the last stays. -/
def ofList (l : List α) : Roster α name := l.foldl insert empty

theorem find?_place {a : α} {l : List α} (k : String)
    (h : l.Pairwise fun x y => name x < name y) :
    (place name a l).find? (fun x => name x == k) =
      if name a = k then some a else l.find? (fun x => name x == k) := by
  induction l with
  | nil => by_cases hk : name a = k <;> simp [place, hk]
  | cons b r ih =>
    rw [List.pairwise_cons] at h
    simp only [place]
    split
    · by_cases hk : name a = k <;> simp [List.find?_cons, hk]
    · split
      · next hab =>
        by_cases hk : name a = k
        · simp [hk]
        · have hb : ¬ name b = k := hab ▸ hk
          simp [hk, hb]
      · next hab =>
        by_cases hk : name a = k
        · have hb : ¬ name b = k := fun e => hab (hk.trans e.symm)
          simp [hk, hb, ih h.2]
        · simp [List.find?_cons, hk, ih h.2]

theorem find?_insert (r : Roster α name) (a : α) (k : String) :
    (r.insert a).find? k = if name a = k then some a else r.find? k :=
  find?_place k r.sorted

/-- Every thing in a roster is found under its name. -/
theorem find?_of_mem {r : Roster α name} {a : α} (h : a ∈ r.items) :
    r.find? (name a) = some a := by
  obtain ⟨l, hl⟩ := r
  unfold find?
  induction l with
  | nil => cases h
  | cons b l ih =>
    rw [List.pairwise_cons] at hl
    rcases List.mem_cons.mp h with rfl | h
    · simp
    · have hb : name b ≠ name a := fun e => String.lt_irrefl _ (e ▸ hl.1 a h)
      rw [List.find?_cons_of_neg (by simpa using hb)]
      exact ih hl.2 h

theorem name_of_find? {r : Roster α name} {k : String} {a : α} (h : r.find? k = some a) :
    name a = k := by
  simpa using List.find?_some h

end Roster

/-- A set of names. -/
abbrev Names := Roster String id

end SearchGateway
