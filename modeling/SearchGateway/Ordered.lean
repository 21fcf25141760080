/-!
# Maps that remember insertion order

A map from names to values that iterates in the order in which its names were
first inserted.  Replacing a value keeps the position, erasing closes the gap, and
a name that comes back after an erasure goes last.

    Entries.put, Entries.drop       the operations on the plain list of pairs
    Ordered                         such a list whose names are distinct
    Ordered.find?_insert            looking up after an insertion
    Ordered.keys_insert             where an inserted name stands
-/

namespace SearchGateway

/-! ## Pairs in order -/

namespace Entries

variable {β : Type}

def keys (es : List (String × β)) : List String := es.map Prod.fst

/-- The value under a name. -/
def find? (k : String) : List (String × β) → Option β
  | [] => none
  | (k', v) :: r => if k' = k then some v else find? k r

/-- Replaces the value in place; a new name goes last. -/
def put (k : String) (v : β) : List (String × β) → List (String × β)
  | [] => [(k, v)]
  | (k', w) :: r => if k' = k then (k', v) :: r else (k', w) :: put k v r

/-- Changes the value under a name; a missing name goes last, with the value made of nothing. -/
def alter (k : String) (f : Option β → β) : List (String × β) → List (String × β)
  | [] => [(k, f none)]
  | (k', w) :: r => if k' = k then (k', f (some w)) :: r else (k', w) :: alter k f r

def drop (k : String) (es : List (String × β)) : List (String × β) :=
  es.filter fun e => e.1 ≠ k

/-- Visits the values in order; the names stay as they are. -/
def traverse {m : Type → Type} [Monad m] {γ : Type} (f : β → m γ) :
    (es : List (String × β)) → m { es' : List (String × γ) // keys es' = keys es }
  | [] => pure ⟨[], rfl⟩
  | (k, v) :: r => do
    let w ← f v
    let ⟨r', h⟩ ← traverse f r
    pure ⟨(k, w) :: r', by simpa [keys] using h⟩

/-! ## Lemmas -/

theorem keys_alter (k : String) (f : Option β → β) (es : List (String × β)) :
    keys (alter k f es) = if k ∈ keys es then keys es else keys es ++ [k] := by
  induction es with
  | nil => simp [alter, keys]
  | cons e r ih =>
    obtain ⟨k', w⟩ := e
    simp only [keys] at ih ⊢
    by_cases h : k' = k
    · simp [alter, h]
    · have h' : k ≠ k' := fun e => h e.symm
      simp only [alter, h, if_false, List.map_cons, ih, List.mem_cons, h', false_or]
      split <;> simp_all

theorem find?_alter (k k' : String) (f : Option β → β) (es : List (String × β)) :
    find? k' (alter k f es) = if k' = k then some (f (find? k es)) else find? k' es := by
  induction es with
  | nil =>
    by_cases h : k' = k
    · simp [alter, find?, h]
    · simp [alter, find?, h, Ne.symm h]
  | cons e r ih =>
    obtain ⟨j, w⟩ := e
    by_cases hj : j = k
    · subst hj
      by_cases h : k' = j
      · simp [alter, find?, h]
      · simp [alter, find?, h, Ne.symm h]
    · simp only [alter, hj, if_false, find?, ih]
      by_cases h : k' = k
      · subst h; simp [hj]
      · simp [h]

theorem nodup_alter {k : String} {f : Option β → β} {es : List (String × β)}
    (h : (keys es).Nodup) : (keys (alter k f es)).Nodup := by
  rw [keys_alter]
  split
  · exact h
  · next hk => exact List.nodup_append.mpr ⟨h, by simp, by simp; intro a ha e; exact hk (e ▸ ha)⟩

theorem nodup_drop {k : String} {es : List (String × β)} (h : (keys es).Nodup) :
    (keys (drop k es)).Nodup :=
  h.sublist (List.filter_sublist.map Prod.fst)

end Entries

/-! ## The map -/

/-- A map that iterates in insertion order; no name occurs twice. -/
structure Ordered (β : Type) where
  entries : List (String × β)
  distinct : (Entries.keys entries).Nodup

namespace Ordered

variable {β : Type}

instance [DecidableEq β] : DecidableEq (Ordered β) := fun a b =>
  if h : a.entries = b.entries then
    isTrue (by cases a; cases b; simp_all)
  else isFalse fun e => h (by rw [e])

instance [Repr β] : Repr (Ordered β) where
  reprPrec m p := reprPrec m.entries p

def empty : Ordered β := ⟨[], List.nodup_nil⟩

instance : Inhabited (Ordered β) := ⟨empty⟩

def keys (m : Ordered β) : List String := Entries.keys m.entries

def values (m : Ordered β) : List β := m.entries.map Prod.snd

def size (m : Ordered β) : Nat := m.entries.length

def find? (m : Ordered β) (k : String) : Option β := Entries.find? k m.entries

def contains (m : Ordered β) (k : String) : Bool := (m.find? k).isSome

/-- Changes the value under a name; a missing name goes last. -/
def alter (m : Ordered β) (k : String) (f : Option β → β) : Ordered β :=
  ⟨Entries.alter k f m.entries, Entries.nodup_alter m.distinct⟩

/-- Replaces the value in place; a new name goes last. -/
def insert (m : Ordered β) (k : String) (v : β) : Ordered β := m.alter k fun _ => v

/-- Removes a name; the rest keep their order. -/
def erase (m : Ordered β) (k : String) : Ordered β :=
  ⟨Entries.drop k m.entries, Entries.nodup_drop m.distinct⟩

/-- The pairs inserted one after the other. -/
def ofList (es : List (String × β)) : Ordered β :=
  es.foldl (fun m e => m.insert e.1 e.2) empty

/-- Applies a function to every value. -/
def map {γ : Type} (f : β → γ) (m : Ordered β) : Ordered γ where
  entries := m.entries.map fun e => (e.1, f e.2)
  distinct := by
    have h := m.distinct
    simpa [Entries.keys, List.map_map, Function.comp_def] using h

/-- Visits the values in order; the names stay as they are. -/
def traverse {m : Type → Type} [Monad m] {γ : Type} (f : β → m γ) (o : Ordered β) :
    m (Ordered γ) := do
  let ⟨es, h⟩ ← Entries.traverse f o.entries
  pure ⟨es, h ▸ o.distinct⟩

/-! ## Lemmas -/

@[ext] theorem ext {a b : Ordered β} (h : a.entries = b.entries) : a = b := by
  cases a; cases b; simp_all

theorem keys_alter (m : Ordered β) (k : String) (f : Option β → β) :
    (m.alter k f).keys = if k ∈ m.keys then m.keys else m.keys ++ [k] :=
  Entries.keys_alter k f m.entries

theorem keys_insert (m : Ordered β) (k : String) (v : β) :
    (m.insert k v).keys = if k ∈ m.keys then m.keys else m.keys ++ [k] :=
  m.keys_alter k _

theorem find?_alter (m : Ordered β) (k k' : String) (f : Option β → β) :
    (m.alter k f).find? k' = if k' = k then some (f (m.find? k)) else m.find? k' :=
  Entries.find?_alter k k' f m.entries

theorem find?_insert (m : Ordered β) (k k' : String) (v : β) :
    (m.insert k v).find? k' = if k' = k then some v else m.find? k' :=
  m.find?_alter k k' _

end Ordered

end SearchGateway
