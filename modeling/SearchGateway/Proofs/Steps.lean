/-!
# Steps that can fail

What is done in steps succeeds only if every step does, and then each of them has left a result.

    of_bind_eq_ok        one step after the other
    of_map_eq_ok         a result that is changed
    of_mapError_eq_ok    a step whose error is told in other words
    mapM_eq_some_iff     a step for each item of a list
    Heeds x es P         it fails with the first of some complaints, or there are none
-/

namespace SearchGateway

variable {ε ε' α β : Type} {x : Except ε α}

/-- What succeeds has succeeded so far. -/
theorem of_bind_eq_ok {f : α → Except ε β} {b : β} (h : (x >>= f) = .ok b) :
    ∃ a, x = .ok a ∧ f a = .ok b := by
  cases x with
  | error e => cases h
  | ok a => exact ⟨a, rfl, h⟩

theorem of_map_eq_ok {f : α → β} {b : β} (h : x.map f = .ok b) : ∃ a, x = .ok a ∧ f a = b := by
  cases x with
  | error e => cases h
  | ok a =>
    cases h
    exact ⟨a, rfl, rfl⟩

theorem of_mapError_eq_ok {f : ε → ε'} {a : α} (h : x.mapError f = .ok a) : x = .ok a := by
  cases x with
  | error e => cases h
  | ok a' =>
    cases h
    rfl

/-- What is done for each item succeeds if it does for every one of them. -/
theorem mapM_eq_some_iff {f : α → Option β} {l : List α} {bs : List β} :
    l.mapM f = some bs ↔ l.map f = bs.map some := by
  induction l generalizing bs with
  | nil => cases bs <;> simp
  | cons a r ih =>
    rw [List.mapM_cons, List.map_cons]
    cases ha : f a with
    | none => cases bs <;> simp
    | some b =>
      cases bs with
      | nil => simp [Option.bind_eq_some_iff]
      | cons b' bs =>
        simp only [Option.bind_eq_bind, Option.bind_some, Option.bind_eq_some_iff, ih,
          Option.pure_def, Option.some.injEq, List.map_cons, List.cons.injEq]
        constructor
        · rintro ⟨cs, hcs, rfl, rfl⟩
          exact ⟨rfl, hcs⟩
        · rintro ⟨rfl, hbs⟩
          exact ⟨bs, hbs, rfl, rfl⟩

/-- Every result is that of an item. -/
theorem exists_of_mem_mapM {f : α → Option β} {l : List α} {bs : List β} {b : β}
    (h : l.mapM f = some bs) (hb : b ∈ bs) : ∃ a ∈ l, f a = some b := by
  have hmem : some b ∈ l.map f := by
    rw [mapM_eq_some_iff.mp h]
    exact List.mem_map_of_mem hb
  exact List.mem_map.mp hmem

/-! ## Complaints -/

/-- What is done in steps fails with the first of the complaints that there are; where there are
none, it succeeds, with a result as it should be. -/
def Heeds (x : Except ε α) (complaints : List ε) (P : α → Prop) : Prop :=
  match x with
  | .ok a => complaints = [] ∧ P a
  | .error e => complaints.head? = some e

namespace Heeds

variable {P : α → Prop} {es : List ε}

theorem ok {a : α} (h : P a) : Heeds (.ok a : Except ε α) [] P := ⟨rfl, h⟩

theorem error (e : ε) (es : List ε) : Heeds (.error e : Except ε α) (e :: es) P := rfl

theorem mono {Q : α → Prop} (h : Heeds x es P) (hPQ : ∀ a, P a → Q a) : Heeds x es Q := by
  cases x with
  | error e => exact h
  | ok a => exact ⟨h.1, hPQ a h.2⟩

/-- The complaints about one step, then those about the next. -/
theorem bind {f : α → Except ε β} {es' : List ε} {Q : β → Prop} (h : Heeds x es P)
    (hf : ∀ a, P a → Heeds (f a) es' Q) : Heeds (x >>= f) (es ++ es') Q := by
  cases x with
  | error e =>
    have hhead : es.head? = some e := h
    show (es ++ es').head? = some e
    rw [List.head?_append, hhead]
    rfl
  | ok a =>
    obtain ⟨rfl, ha⟩ := h
    exact hf a ha

theorem map {f : α → β} {Q : β → Prop} (h : Heeds x es P) (hf : ∀ a, P a → Q (f a)) :
    Heeds (x >>= fun a => pure (f a)) es Q := by
  have hbind := h.bind fun a ha => Heeds.ok (hf a ha)
  rwa [List.append_nil] at hbind

end Heeds

end SearchGateway
