import SearchGateway.Params.Merger

/-!
# Parameters as pairs in order

A map that remembers insertion order is no more than its list of pairs.  Here its operations
are told on that list: what `amend` does to one name, and what `overlay` makes of working
values and forced ones, all names at once.

    (m.alter k f).entries = Entries.amend k f m.entries                    (entries_alter)
    (ofList es).entries = es, if the names differ                          (entries_ofList)
    (merged c forced m).entries = overlay c forced.entries m.entries       (entries_merged)

A merger applies the forced values one name after the other, each time to what has come out
so far; `overlay` looks at each name once.
-/

namespace SearchGateway

/-! ## One name -/

namespace Entries

variable {β : Type}

/-- Changes the value of a name where it stands; a missing name goes last. -/
def amend (k : String) (f : Option β → β) (es : List (String × β)) : List (String × β) :=
  if k ∈ keys es then es.map fun e => if e.1 = k then (k, f (some e.2)) else e
  else es ++ [(k, f none)]

theorem find?_eq_none_iff {k : String} {es : List (String × β)} :
    find? k es = none ↔ k ∉ keys es := by
  induction es with
  | nil => simp [find?, keys]
  | cons e r ih =>
    obtain ⟨k', w⟩ := e
    by_cases h : k' = k
    · simp [find?, keys, h]
    · have h' : k ≠ k' := fun e => h e.symm
      simp only [find?, h, if_false, ih]
      simp [keys, h']

theorem mem_of_find? {es : List (String × β)} {k : String} {v : β}
    (h : find? k es = some v) : (k, v) ∈ es := by
  induction es with
  | nil => cases h
  | cons e r ih =>
    obtain ⟨j, w⟩ := e
    by_cases hk : j = k
    · rw [find?, if_pos hk] at h
      cases h
      exact hk ▸ List.mem_cons_self
    · rw [find?, if_neg hk] at h
      exact List.mem_cons_of_mem _ (ih h)

/-- With distinct names every entry is the one that is found under its name. -/
theorem find?_of_mem {es : List (String × β)} (hn : (keys es).Nodup) {k : String} {v : β}
    (h : (k, v) ∈ es) : find? k es = some v := by
  induction es with
  | nil => cases h
  | cons e r ih =>
    obtain ⟨j, w⟩ := e
    obtain ⟨hj, hr⟩ := List.nodup_cons.mp hn
    rcases List.mem_cons.mp h with heq | h
    · cases heq
      exact if_pos rfl
    · have hk : k ∈ keys r := List.mem_map_of_mem h
      have hne : j ≠ k := fun heq => hj (heq ▸ hk)
      rw [find?, if_neg hne]
      exact ih hr h

/-- Where a name is missing there is nothing to change. -/
theorem map_of_notMem {k : String} {f : β → β} {es : List (String × β)} (h : k ∉ keys es) :
    es.map (fun e => if e.1 = k then (k, f e.2) else e) = es := by
  conv => rhs; rw [← List.map_id es]
  apply List.map_congr_left
  intro e he
  have hne : e.1 ≠ k := fun heq => h (heq ▸ List.mem_map_of_mem he)
  simp [hne]

theorem alter_eq_amend {k : String} {f : Option β → β} {es : List (String × β)}
    (h : (keys es).Nodup) : alter k f es = amend k f es := by
  induction es with
  | nil => simp [alter, amend, keys]
  | cons e r ih =>
    obtain ⟨k', w⟩ := e
    obtain ⟨hk', hr⟩ := List.nodup_cons.mp h
    by_cases hk : k' = k
    · subst hk
      have := map_of_notMem (f := fun w => f (some w)) (show k' ∉ keys r from hk')
      simp [alter, amend, keys, this]
    · have hne : k ≠ k' := fun e => hk e.symm
      simp only [alter, hk, if_false, ih hr, amend]
      by_cases hm : k ∈ keys r
      · have hm' : k ∈ keys ((k', w) :: r) := List.mem_cons_of_mem _ hm
        simp [hm, hm', hk]
      · have hm' : k ∉ keys ((k', w) :: r) := by
          simp only [keys, List.map_cons, List.mem_cons, not_or]
          exact ⟨hne, hm⟩
        simp [hm, hm']

/-- Pairs with distinct names are told by the order of their names and the value of each. -/
theorem eq_of_keys_of_find? {es es' : List (String × β)} (hk : keys es = keys es')
    (hn : (keys es).Nodup) (hv : ∀ k ∈ keys es, find? k es = find? k es') : es = es' := by
  induction es generalizing es' with
  | nil => cases es' <;> simp_all [keys]
  | cons e r ih =>
    obtain ⟨k, v⟩ := e
    cases es' with
    | nil => simp [keys] at hk
    | cons e' r' =>
      obtain ⟨k', v'⟩ := e'
      obtain ⟨rfl, hr⟩ : k = k' ∧ keys r = keys r' := by simpa [keys] using hk
      obtain ⟨hnk, hnr⟩ := List.nodup_cons.mp hn
      have hhead : v = v' := by
        have := hv k List.mem_cons_self
        simpa [find?] using this
      have htail : r = r' := by
        apply ih hr hnr
        intro j hj
        have hjk : k ≠ j := fun e => hnk (e ▸ hj)
        have := hv j (List.mem_cons_of_mem _ hj)
        simpa [find?, hjk] using this
      rw [hhead, htail]

theorem keys_tabulate (g : String → β) (ks : List String) :
    keys (ks.map fun k => (k, g k)) = ks := by
  simp [keys, List.map_map, Function.comp_def]

theorem find?_tabulate {g : String → β} {ks : List String} {k : String} (h : k ∈ ks) :
    find? k (ks.map fun k => (k, g k)) = some (g k) := by
  induction ks with
  | nil => cases h
  | cons j r ih =>
    by_cases hj : j = k
    · simp [find?, hj]
    · have hk : k ∈ r := by
        rcases List.mem_cons.mp h with rfl | hk
        · exact absurd rfl hj
        · exact hk
      simp only [List.map_cons, find?, hj, if_false]
      exact ih hk

end Entries

namespace Ordered

variable {β : Type}

theorem mem_entries_iff {m : Ordered β} {k : String} {v : β} :
    (k, v) ∈ m.entries ↔ m.find? k = some v :=
  ⟨Entries.find?_of_mem m.distinct, Entries.mem_of_find?⟩

theorem contains_iff {m : Ordered β} {k : String} : m.contains k = true ↔ k ∈ m.keys := by
  unfold contains find? keys
  rw [← Decidable.not_iff_not, ← Entries.find?_eq_none_iff]
  simp

theorem entries_alter (m : Ordered β) (k : String) (f : Option β → β) :
    (m.alter k f).entries = Entries.amend k f m.entries :=
  Entries.alter_eq_amend m.distinct

theorem entries_insert (m : Ordered β) (k : String) (v : β) :
    (m.insert k v).entries = Entries.amend k (fun _ => v) m.entries :=
  m.entries_alter k _

theorem map_map {γ δ : Type} (g : β → γ) (h : γ → δ) (m : Ordered β) :
    (m.map g).map h = m.map fun b => h (g b) := by
  refine ext ?_
  show (m.entries.map _).map _ = _
  rw [List.map_map]
  rfl

theorem values_map {γ : Type} (g : β → γ) (m : Ordered β) : (m.map g).values = m.values.map g := by
  unfold values map
  rw [List.map_map, List.map_map]
  rfl

/-- Pairs with new and distinct names go last, as they stand. -/
theorem entries_foldl_of_nodup {es : List (String × β)} {m : Ordered β}
    (h : (Entries.keys (m.entries ++ es)).Nodup) :
    (es.foldl (fun m e => m.insert e.1 e.2) m).entries = m.entries ++ es := by
  induction es generalizing m with
  | nil => exact (List.append_nil _).symm
  | cons e r ih =>
    have hassoc : m.entries ++ e :: r = m.entries ++ [e] ++ r := by
      rw [List.append_assoc, List.singleton_append]
    have hfresh : e.1 ∉ Entries.keys m.entries := by
      intro hmem
      rw [Entries.keys, List.map_append, List.nodup_append] at h
      exact h.2.2 e.1 hmem e.1 List.mem_cons_self rfl
    have hinsert : (m.insert e.1 e.2).entries = m.entries ++ [e] := by
      rw [entries_insert, Entries.amend, if_neg hfresh]
    rw [List.foldl_cons, ih (by rwa [hinsert, ← hassoc]), hinsert, hassoc]

theorem entries_ofList {es : List (String × β)} (h : (Entries.keys es).Nodup) :
    (ofList es).entries = es :=
  entries_foldl_of_nodup (m := empty) h

/-- Whatever holds of the values inserted holds of all. -/
theorem forall_values_ofList {P : β → Prop} {es : List (String × β)} (h : ∀ e ∈ es, P e.2) :
    ∀ v ∈ (ofList es).values, P v := by
  have hfold : ∀ (m : Ordered β), (∀ e ∈ m.entries, P e.2) →
      ∀ e ∈ (es.foldl (fun m e => m.insert e.1 e.2) m).entries, P e.2 := by
    induction es with
    | nil => exact fun m hm => hm
    | cons e r ih =>
      intro m hm
      refine ih (List.forall_mem_cons.mp h).2 _ ?_
      intro e' he'
      rw [entries_insert, Entries.amend] at he'
      split at he'
      · obtain ⟨e₀, he₀, rfl⟩ := List.mem_map.mp he'
        split
        · exact h e List.mem_cons_self
        · exact hm e₀ he₀
      · rcases List.mem_append.mp he' with he' | he'
        · exact hm e' he'
        · rw [List.mem_singleton.mp he']
          exact h e List.mem_cons_self
  intro v hv
  obtain ⟨e, he, rfl⟩ := List.mem_map.mp hv
  exact hfold empty (fun e he => absurd he List.not_mem_nil) e he

theorem entries_erase (m : Ordered β) (k : String) :
    (m.erase k).entries = m.entries.filter fun e => e.1 ≠ k := rfl

end Ordered

/-! ## Forced values -/

namespace Merger

open Entries (keys find?)

/-- The values of a name: those at work, and the forced ones after them or in their place. -/
def valuesUnder (cumulative : List String) (forced working : List (String × List String))
    (k : String) : List String :=
  match find? k forced with
  | none => (find? k working).getD []
  | some vs => if k ∈ cumulative then (find? k working).getD [] ++ vs else vs

/-- Working values under forced ones: the working names in their order, then the forced names
that are new, in theirs. -/
def overlay (cumulative : List String) (forced working : List (String × List String)) :
    List (String × List String) :=
  (keys working ++ (keys forced).filter (· ∉ keys working)).map fun k =>
    (k, valuesUnder cumulative forced working k)

theorem keys_force (c : List String) (m : Params) (k : String) (vs : List String) :
    (force c m k vs).keys = if k ∈ m.keys then m.keys else m.keys ++ [k] := by
  unfold force
  split
  · exact m.keys_alter k _
  · exact m.keys_insert k vs

theorem find?_force (c : List String) (m : Params) (k j : String) (vs : List String) :
    (force c m k vs).find? j = if j = k then
      some (if k ∈ c then (m.find? k).getD [] ++ vs else vs) else m.find? j := by
  unfold force
  by_cases hc : k ∈ c
  · simp [hc, Params.addAll, Ordered.find?_alter]
  · simp [hc, Ordered.find?_insert]

/-- The names after forced values have been applied from left to right. -/
theorem keys_foldl_force (c : List String) (es : List (String × List String)) (m : Params)
    (hn : (keys es).Nodup) :
    (es.foldl (fun m e => force c m e.1 e.2) m).keys =
      m.keys ++ (keys es).filter (· ∉ m.keys) := by
  induction es generalizing m with
  | nil => simp [keys]
  | cons e r ih =>
    obtain ⟨k, vs⟩ := e
    obtain ⟨hk, hr⟩ := List.nodup_cons.mp hn
    rw [List.foldl_cons, ih _ hr, keys_force]
    by_cases hm : k ∈ m.keys
    · simp [hm, keys]
    · -- the name just added is none of those that follow
      have hfilter : (keys r).filter (· ∉ m.keys ++ [k]) = (keys r).filter (· ∉ m.keys) := by
        apply List.filter_congr
        intro j hj
        have hjk : j ≠ k := fun e => hk (e ▸ hj)
        simp [hjk]
      simp only [hm, if_false, hfilter]
      simp [keys, hm]

/-- The value of a name after forced values have been applied from left to right. -/
theorem find?_foldl_force (c : List String) (es : List (String × List String)) (m : Params)
    (j : String) (hn : (keys es).Nodup) :
    (es.foldl (fun m e => force c m e.1 e.2) m).find? j =
      match find? j es with
      | none => m.find? j
      | some vs => some (if j ∈ c then (m.find? j).getD [] ++ vs else vs) := by
  induction es generalizing m with
  | nil => rfl
  | cons e r ih =>
    obtain ⟨k, vs⟩ := e
    obtain ⟨hk, hr⟩ := List.nodup_cons.mp hn
    rw [List.foldl_cons, ih _ hr, find?_force]
    by_cases hj : j = k
    · subst hj
      have hnone : find? j r = none := Entries.find?_eq_none_iff.mpr hk
      simp [find?, hnone]
    · have hj' : k ≠ j := fun e => hj e.symm
      simp [find?, hj, hj']

theorem find?_eq_valuesUnder {c : List String} {forced : Params} {m : Params} {j : String}
    (hj : j ∈ m.keys ∨ j ∈ forced.keys) :
    (merged c forced m).find? j = some (valuesUnder c forced.entries m.entries j) := by
  unfold merged
  rw [find?_foldl_force c forced.entries m j forced.distinct]
  unfold valuesUnder
  cases hf : find? j forced.entries with
  | some vs => rfl
  | none =>
    have hm : j ∈ m.keys := by
      rcases hj with hj | hj
      · exact hj
      · exact absurd hj (Entries.find?_eq_none_iff.mp hf)
    cases hv : m.find? j with
    | some vs =>
      have hv' : find? j m.entries = some vs := hv
      simp [hv']
    | none => exact absurd hm (Entries.find?_eq_none_iff.mp hv)

/-- **Forcing name by name is the overlay.** -/
theorem entries_merged (c : List String) (forced m : Params) :
    (merged c forced m).entries = overlay c forced.entries m.entries := by
  have hkeys : (merged c forced m).keys = m.keys ++ forced.keys.filter (· ∉ m.keys) :=
    keys_foldl_force c forced.entries m forced.distinct
  apply Entries.eq_of_keys_of_find?
  · unfold overlay
    rw [Entries.keys_tabulate]
    exact hkeys
  · exact (merged c forced m).distinct
  · intro j hj
    have hj' : j ∈ m.keys ++ forced.keys.filter (· ∉ m.keys) := hkeys ▸ hj
    have hside : j ∈ m.keys ∨ j ∈ forced.keys := by
      rcases List.mem_append.mp hj' with hj' | hj'
      · exact .inl hj'
      · exact .inr (List.mem_filter.mp hj').1
    exact (find?_eq_valuesUnder hside).trans (Entries.find?_tabulate hj').symm

end Merger

end SearchGateway
