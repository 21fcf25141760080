import SearchGateway.Proofs.Policy.FieldList

/-!
# What a field list names, and in which order

A name stands at places in the values of a field list.  The names are listed without repetition,
each where it stands first, and there is only one list of which that is true.  Written out again
with gaps between them, they are read as the same names.

    StandsAt values t x     the name `t` stands at the place `x`
    Lists values names      the names in the order of their first places
    joined gaps names       names with gaps between them
    lists_iff               splitting gives that list and no other
    tokens_joined           names with gaps between them are read as those names
-/

namespace SearchGateway.Policy.FieldList

/-! ## Places -/

/-- A place in the values of a field list: which value, and how far into it. -/
structure Place where
  value : Nat
  offset : Nat

/-- In an earlier value, or further to the left in the same one. -/
def Place.Before (x y : Place) : Prop :=
  x.value < y.value ∨ x.value = y.value ∧ x.offset < y.offset

/-- At this place begins a run between separators that is the name, and not empty. -/
def StandsAt (values : List String) (t : String) (x : Place) : Prop :=
  t ≠ "" ∧ ∃ value, values[x.value]? = some value ∧
    Text.IsPieceAt separates value.toList x.offset t.toList

/-- All names once, each before those that come up only behind its first place. -/
structure Lists (values names : List String) : Prop where
  distinct : names.Nodup
  named : ∀ t, t ∈ names ↔ IsName values t
  ordered : names.Pairwise fun t u =>
    ∃ x, StandsAt values t x ∧ ∀ y, StandsAt values u y → x.Before y

/-- The names in one value with their places. -/
def placedTokens (i : Nat) (value : String) : List (Place × String) :=
  ((Text.placed 0 (Text.pieces separates value.toList)).filter (·.2 ≠ [])).map
    fun e => (⟨i, e.1⟩, String.ofList e.2)

/-- The names in values from the `i`-th on, repetitions included, with their places. -/
def placedNames (i : Nat) : List String → List (Place × String)
  | [] => []
  | value :: r => placedTokens i value ++ placedNames (i + 1) r

/-! ## Gaps -/

/-- A name that a field list can give: neither empty nor with a comma or a blank in it. -/
def IsPlain (t : String) : Prop := t ≠ "" ∧ ∀ c ∈ t.toList, c ≠ ',' ∧ Text.isBlank c = false

instance (t : String) : Decidable (IsPlain t) :=
  @instDecidableAnd _ _ inferInstance
    (List.decidableBAll (fun c => c ≠ ',' ∧ Text.isBlank c = false) t.toList)

/-- Commas and blanks, or nothing. -/
def IsPadding (pad : String) : Prop := ∀ c ∈ pad.toList, c = ',' ∨ Text.isBlank c = true

instance (pad : String) : Decidable (IsPadding pad) :=
  List.decidableBAll (fun c => c = ',' ∨ Text.isBlank c = true) pad.toList

/-- What may stand between two names: at least one comma or blank. -/
structure Gap where
  text : String
  padding : IsPadding text
  nonempty : text ≠ ""

/-- Names with gaps between them. -/
def joined (gaps : Nat → Gap) : List String → String
  | [] => ""
  | [t] => t
  | t :: u :: r => t ++ (gaps 0).text ++ joined (fun i => gaps (i + 1)) (u :: r)

/-! ## Lemmas -/

/-! ### Names at their places -/

theorem map_snd_placedTokens (i : Nat) (value : String) :
    (placedTokens i value).map Prod.snd = tokens value := by
  unfold placedTokens tokens
  rw [List.map_map, ← Text.map_snd_placed 0 (Text.pieces separates value.toList), List.filter_map,
    List.map_map, Text.map_snd_placed]
  rfl

theorem mem_placedTokens_iff {i : Nat} {value t : String} {x : Place} :
    (x, t) ∈ placedTokens i value ↔
      x.value = i ∧ t ≠ "" ∧ Text.IsPieceAt separates value.toList x.offset t.toList := by
  unfold placedTokens
  rw [List.mem_map]
  constructor
  · rintro ⟨⟨offset, p⟩, he, heq⟩
    obtain ⟨rfl, rfl⟩ := Prod.mk.inj heq
    obtain ⟨hmem, hne⟩ := List.mem_filter.mp he
    obtain ⟨k, hk, hpiece⟩ := Text.mem_placed_iff.mp hmem
    obtain rfl : offset = k := hk.trans (Nat.zero_add k)
    refine ⟨rfl, fun h => of_decide_eq_true hne ?_, by rwa [String.toList_ofList]⟩
    simpa using congrArg String.toList h
  · rintro ⟨rfl, hne, hpiece⟩
    refine ⟨(x.offset, t.toList), List.mem_filter.mpr ⟨?_, decide_eq_true fun h => hne ?_⟩, ?_⟩
    · exact Text.mem_placed_iff.mpr ⟨x.offset, (Nat.zero_add _).symm, hpiece⟩
    · rw [← String.ofList_toList (s := t)]
      exact congrArg String.ofList h
    · rw [String.ofList_toList]

theorem pairwise_placedTokens (i : Nat) (value : String) :
    (placedTokens i value).Pairwise fun e e' => e.1.Before e'.1 := by
  unfold placedTokens
  refine List.pairwise_map.mpr ((Text.pairwise_placed 0 _).filter _ |>.imp fun hlt => ?_)
  exact .inr ⟨rfl, hlt⟩

theorem map_snd_placedNames (i : Nat) (values : List String) :
    (placedNames i values).map Prod.snd = values.flatMap tokens := by
  induction values generalizing i with
  | nil => rfl
  | cons value r ih =>
    rw [placedNames, List.map_append, map_snd_placedTokens, ih, List.flatMap_cons]

theorem mem_placedNames_iff {i : Nat} {values : List String} {t : String} {x : Place} :
    (x, t) ∈ placedNames i values ↔ ∃ j, x.value = i + j ∧ StandsAt values t ⟨j, x.offset⟩ := by
  induction values generalizing i with
  | nil => simp [placedNames, StandsAt]
  | cons value r ih =>
    rw [placedNames, List.mem_append, mem_placedTokens_iff, ih]
    constructor
    · rintro (⟨rfl, hne, hpiece⟩ | ⟨j, hj, hne, hstands⟩)
      · exact ⟨0, rfl, hne, value, rfl, hpiece⟩
      · exact ⟨j + 1, by omega, hne, by rwa [List.getElem?_cons_succ]⟩
    · rintro ⟨_ | j, hj, hne, v, hv, hpiece⟩
      · obtain rfl : value = v := Option.some.inj hv
        exact .inl ⟨hj, hne, hpiece⟩
      · exact .inr ⟨j, by omega, hne, v, by rwa [List.getElem?_cons_succ] at hv, hpiece⟩

theorem pairwise_placedNames (i : Nat) (values : List String) :
    (placedNames i values).Pairwise fun e e' => e.1.Before e'.1 := by
  induction values generalizing i with
  | nil => exact .nil
  | cons value r ih =>
    refine List.pairwise_append.mpr ⟨pairwise_placedTokens i value, ih (i + 1), ?_⟩
    rintro ⟨x, t⟩ he ⟨y, u⟩ he'
    obtain ⟨j, hj, -⟩ := mem_placedNames_iff.mp he'
    have hx := (mem_placedTokens_iff.mp he).1
    exact .inl (show x.value < y.value by omega)

/-- Of names that stand one behind the other, the first occurrences stand in their order. -/
theorem ordered_firsts {l : List (Place × String)} (hl : l.Pairwise fun e e' => e.1.Before e'.1)
    (seen : List String) : (firsts seen (l.map Prod.snd)).Pairwise fun t u =>
      ∃ x, (x, t) ∈ l ∧ ∀ y, (y, u) ∈ l → x.Before y := by
  induction l generalizing seen with
  | nil => exact .nil
  | cons e r ih =>
    obtain ⟨x, t⟩ := e
    obtain ⟨hfirst, hr⟩ := List.pairwise_cons.mp hl
    -- behind the first entry the others keep their order, as long as none of them is its name
    have hlater : ∀ {s : List String} {u v : String}, v ∈ firsts s (r.map Prod.snd) → t ∈ s →
        (∃ y, (y, u) ∈ r ∧ ∀ z, (z, v) ∈ r → y.Before z) →
        ∃ y, (y, u) ∈ (x, t) :: r ∧ ∀ z, (z, v) ∈ (x, t) :: r → y.Before z := by
      rintro s u v hv hs ⟨y, hy, hbefore⟩
      refine ⟨y, List.mem_cons_of_mem _ hy, fun z hz => ?_⟩
      rcases List.mem_cons.mp hz with heq | hz
      · obtain ⟨-, rfl⟩ := Prod.mk.inj heq
        exact absurd hs (mem_firsts_iff.mp hv).2
      · exact hbefore z hz
    rw [List.map_cons, firsts]
    split
    · next hseen =>
      exact (ih hr seen).imp_of_mem fun _ hv h => hlater hv hseen h
    · next hnew =>
      refine .cons (fun u hu => ⟨x, List.mem_cons_self, fun y hy => ?_⟩) ?_
      · rcases List.mem_cons.mp hy with heq | hy
        · obtain ⟨-, rfl⟩ := Prod.mk.inj heq
          exact absurd List.mem_cons_self (mem_firsts_iff.mp hu).2
        · exact hfirst _ hy
      · exact (ih hr (t :: seen)).imp_of_mem fun _ hv h => hlater hv List.mem_cons_self h

theorem lists_split (values : List String) : Lists values (split values) where
  distinct := nodup_split
  named _ := mem_split_iff
  ordered := by
    have hplaces : ∀ x t, (x, t) ∈ placedNames 0 values ↔ StandsAt values t x := by
      intro x t
      rw [mem_placedNames_iff]
      constructor
      · rintro ⟨j, hj, h⟩
        obtain rfl : x.value = j := hj.trans (Nat.zero_add j)
        exact h
      · exact fun h => ⟨x.value, (Nat.zero_add _).symm, h⟩
    have hordered := ordered_firsts (pairwise_placedNames 0 values) []
    rw [map_snd_placedNames] at hordered
    unfold split
    simpa only [hplaces] using hordered

theorem Place.Before.asymm {x y : Place} (h : x.Before y) : ¬ y.Before x := by
  unfold Before at *
  omega

/-- There is one list of the names in the order of their first places. -/
theorem Lists.unique {values names names' : List String} (h : Lists values names)
    (h' : Lists values names') : names = names' := by
  have hperm : names.Perm names' :=
    (List.perm_ext_iff_of_nodup h.distinct h'.distinct).mpr fun t => by rw [h.named, h'.named]
  refine hperm.eq_of_pairwise (fun t u _ _ htu hut => ?_) h.ordered h'.ordered
  obtain ⟨x, hx, hxu⟩ := htu
  obtain ⟨y, hy, hyt⟩ := hut
  exact absurd (hyt x hx) (hxu y hy).asymm

theorem lists_iff {values names : List String} : split values = names ↔ Lists values names := by
  constructor
  · rintro rfl
    exact lists_split values
  · exact (lists_split values).unique

/-! ### Names with gaps between them -/

theorem separates_iff {c : Char} : separates c = true ↔ c = ',' ∨ Text.isBlank c = true := by
  unfold separates
  rw [Bool.or_eq_true, beq_iff_eq]

theorem IsPlain.separates_eq_false {t : String} (h : IsPlain t) :
    ∀ c ∈ t.toList, separates c = false := by
  intro c hc
  obtain ⟨hcomma, hblank⟩ := h.2 c hc
  rw [Bool.eq_false_iff, Ne, separates_iff, hblank]
  exact fun hor => hor.elim hcomma Bool.false_ne_true

/-- No name has a separator in it, and none is empty. -/
theorem isPlain_of_isName {values : List String} {t : String} (h : IsName values t) :
    IsPlain t := by
  obtain ⟨hne, value, -, before, after, -, hnone, -⟩ := h
  refine ⟨hne, fun c hc => ?_⟩
  have hnot : ¬ (c = ',' ∨ Text.isBlank c = true) := by
    rw [← separates_iff, hnone c hc]
    exact Bool.false_ne_true
  exact ⟨fun h => hnot (.inl h), Bool.eq_false_iff.mpr fun h => hnot (.inr h)⟩

theorem tokens_padding_append {pad : String} (h : IsPadding pad) (text : String) :
    tokens (pad ++ text) = tokens text := by
  unfold tokens
  rw [String.toList_append]
  have hpad : ∀ c ∈ pad.toList, separates c = true := fun c hc => separates_iff.mpr (h c hc)
  generalize pad.toList = cs at hpad
  induction cs with
  | nil => rfl
  | cons c r ih =>
    rw [List.cons_append, Text.pieces, if_pos (hpad c List.mem_cons_self)]
    exact ih fun d hd => hpad d (List.mem_cons_of_mem c hd)

/-- A gap ends what stands before it and begins nothing. -/
theorem tokens_append_gap (t : String) (gap : Gap) (text : String) :
    tokens (t ++ gap.text ++ text) = tokens t ++ tokens text := by
  obtain ⟨s, r, hgap⟩ := List.exists_cons_of_ne_nil
    (fun h => gap.nonempty (String.toList_eq_nil_iff.mp h) : gap.text.toList ≠ [])
  have hs : separates s = true := by
    refine separates_iff.mpr (gap.padding s ?_)
    rw [hgap]
    exact List.mem_cons_self
  have hr : IsPadding (String.ofList r) := by
    intro c hc
    rw [String.toList_ofList] at hc
    refine gap.padding c ?_
    rw [hgap]
    exact List.mem_cons_of_mem s hc
  rw [← tokens_padding_append hr text]
  unfold tokens
  rw [String.toList_append, String.toList_append, String.toList_append, hgap, String.toList_ofList,
    List.append_assoc, List.cons_append, Text.pieces_append_separator hs, List.filter_append,
    List.map_append]

theorem tokens_empty : tokens "" = [] := by decide

theorem tokens_append_padding {pad : String} (h : IsPadding pad) (text : String) :
    tokens (text ++ pad) = tokens text := by
  by_cases hpad : pad = ""
  · rw [hpad, String.append_empty]
  · have hgap := tokens_append_gap text ⟨pad, h, hpad⟩ ""
    rwa [String.append_empty, tokens_empty, List.append_nil] at hgap

theorem tokens_of_isPlain {t : String} (h : IsPlain t) : tokens t = [t] := by
  unfold tokens
  rw [Text.pieces_of_none h.separates_eq_false, List.filter_cons_of_pos, List.filter_nil,
    List.map_singleton, String.ofList_toList]
  exact decide_eq_true fun hnil => h.1 (String.toList_eq_nil_iff.mp hnil)

/-- **Names with gaps between them are read as those names**, one after the other. -/
theorem tokens_joined {names : List String} (h : ∀ t ∈ names, IsPlain t) (gaps : Nat → Gap) :
    tokens (joined gaps names) = names := by
  induction names generalizing gaps with
  | nil => exact tokens_empty
  | cons t r ih =>
    have ht := tokens_of_isPlain (h t List.mem_cons_self)
    have hr := ih fun u hu => h u (List.mem_cons_of_mem t hu)
    cases r with
    | nil => exact ht
    | cons u r => rw [joined, tokens_append_gap, ht, hr, List.singleton_append]

theorem eraseDups_of_nodup {names : List String} (h : names.Nodup) : names.eraseDups = names := by
  induction names with
  | nil => rfl
  | cons t r ih =>
    obtain ⟨ht, hr⟩ := List.nodup_cons.mp h
    have hother : r.filter (fun u => !u == t) = r := by
      refine List.filter_eq_self.mpr fun u hu => ?_
      have hne : u ≠ t := fun heq => ht (heq ▸ hu)
      simpa using hne
    rw [List.eraseDups_cons, hother, ih hr]

/-! ## Top theorem -/

/-- **Splitting gives the names of a field list, and exactly these**: every maximal run without
commas and blanks that is not empty, once, in the order of the first places.  Written out with any
gaps between them they are split into the same names again. -/
theorem split_exact (values names : List String) :
    (split values = names ↔ Lists values names) ∧
      (∀ t ∈ split values, IsPlain t) ∧
      ∀ gaps, split [joined gaps (split values)] = split values := by
  have hplain : ∀ t ∈ split values, IsPlain t :=
    fun t ht => isPlain_of_isName (mem_split_iff.mp ht)
  refine ⟨lists_iff, hplain, fun gaps => ?_⟩
  have htokens : [joined gaps (split values)].flatMap tokens = split values := by
    rw [List.flatMap_singleton, tokens_joined hplain]
  rw [split_eq_eraseDups, htokens, eraseDups_of_nodup nodup_split]

end SearchGateway.Policy.FieldList
