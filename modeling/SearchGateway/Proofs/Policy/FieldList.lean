import SearchGateway.Policy.FieldList
import SearchGateway.Proofs.Text.Pieces

/-!
# Which names a field list holds

A field list holds the runs between commas and blanks, in any of its values, that are not
empty.

    IsName values t       `t` is such a run
    mem_split_iff         those are the names
    split_eq_eraseDups    each where it comes first
-/

namespace SearchGateway.Policy.FieldList

/-- A run between separators, in some value, that is not empty. -/
def IsName (values : List String) (t : String) : Prop :=
  t ≠ "" ∧ ∃ value ∈ values, Text.IsPiece separates value.toList t.toList

theorem mem_tokens_iff {value t : String} :
    t ∈ tokens value ↔ t ≠ "" ∧ Text.IsPiece separates value.toList t.toList := by
  unfold tokens
  rw [List.mem_map, ← Text.mem_pieces_iff]
  constructor
  · rintro ⟨p, hp, rfl⟩
    obtain ⟨hmem, hne⟩ := List.mem_filter.mp hp
    refine ⟨fun h => ?_, by rwa [String.toList_ofList]⟩
    have hnil : p = [] := by simpa using congrArg String.toList h
    exact of_decide_eq_true hne hnil
  · rintro ⟨hne, hmem⟩
    refine ⟨t.toList, List.mem_filter.mpr ⟨hmem, decide_eq_true fun h => hne ?_⟩,
      String.ofList_toList⟩
    rw [← String.ofList_toList (s := t), h]

theorem mem_firsts_iff {seen names : List String} {t : String} :
    t ∈ firsts seen names ↔ t ∈ names ∧ t ∉ seen := by
  induction names generalizing seen with
  | nil => simp [firsts]
  | cons x r ih =>
    unfold firsts
    by_cases hx : x ∈ seen
    · rw [if_pos hx, ih, List.mem_cons]
      constructor
      · rintro ⟨hr, hs⟩
        exact ⟨.inr hr, hs⟩
      · rintro ⟨rfl | hr, hs⟩
        · exact absurd hx hs
        · exact ⟨hr, hs⟩
    · rw [if_neg hx, List.mem_cons, ih, List.mem_cons, List.mem_cons, not_or]
      constructor
      · rintro (rfl | ⟨hr, -, hs⟩)
        · exact ⟨.inl rfl, hx⟩
        · exact ⟨.inr hr, hs⟩
      · rintro ⟨h, hs⟩
        by_cases ht : t = x
        · exact .inl ht
        · exact .inr ⟨h.resolve_left ht, ht, hs⟩

theorem firsts_eq_eraseDups {seen names : List String} :
    firsts seen names = (names.filter fun x => x ∉ seen).eraseDups := by
  induction names generalizing seen with
  | nil => rfl
  | cons x r ih =>
    unfold firsts
    by_cases hx : x ∈ seen
    · rw [if_pos hx, ih, List.filter_cons_of_neg (by simpa using hx)]
    · rw [if_neg hx, ih, List.filter_cons_of_pos (by simpa using hx), List.eraseDups_cons,
        List.filter_filter]
      congr 2
      refine List.filter_congr fun y _ => ?_
      simp [Bool.beq_eq_decide_eq]

/-- A name stands where it comes first. -/
theorem split_eq_eraseDups {values : List String} :
    split values = (values.flatMap tokens).eraseDups := by
  unfold split
  rw [firsts_eq_eraseDups, List.filter_eq_self.mpr fun x _ => by simp]

theorem nodup_firsts {seen names : List String} : (firsts seen names).Nodup := by
  induction names generalizing seen with
  | nil => exact List.nodup_nil
  | cons x r ih =>
    unfold firsts
    split
    · exact ih
    · refine List.nodup_cons.mpr ⟨fun h => ?_, ih⟩
      exact (mem_firsts_iff.mp h).2 List.mem_cons_self

theorem nodup_split {values : List String} : (split values).Nodup := nodup_firsts

/-- Behind a comma a field list goes on. -/
theorem tokens_append_comma (list more : String) :
    tokens (list ++ "," ++ more) = tokens list ++ tokens more := by
  have hcomma : (list ++ "," ++ more).toList = list.toList ++ ',' :: more.toList := by
    rw [String.toList_append, String.toList_append, List.append_assoc]
    rfl
  unfold tokens
  rw [hcomma, Text.pieces_append_separator (by decide), List.filter_append, List.map_append]

/-- Names that come behind all others leave these where they are. -/
theorem prefix_split {values values' : List String} (names : List String)
    (h : values'.flatMap tokens = values.flatMap tokens ++ names) :
    split values <+: split values' := by
  rw [split_eq_eraseDups, split_eq_eraseDups, h, List.eraseDups_append]
  exact List.prefix_append _ _

/-- **The names of a field list are its runs**, repetitions left out. -/
theorem mem_split_iff {values : List String} {t : String} :
    t ∈ split values ↔ IsName values t := by
  unfold split IsName
  rw [mem_firsts_iff, List.mem_flatMap]
  simp only [mem_tokens_iff]
  constructor
  · rintro ⟨⟨value, hv, hne, hp⟩, -⟩
    exact ⟨hne, value, hv, hp⟩
  · rintro ⟨hne, value, hv, hp⟩
    exact ⟨⟨value, hv, hne, hp⟩, List.not_mem_nil⟩

/-- A field list that goes on behind a comma names what it named before. -/
theorem split_subset_comma (pre post : List String) {list : String} (more : String) :
    split (pre ++ list :: post) ⊆ split (pre ++ (list ++ "," ++ more) :: post) := by
  intro t ht
  rw [split_eq_eraseDups, List.mem_eraseDups, List.flatMap_append, List.flatMap_cons,
    List.mem_append, List.mem_append] at ht
  rw [split_eq_eraseDups, List.mem_eraseDups, List.flatMap_append, List.flatMap_cons,
    List.mem_append, List.mem_append, tokens_append_comma, List.mem_append]
  rcases ht with ht | ht | ht
  · exact .inl ht
  · exact .inr (.inl (.inl ht))
  · exact .inr (.inr ht)

/-- As the last value it names the rest behind all others. -/
theorem prefix_split_comma (pre : List String) {post : List String} (h : post = [])
    {list more : String} :
    split (pre ++ list :: post) <+: split (pre ++ (list ++ "," ++ more) :: post) := by
  subst h
  refine prefix_split (tokens more) ?_
  rw [List.flatMap_append, List.flatMap_append, List.flatMap_singleton, List.flatMap_singleton,
    tokens_append_comma, List.append_assoc]

end SearchGateway.Policy.FieldList
