import SearchGateway.Access.Redaction

/-!
# Marked elements

What the redaction of markup looks for: an element `str`, with or without attributes, whose text
begins with the marker and holds no other element.  The scanner finds one exactly where one
stands.

    IsAttributes attrs        what may stand between the name and the end of a start tag
    markedElement attrs text  an element that holds a tagged clause
    afterMarked_eq_some_iff   what the scanner recognises at a place
    hasMarked_iff             whether one stands anywhere
-/

namespace SearchGateway.Access

open Text (after? isBlank)

/-! ## Algorithm -/

/-- Nothing, or a blank and then anything that does not end the tag. -/
def IsAttributes (attrs : List Char) : Prop :=
  ∀ c r, attrs = c :: r → isBlank c = true ∧ '>' ∉ r

/-- An element `str` that holds a clause behind the marker. -/
def markedElement (attrs clause : List Char) : List Char :=
  "<str".toList ++ (attrs ++ '>' :: (marker.toList ++ (clause ++ "</str>".toList)))

/-- A marked element that stands somewhere in a text. -/
def HoldsMarked (cs clause : List Char) : Prop :=
  '<' ∉ clause ∧ ∃ before attrs after, IsAttributes attrs ∧
    cs = before ++ (markedElement attrs clause ++ after)

/-! ## Lemmas -/

theorem after?_eq_some_iff {needle cs rest : List Char} :
    after? needle cs = some rest ↔ cs = needle ++ rest := by
  constructor
  · exact Text.eq_append_of_after?
  · rintro rfl
    exact Text.after?_append needle rest

theorem dropWhile_ne_append {d : Char} {cs rest : List Char} (h : d ∉ cs) :
    (cs ++ d :: rest).dropWhile (· ≠ d) = d :: rest := by
  induction cs with
  | nil => simp
  | cons c cs ih =>
    rw [List.mem_cons, not_or] at h
    rw [List.cons_append, List.dropWhile_cons_of_pos (by simpa using Ne.symm h.1), ih h.2]

theorem eq_append_of_dropWhile_ne {d : Char} {cs rest : List Char}
    (h : cs.dropWhile (· ≠ d) = d :: rest) : ∃ before, d ∉ before ∧ cs = before ++ d :: rest := by
  induction cs with
  | nil => cases h
  | cons c cs ih =>
    by_cases hc : c = d
    · rw [List.dropWhile_cons_of_neg (by simpa using hc)] at h
      exact ⟨[], List.not_mem_nil, h⟩
    · rw [List.dropWhile_cons_of_pos (by simpa using hc)] at h
      obtain ⟨before, hnot, rfl⟩ := ih h
      refine ⟨c :: before, ?_, rfl⟩
      rw [List.mem_cons, not_or]
      exact ⟨Ne.symm hc, hnot⟩

theorem isAttributes_nil : IsAttributes [] := by
  intro c r heq
  cases heq

theorem afterAttributes_cons {c : Char} (hc : c ≠ '>') (r : List Char) :
    afterAttributes (c :: r) =
      if isBlank c then
        match r.dropWhile (· ≠ '>') with
        | '>' :: r => some r
        | _ => none
      else none := by
  unfold afterAttributes
  split
  · next heq =>
    cases heq
    exact absurd rfl hc
  · next heq =>
    cases heq
    rfl
  · next heq => cases heq

theorem afterAttributes_eq_some_iff {cs rest : List Char} :
    afterAttributes cs = some rest ↔ ∃ attrs, IsAttributes attrs ∧ cs = attrs ++ '>' :: rest := by
  constructor
  · intro h
    cases cs with
    | nil => cases h
    | cons c r =>
      by_cases hc : c = '>'
      · subst hc
        cases h
        exact ⟨[], isAttributes_nil, rfl⟩
      · rw [afterAttributes_cons hc] at h
        split at h
        · next hblank =>
          split at h
          · next rest' hdrop =>
            cases h
            obtain ⟨before, hnot, rfl⟩ := eq_append_of_dropWhile_ne hdrop
            refine ⟨c :: before, fun c' r' heq => ?_, rfl⟩
            cases heq
            exact ⟨hblank, hnot⟩
          · cases h
        · cases h
  · rintro ⟨attrs, hattrs, rfl⟩
    cases attrs with
    | nil => rfl
    | cons c r =>
      obtain ⟨hblank, hnot⟩ := hattrs c r rfl
      have hc : c ≠ '>' := by
        rintro rfl
        cases hblank
      rw [List.cons_append, afterAttributes_cons hc, if_pos hblank, dropWhile_ne_append hnot]
      rfl

/-- **The scanner recognises marked elements**, and leaves what follows them. -/
theorem afterMarked_eq_some_iff {cs rest : List Char} :
    afterMarked cs = some rest ↔
      ∃ attrs clause, IsAttributes attrs ∧ '<' ∉ clause ∧ cs = markedElement attrs clause ++ rest := by
  have hclose : ∀ rest, "</str>".toList ++ rest = '<' :: ("/str>".toList ++ rest) := fun _ => rfl
  unfold afterMarked
  simp only [Option.bind_eq_bind, Option.bind_eq_some_iff, after?_eq_some_iff,
    afterAttributes_eq_some_iff]
  constructor
  · rintro ⟨_, rfl, _, ⟨attrs, hattrs, rfl⟩, r, rfl, hr⟩
    rw [hclose] at hr
    obtain ⟨clause, hclause, rfl⟩ := eq_append_of_dropWhile_ne hr
    refine ⟨attrs, clause, hattrs, hclause, ?_⟩
    simp only [markedElement, List.append_assoc, List.cons_append, hclose]
  · rintro ⟨attrs, clause, hattrs, hclause, rfl⟩
    refine ⟨_, ?_, _, ⟨attrs, hattrs, rfl⟩, clause ++ ("</str>".toList ++ rest), rfl, ?_⟩
    · simp only [markedElement, List.append_assoc, List.cons_append]
    · rw [hclose]
      exact dropWhile_ne_append hclause

/-- **Whether a marked element stands anywhere.** -/
theorem hasMarked_iff {cs : List Char} : hasMarked cs = true ↔ ∃ clause, HoldsMarked cs clause := by
  constructor
  · intro h
    induction cs with
    | nil => cases h
    | cons c cs ih =>
      rw [hasMarked, Bool.or_eq_true] at h
      rcases h with h | h
      · obtain ⟨rest, hrest⟩ := Option.isSome_iff_exists.mp h
        obtain ⟨attrs, clause, hattrs, hclause, heq⟩ := afterMarked_eq_some_iff.mp hrest
        exact ⟨clause, hclause, [], attrs, rest, hattrs, heq⟩
      · obtain ⟨clause, hclause, before, attrs, after, hattrs, rfl⟩ := ih h
        exact ⟨clause, hclause, c :: before, attrs, after, hattrs, rfl⟩
  · rintro ⟨clause, hclause, before, attrs, after, hattrs, rfl⟩
    induction before with
    | nil =>
      have hhere : afterMarked (markedElement attrs clause ++ after) = some after :=
        afterMarked_eq_some_iff.mpr ⟨attrs, clause, hattrs, hclause, rfl⟩
      show hasMarked ('<' :: _) = true
      rw [hasMarked, Bool.or_eq_true]
      exact .inl (Option.isSome_iff_exists.mpr ⟨after, hhere⟩)
    | cons c before ih =>
      rw [List.cons_append, hasMarked, ih, Bool.or_true]

end SearchGateway.Access
