import SearchGateway.Proofs.Access.Markup

/-!
# One pass of cutting

The redaction of markup goes through a text once, from left to right, and takes out each marked
element that it comes to.  So a text falls into pieces that are kept and marked elements between
them, and the pieces are put together.  What is put together is not looked at again: where an
element stands inside the text of another one, cutting it out may complete the outer one.

    Parted cs pieces         the text `cs`, taken apart at its marked elements
    Joins pieces             a marked element comes about where pieces meet
    cutMarked_of_parted      what a pass leaves
    marked_flatten_iff       what is marked in it has been joined
    redactMarkup_outcome     the result of redaction, and of a second one
    not_forall_unmarked      an element inside another one
-/

namespace SearchGateway.Access

/-! ## Algorithm -/

/-- What redaction takes out. -/
def IsMarked (e : List Char) : Prop :=
  ∃ attrs clause, IsAttributes attrs ∧ '<' ∉ clause ∧ e = markedElement attrs clause

/-- No marked element begins in `kept`, where `rest` stands behind it. -/
def BeginsNone (kept rest : List Char) : Prop :=
  ∀ before after, kept = before ++ after → after ≠ [] → ∀ e, IsMarked e → ¬ e <+: after ++ rest

/-- A text taken apart: each marked element where the first one begins, and what is kept before
it, up to a rest in which none begins. -/
inductive Parted : List Char → List (List Char) → Prop
  | last {kept : List Char} (hnone : BeginsNone kept []) : Parted kept [kept]
  | cut {kept e rest : List Char} {pieces : List (List Char)} (hnone : BeginsNone kept (e ++ rest))
      (he : IsMarked e) (h : Parted rest pieces) : Parted (kept ++ (e ++ rest)) (kept :: pieces)

/-- A marked element begins in one of the pieces and ends in a later one. -/
def Joins (pieces : List (List Char)) : Prop :=
  ∃ xs ys left right, pieces = xs ++ ys ∧ left ≠ [] ∧ right ≠ [] ∧ left <:+ xs.flatten ∧
    right <+: ys.flatten ∧ IsMarked (left ++ right)

/-! ## Lemmas -/

/-! ### Marked elements -/

theorem IsMarked.exists_cons {e : List Char} (h : IsMarked e) : ∃ r, e = '<' :: r := by
  obtain ⟨attrs, clause, -, -, rfl⟩ := h
  exact ⟨_, rfl⟩

theorem IsMarked.ne_nil {e : List Char} (h : IsMarked e) : e ≠ [] := by
  obtain ⟨r, rfl⟩ := h.exists_cons
  exact List.cons_ne_nil _ _

theorem afterMarked_iff {cs rest : List Char} :
    afterMarked cs = some rest ↔ ∃ e, IsMarked e ∧ cs = e ++ rest := by
  rw [afterMarked_eq_some_iff]
  constructor
  · rintro ⟨attrs, clause, hattrs, hclause, rfl⟩
    exact ⟨_, ⟨attrs, clause, hattrs, hclause, rfl⟩, rfl⟩
  · rintro ⟨_, ⟨attrs, clause, hattrs, hclause, rfl⟩, rfl⟩
    exact ⟨attrs, clause, hattrs, hclause, rfl⟩

theorem hasMarked_iff_exists {cs : List Char} :
    hasMarked cs = true ↔ ∃ e, IsMarked e ∧ e <:+: cs := by
  rw [hasMarked_iff]
  constructor
  · rintro ⟨clause, hclause, before, attrs, after, hattrs, rfl⟩
    exact ⟨_, ⟨attrs, clause, hattrs, hclause, rfl⟩, before, after, by rw [List.append_assoc]⟩
  · rintro ⟨_, ⟨attrs, clause, hattrs, hclause, rfl⟩, before, after, rfl⟩
    exact ⟨clause, hclause, before, attrs, after, hattrs, by rw [List.append_assoc]⟩

/-! ### Where none begins -/

theorem beginsNone_nil (rest : List Char) : BeginsNone [] rest := by
  intro before after heq hne
  exact absurd (List.append_eq_nil_iff.mp heq.symm).2 hne

theorem beginsNone_cons_iff {c : Char} {kept rest : List Char} :
    BeginsNone (c :: kept) rest ↔
      afterMarked (c :: (kept ++ rest)) = none ∧ BeginsNone kept rest := by
  constructor
  · intro h
    refine ⟨Option.eq_none_iff_forall_ne_some.mpr fun r hr => ?_, fun before after heq => ?_⟩
    · obtain ⟨e, he, heq⟩ := afterMarked_iff.mp hr
      exact h [] (c :: kept) rfl (List.cons_ne_nil _ _) e he ⟨r, heq.symm⟩
    · exact h (c :: before) after (by rw [heq, List.cons_append])
  · rintro ⟨hhead, htail⟩ before after heq hne e he ⟨r, hr⟩
    cases before with
    | nil =>
      rw [List.nil_append] at heq
      rw [← heq] at hr
      have hsome : afterMarked (c :: (kept ++ rest)) = some r := afterMarked_iff.mpr ⟨e, he, hr.symm⟩
      rw [hsome] at hhead
      cases hhead
    | cons b before =>
      injection heq with _ heq
      exact htail before after heq hne e he ⟨r, hr⟩

/-- In what is kept there is no marked element. -/
theorem BeginsNone.not_within {kept rest e : List Char} (h : BeginsNone kept rest)
    (he : IsMarked e) : ¬ e <:+: kept := by
  rintro ⟨before, after, rfl⟩
  refine h before (e ++ after) (by rw [List.append_assoc]) ?_ e he ?_
  · simp [he.ne_nil]
  · rw [List.append_assoc]
    exact List.prefix_append e _

/-! ### One pass -/

theorem cutMarked_skip (skipped rest : List Char) :
    cutMarked skipped.length (skipped ++ rest) = cutMarked 0 rest := by
  induction skipped with
  | nil => rfl
  | cons c skipped ih => exact ih

theorem cutMarked_of_beginsNone {kept rest : List Char} (h : BeginsNone kept rest) :
    cutMarked 0 (kept ++ rest) = kept ++ cutMarked 0 rest := by
  induction kept with
  | nil => rfl
  | cons c kept ih =>
    obtain ⟨hhead, htail⟩ := beginsNone_cons_iff.mp h
    rw [List.cons_append, cutMarked]
    simp only [hhead]
    rw [ih htail, List.cons_append]

theorem cutMarked_of_isMarked {e : List Char} (he : IsMarked e) (rest : List Char) :
    cutMarked 0 (e ++ rest) = cutMarked 0 rest := by
  have hafter : afterMarked (e ++ rest) = some rest := afterMarked_iff.mpr ⟨e, he, rfl⟩
  obtain ⟨r, rfl⟩ := he.exists_cons
  have hlength : (r ++ rest).length - rest.length = r.length := by
    rw [List.length_append]
    omega
  rw [List.cons_append] at hafter ⊢
  rw [cutMarked]
  simp only [hafter, hlength]
  exact cutMarked_skip r rest

/-- **A pass leaves the pieces that are kept.** -/
theorem cutMarked_of_parted {cs : List Char} {pieces : List (List Char)} (h : Parted cs pieces) :
    cutMarked 0 cs = pieces.flatten := by
  induction h with
  | @last kept hnone =>
    have hkept := cutMarked_of_beginsNone hnone
    rw [List.append_nil] at hkept
    rw [hkept, List.flatten_cons]
    rfl
  | cut hnone he _ ih =>
    rw [cutMarked_of_beginsNone hnone, cutMarked_of_isMarked he, ih, List.flatten_cons]

/-- There is something to be cut out exactly if there is more than one piece. -/
theorem hasMarked_of_parted {cs : List Char} {pieces : List (List Char)} (h : Parted cs pieces) :
    hasMarked cs = true ↔ 1 < pieces.length := by
  rw [hasMarked_iff_exists]
  cases h with
  | last hnone =>
    refine iff_of_false ?_ (Nat.lt_irrefl 1)
    rintro ⟨e, he, hinfix⟩
    exact hnone.not_within he hinfix
  | @cut kept e rest pieces hnone he h =>
    refine iff_of_true ⟨e, he, kept, rest, by rw [List.append_assoc]⟩ ?_
    cases h <;> simp

/-- Where no marked element begins, the text is taken apart as what follows is. -/
theorem Parted.cons {c : Char} {cs : List Char} {pieces : List (List Char)}
    (hc : afterMarked (c :: cs) = none) (h : Parted cs pieces) :
    ∃ pieces, Parted (c :: cs) pieces := by
  cases h with
  | last hnone =>
    exact ⟨_, .last (beginsNone_cons_iff.mpr ⟨by rwa [List.append_nil], hnone⟩)⟩
  | @cut kept e rest pieces hnone he h =>
    have hkept : BeginsNone (c :: kept) (e ++ rest) := beginsNone_cons_iff.mpr ⟨hc, hnone⟩
    exact ⟨_, .cut hkept he h⟩

theorem exists_parted (cs : List Char) : ∃ pieces, Parted cs pieces := by
  -- behind a marked element the text goes on further away than one character
  induction hlength : cs.length using Nat.strongRecOn generalizing cs with
  | ind n ih =>
    subst hlength
    cases cs with
    | nil => exact ⟨_, .last (beginsNone_nil [])⟩
    | cons c r =>
      cases hc : afterMarked (c :: r) with
      | none =>
        obtain ⟨pieces, h⟩ := ih r.length (Nat.lt_succ_self _) r rfl
        exact h.cons hc
      | some rest =>
        obtain ⟨e, he, heq⟩ := afterMarked_iff.mp hc
        have hlt : rest.length < (c :: r).length := by
          have hpos : 0 < e.length := List.length_pos_iff.mpr he.ne_nil
          rw [heq, List.length_append]
          omega
        obtain ⟨pieces, h⟩ := ih rest.length hlt rest rfl
        rw [heq]
        exact ⟨_, .cut (beginsNone_nil _) he h⟩

/-! ### What a pass leaves behind -/

theorem Joins.cons {pieces : List (List Char)} (kept : List Char) (h : Joins pieces) :
    Joins (kept :: pieces) := by
  obtain ⟨xs, ys, left, right, rfl, hleft, hright, hsuffix, hprefix, hmarked⟩ := h
  refine ⟨kept :: xs, ys, left, right, rfl, hleft, hright, ?_, hprefix, hmarked⟩
  rw [List.flatten_cons]
  exact hsuffix.trans (List.suffix_append kept _)

/-- An element in two texts side by side stands in one of them, or it is cut in two. -/
theorem infix_append_cases {e kept rest : List Char} (h : e <:+: kept ++ rest) :
    e <:+: kept ∨ e <:+: rest ∨
      ∃ left right, e = left ++ right ∧ left ≠ [] ∧ right ≠ [] ∧ left <:+ kept ∧ right <+: rest := by
  obtain ⟨before, after, heq⟩ := h
  rw [List.append_assoc] at heq
  rcases List.append_eq_append_iff.mp heq with ⟨left, hkept, hrest⟩ | ⟨r, rfl, rfl⟩
  · rcases List.append_eq_append_iff.mp hrest with ⟨r, rfl, -⟩ | ⟨right, rfl, rfl⟩
    · exact .inl ⟨before, r, by rw [hkept, List.append_assoc]⟩
    · by_cases hleft : left = []
      · subst hleft
        exact .inr (.inl (List.prefix_append right after).isInfix)
      · by_cases hright : right = []
        · subst hright
          rw [List.append_nil]
          exact .inl ⟨before, [], by rw [hkept, List.append_nil]⟩
        · exact .inr (.inr ⟨left, right, rfl, hleft, hright, ⟨before, hkept.symm⟩,
            List.prefix_append right after⟩)
  · exact .inr (.inl ⟨r, after, by rw [List.append_assoc]⟩)

/-- **What is marked in the pieces put together has been joined.** -/
theorem marked_flatten_iff {cs : List Char} {pieces : List (List Char)} (h : Parted cs pieces) :
    (∃ e, IsMarked e ∧ e <:+: pieces.flatten) ↔ Joins pieces := by
  constructor
  · rintro ⟨e, he, hinfix⟩
    induction h with
    | last hnone =>
      rw [List.flatten_singleton] at hinfix
      exact absurd hinfix (hnone.not_within he)
    | @cut kept _ rest pieces hnone _ _ ih =>
      rw [List.flatten_cons] at hinfix
      rcases infix_append_cases hinfix with hkept | hrest | ⟨left, right, rfl, hleft, hright, hl, hr⟩
      · exact absurd hkept (hnone.not_within he)
      · exact (ih hrest).cons kept
      · refine ⟨[kept], pieces, left, right, rfl, hleft, hright, ?_, hr, he⟩
        rw [List.flatten_singleton]
        exact hl
  · rintro ⟨xs, ys, left, right, rfl, -, -, ⟨before, hbefore⟩, ⟨after, hafter⟩, hmarked⟩
    refine ⟨left ++ right, hmarked, before, after, ?_⟩
    rw [List.flatten_append, ← hbefore, ← hafter]
    simp only [List.append_assoc]

/-! ## Top theorem -/

/-- **Redaction takes out marked elements and nothing else**, each that it comes to in one pass
from left to right.  It fails if there is none.  A second redaction finds none in the result,
except where one has been joined of the pieces. -/
theorem redactMarkup_outcome (body : String) : ∃ pieces, Parted body.toList pieces ∧
    redact .xml body =
      (if 1 < pieces.length then .ok (String.ofList pieces.flatten) else .error .noMarker) ∧
    (redact .xml (String.ofList pieces.flatten) = .error .noMarker ↔ ¬ Joins pieces) := by
  obtain ⟨pieces, h⟩ := exists_parted body.toList
  have hredact : ∀ body, redact .xml body = if hasMarked body.toList = true then
      .ok (String.ofList (cutMarked 0 body.toList)) else .error .noMarker := fun _ => rfl
  refine ⟨pieces, h, ?_, ?_⟩
  · rw [hredact, cutMarked_of_parted h]
    simp only [hasMarked_of_parted h]
  · rw [hredact, String.toList_ofList, ← marked_flatten_iff h, ← hasMarked_iff_exists]
    cases hasMarked pieces.flatten <;> simp

/-- A marked element inside the text of another one. -/
def nestedMarked : String :=
  "<str>" ++ marker ++ "a<str>" ++ marker ++ "b</str></str>"

/-- **What is left may be marked.**  Without the inner element the outer one is complete. -/
theorem not_forall_unmarked :
    ¬ ∀ body out, redact .xml body = .ok out → redact .xml out = .error .noMarker := by
  intro h
  have hinner : redact .xml nestedMarked = .ok ("<str>" ++ marker ++ "a</str>") := rfl
  have houter : redact .xml ("<str>" ++ marker ++ "a</str>") = .ok "" := rfl
  have hnone := h _ _ hinner
  rw [houter] at hnone
  cases hnone

end SearchGateway.Access
