import SearchGateway.Text.Blank

/-!
# Pieces between separators

A text splits at every separator and nowhere else.

    pieces_append_cons    what stands before the first separator is the first piece
    pieces_of_none        a text without separators is one piece
    IsPiece               a maximal run without separators
    IsPieceAt             such a run at its place in the text
    mem_placed_iff        the pieces and where they stand
    pairwise_placed       they stand one behind the other
    mem_pieces_iff        the pieces are those runs
    Divides               runs that an occurrence of one character stands between
    divides_iff           the pieces are those runs, in order
-/

namespace SearchGateway.Text

variable {separates : Char → Bool}

/-! ## Algorithm -/

/-- A run without separators that nothing but a separator or an end stands next to. -/
def IsPiece (separates : Char → Bool) (cs p : List Char) : Prop :=
  ∃ before after, cs = before ++ p ++ after ∧ (∀ c ∈ p, separates c = false) ∧
    (before = [] ∨ ∃ b s, before = b ++ [s] ∧ separates s = true) ∧
    (after = [] ∨ ∃ s a, after = s :: a ∧ separates s = true)

/-- A piece, with the number of characters before it. -/
def IsPieceAt (separates : Char → Bool) (cs : List Char) (offset : Nat) (p : List Char) : Prop :=
  ∃ before after, cs = before ++ p ++ after ∧ before.length = offset ∧
    (∀ c ∈ p, separates c = false) ∧
    (before = [] ∨ ∃ b s, before = b ++ [s] ∧ separates s = true) ∧
    (after = [] ∨ ∃ s a, after = s :: a ∧ separates s = true)

/-- Pieces with where they stand: between two of them there is one separator. -/
def placed (start : Nat) : List (List Char) → List (Nat × List Char)
  | [] => []
  | p :: ps => (start, p) :: placed (start + p.length + 1) ps

/-- Runs without a character, and a text that has it once between each two of them. -/
structure Divides (x : Char) (cs : List Char) (ps : List (List Char)) : Prop where
  whole : [x].intercalate ps = cs
  apart : ∀ p ∈ ps, x ∉ p
  nonempty : ps ≠ []

/-! ## Lemmas -/

theorem isPiece_iff {cs p : List Char} :
    IsPiece separates cs p ↔ ∃ offset, IsPieceAt separates cs offset p := by
  constructor
  · rintro ⟨before, after, heq, h⟩
    exact ⟨before.length, before, after, heq, rfl, h⟩
  · rintro ⟨-, before, after, heq, -, h⟩
    exact ⟨before, after, heq, h⟩

theorem pieces_cons_of_not {c : Char} (hc : separates c = false) {r p : List Char}
    {ps : List (List Char)} (hr : pieces separates r = p :: ps) :
    pieces separates (c :: r) = (c :: p) :: ps := by
  rw [pieces, if_neg (by simp [hc]), hr]

theorem pieces_of_none {p : List Char} (hp : ∀ c ∈ p, separates c = false) :
    pieces separates p = [p] := by
  induction p with
  | nil => rfl
  | cons c r ih =>
    exact pieces_cons_of_not (hp c List.mem_cons_self)
      (ih fun d hd => hp d (List.mem_cons_of_mem c hd))

theorem pieces_append_cons {p : List Char} {s : Char} (hp : ∀ c ∈ p, separates c = false)
    (hs : separates s = true) (r : List Char) :
    pieces separates (p ++ s :: r) = p :: pieces separates r := by
  induction p with
  | nil => rw [List.nil_append, pieces, if_pos hs]
  | cons c q ih =>
    exact pieces_cons_of_not (hp c List.mem_cons_self)
      (ih fun d hd => hp d (List.mem_cons_of_mem c hd))

/-- A separator in the middle separates the pieces before it from those behind it. -/
theorem pieces_append_separator {s : Char} (hs : separates s = true) (cs r : List Char) :
    pieces separates (cs ++ s :: r) = pieces separates cs ++ pieces separates r := by
  induction cs with
  | nil =>
    show (if separates s then [] :: pieces separates r else _) = _
    rw [if_pos hs]
    rfl
  | cons c cs ih =>
    cases hc : separates c with
    | true => rw [List.cons_append, pieces, if_pos hc, ih, pieces, if_pos hc, List.cons_append]
    | false =>
      obtain ⟨p, ps, hps⟩ := List.exists_cons_of_ne_nil (pieces_ne_nil separates cs)
      rw [hps, List.cons_append] at ih
      rw [List.cons_append, pieces_cons_of_not hc ih, pieces_cons_of_not hc hps, List.cons_append]

/-- A text has no separator and is one piece, or it has a first one, which ends a piece. -/
theorem pieces_cases (separates : Char → Bool) (cs : List Char) :
    ((∀ c ∈ cs, separates c = false) ∧ pieces separates cs = [cs]) ∨
      ∃ p s r, cs = p ++ s :: r ∧ (∀ c ∈ p, separates c = false) ∧ separates s = true ∧
        pieces separates cs = p :: pieces separates r := by
  induction cs with
  | nil => exact .inl ⟨fun _ h => absurd h List.not_mem_nil, rfl⟩
  | cons c cs ih =>
    cases hc : separates c with
    | true =>
      exact .inr ⟨[], c, cs, rfl, fun _ h => absurd h List.not_mem_nil, hc,
        pieces_append_cons (fun _ h => absurd h List.not_mem_nil) hc cs⟩
    | false =>
      have hcons : ∀ p : List Char, (∀ d ∈ p, separates d = false) →
          ∀ d ∈ c :: p, separates d = false := by
        intro p hp d hd
        rcases List.mem_cons.mp hd with rfl | hd
        · exact hc
        · exact hp d hd
      rcases ih with ⟨hcs, -⟩ | ⟨p, s, r, rfl, hp, hs, -⟩
      · exact .inl ⟨hcons cs hcs, pieces_of_none (hcons cs hcs)⟩
      · exact .inr ⟨c :: p, s, r, rfl, hcons p hp, hs, pieces_append_cons (hcons p hp) hs r⟩

theorem head?_pieces (separates : Char → Bool) (cs : List Char) :
    (pieces separates cs).head? = some (cs.takeWhile fun c => !separates c) := by
  induction cs with
  | nil => rfl
  | cons c r ih =>
    cases hc : separates c with
    | true => rw [pieces, if_pos hc, List.takeWhile_cons_of_neg (by simp [hc]), List.head?_cons]
    | false =>
      obtain ⟨p, ps, hps⟩ := List.exists_cons_of_ne_nil (pieces_ne_nil separates r)
      rw [hps, List.head?_cons] at ih
      rw [pieces_cons_of_not hc hps, List.takeWhile_cons_of_pos (by simp [hc]), List.head?_cons,
        Option.some.inj ih]

/-- What no separator stands in has one piece, itself. -/
theorem isPieceAt_of_none {cs p : List Char} {offset : Nat}
    (hcs : ∀ c ∈ cs, separates c = false) :
    IsPieceAt separates cs offset p ↔ offset = 0 ∧ p = cs := by
  constructor
  · rintro ⟨before, after, rfl, rfl, -, hbefore, hafter⟩
    rcases hbefore with rfl | ⟨b, s, rfl, hs⟩
    · rcases hafter with rfl | ⟨s, a, rfl, hs⟩
      · simp
      · rw [hcs s (by simp)] at hs
        cases hs
    · rw [hcs s (by simp)] at hs
      cases hs
  · rintro ⟨rfl, rfl⟩
    exact ⟨[], [], by simp, rfl, hcs, .inl rfl, .inl rfl⟩

theorem takeWhile_append_of_end {p after : List Char} (hp : ∀ c ∈ p, separates c = false)
    (hafter : after = [] ∨ ∃ s a, after = s :: a ∧ separates s = true) :
    (p ++ after).takeWhile (fun c => !separates c) = p := by
  rw [List.takeWhile_append_of_pos (by simpa using hp)]
  rcases hafter with rfl | ⟨s, a, rfl, hs⟩
  · simp
  · rw [List.takeWhile_cons, hs]
    exact List.append_nil p

/-- A piece stands before the first separator or behind it. -/
theorem isPieceAt_append_cons {p q r : List Char} {s : Char} {offset : Nat}
    (hq : ∀ c ∈ q, separates c = false) (hs : separates s = true) :
    IsPieceAt separates (q ++ s :: r) offset p ↔
      (offset = 0 ∧ p = q) ∨ ∃ k, offset = q.length + 1 + k ∧ IsPieceAt separates r k p := by
  constructor
  · rintro ⟨before, after, heq, rfl, hp, rfl | ⟨b, d, rfl, hd⟩, hafter⟩
    · have hwhile := takeWhile_append_of_end hp hafter
      rw [← List.nil_append p, ← heq, takeWhile_append_of_end hq (.inr ⟨s, r, rfl, hs⟩)] at hwhile
      exact .inl ⟨rfl, hwhile.symm⟩
    · -- the separator in front of the piece is no part of `q`
      have hdq : d ∉ q := fun h => by rw [hq d h] at hd; cases hd
      rw [List.append_assoc] at heq
      rcases List.append_eq_append_iff.mp heq with ⟨c, hc, hr⟩ | ⟨c, hc, -⟩
      · cases c with
        | nil => exact absurd (by rw [← List.append_nil q, ← hc]; simp) hdq
        | cons e c =>
          obtain ⟨rfl, rfl⟩ : s = e ∧ r = c ++ (p ++ after) := by simpa using hr
          have hlength : (b ++ [d]).length = q.length + 1 + c.length := by
            rw [hc, List.length_append, List.length_cons]
            omega
          refine .inr ⟨c.length, hlength, c, after, (List.append_assoc c p after).symm, rfl, hp,
            ?_, hafter⟩
          rcases List.eq_nil_or_concat c with rfl | ⟨c', y, rfl⟩
          · exact .inl rfl
          · have hends : b ++ [d] = (q ++ s :: c') ++ [y] := by rw [hc]; simp
            have hlast : d = y := List.singleton_inj.mp (List.append_inj_right' hends rfl)
            exact .inr ⟨c', y, List.concat_eq_append, hlast ▸ hd⟩
      · exact absurd (by rw [hc]; simp) hdq
  · rintro (⟨rfl, rfl⟩ | ⟨k, rfl, before, after, rfl, rfl, hp, hbefore, hafter⟩)
    · exact ⟨[], s :: r, rfl, rfl, hq, .inl rfl, .inr ⟨s, r, rfl, hs⟩⟩
    · refine ⟨q ++ s :: before, after, by simp, ?_, hp, .inr ?_, hafter⟩
      · rw [List.length_append, List.length_cons]
        omega
      rcases hbefore with rfl | ⟨b, d, rfl, hd⟩
      · exact ⟨q, s, rfl, hs⟩
      · exact ⟨q ++ s :: b, d, by simp, hd⟩

/-- Pieces that are placed one behind the other stand where the text has them. -/
theorem mem_placed_iff {cs p : List Char} {start offset : Nat} :
    (offset, p) ∈ placed start (pieces separates cs) ↔
      ∃ k, offset = start + k ∧ IsPieceAt separates cs k p := by
  induction hn : cs.length using Nat.strongRecOn generalizing cs start with
  | _ n ih =>
    rcases pieces_cases separates cs with ⟨hcs, hpieces⟩ | ⟨q, s, r, rfl, hq, hs, hpieces⟩
    · simp only [hpieces, placed, List.mem_singleton, isPieceAt_of_none hcs, Prod.mk.injEq]
      constructor
      · rintro ⟨rfl, rfl⟩
        exact ⟨0, rfl, rfl, rfl⟩
      · rintro ⟨k, rfl, rfl, rfl⟩
        exact ⟨rfl, rfl⟩
    · have hlength : r.length < n := by
        rw [← hn, List.length_append, List.length_cons]
        omega
      rw [hpieces, placed, List.mem_cons, ih r.length hlength rfl]
      simp only [isPieceAt_append_cons hq hs, Prod.mk.injEq]
      constructor
      · rintro (⟨rfl, rfl⟩ | ⟨k, rfl, hk⟩)
        · exact ⟨0, rfl, .inl ⟨rfl, rfl⟩⟩
        · exact ⟨q.length + 1 + k, by omega, .inr ⟨k, rfl, hk⟩⟩
      · rintro ⟨k, rfl, ⟨rfl, rfl⟩ | ⟨j, rfl, hj⟩⟩
        · exact .inl ⟨rfl, rfl⟩
        · exact .inr ⟨j, by omega, hj⟩

theorem map_snd_placed (start : Nat) (ps : List (List Char)) :
    (placed start ps).map Prod.snd = ps := by
  induction ps generalizing start with
  | nil => rfl
  | cons p ps ih => rw [placed, List.map_cons, ih]

theorem le_of_mem_placed {start : Nat} {ps : List (List Char)} {e : Nat × List Char}
    (h : e ∈ placed start ps) : start ≤ e.1 := by
  induction ps generalizing start with
  | nil => cases h
  | cons p ps ih =>
    rcases List.mem_cons.mp h with rfl | h
    · exact Nat.le_refl start
    · have hlater := ih h
      omega

/-- Pieces stand one behind the other. -/
theorem pairwise_placed (start : Nat) (ps : List (List Char)) :
    (placed start ps).Pairwise fun e e' => e.1 < e'.1 := by
  induction ps generalizing start with
  | nil => exact .nil
  | cons p ps ih =>
    refine .cons (fun e he => ?_) (ih _)
    have hlater := le_of_mem_placed he
    show start < e.1
    omega

/-- **The pieces of a text are its maximal runs without separators.** -/
theorem mem_pieces_iff {cs p : List Char} :
    p ∈ pieces separates cs ↔ IsPiece separates cs p := by
  rw [isPiece_iff, ← map_snd_placed 0 (pieces separates cs), List.mem_map]
  constructor
  · rintro ⟨⟨offset, p⟩, he, rfl⟩
    obtain ⟨k, -, hk⟩ := mem_placed_iff.mp he
    exact ⟨k, hk⟩
  · rintro ⟨k, hk⟩
    exact ⟨(k, p), mem_placed_iff.mpr ⟨k, (Nat.zero_add k).symm, hk⟩, rfl⟩

theorem pieces_eq_splitOn (x : Char) (cs : List Char) : pieces (· == x) cs = cs.splitOn x := by
  unfold List.splitOn
  induction cs with
  | nil => rfl
  | cons c r ih =>
    rw [pieces, List.splitOnP_cons_eq_if_modifyHead, ← ih]
    split
    · rfl
    · obtain ⟨p, ps, hps⟩ := List.exists_cons_of_ne_nil (pieces_ne_nil (· == x) r)
      rw [hps]
      rfl

/-- The pieces between the occurrences of one character make up the text, and nothing else does. -/
theorem divides_iff {x : Char} {cs : List Char} {ps : List (List Char)} :
    Divides x cs ps ↔ pieces (· == x) cs = ps := by
  constructor
  · rintro ⟨rfl, hapart, hne⟩
    rw [pieces_eq_splitOn, List.splitOn_intercalate x hapart hne]
  · rintro rfl
    refine ⟨?_, fun p hp hx => ?_, pieces_ne_nil _ cs⟩
    · rw [pieces_eq_splitOn, List.intercalate_splitOn]
    · obtain ⟨-, -, -, hnone, -⟩ := mem_pieces_iff.mp hp
      simpa using hnone x hx

end SearchGateway.Text
