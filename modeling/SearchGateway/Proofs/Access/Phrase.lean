import Mathlib.Algebra.Ring.Parity
import SearchGateway.Access.Probe

/-!
# One phrase and nothing else

A suggestion is probed by a query that quotes its title, and the title may hold anything: quotes,
backslashes, runs of both, also at its end.  Whoever reads the query skips to the first quote and
reads a phrase from there on: a backslash takes the character behind it as it is, and the first
quote that is not taken so ends the phrase.

    readPhrase               a phrase behind its opening quote
    Phrased.read             a query with a phrase: what stands before it, its text, what is left
    backslashes cs           how many backslashes `cs` ends in
    readPhrase_escapePhrase  an escaped text is read back, and the phrase ends behind it
    probe_isPhrase           what is read of the query of a probe

A quote is escaped if it stands behind an odd number of backslashes.
-/

namespace SearchGateway.Access

/-! ## Algorithm -/

/-- The text of a phrase and what is left behind its closing quote; none if it is not closed. -/
def readPhrase : List Char → Option (List Char × List Char)
  | [] => none
  | '"' :: r => some ([], r)
  | ['\\'] => none
  | '\\' :: c :: r => (readPhrase r).map fun (text, rest) => (c :: text, rest)
  | c :: r => (readPhrase r).map fun (text, rest) => (c :: text, rest)

/-- A query taken apart: what stands before its phrase, the text of the phrase, what is left. -/
structure Phrased where
  before : List Char
  text : List Char
  rest : List Char
  deriving DecidableEq, Repr

/-- A query as it is read: the phrase opens at the first quote. -/
def Phrased.read (cs : List Char) : Option Phrased :=
  (readPhrase ((cs.dropWhile (· ≠ '"')).drop 1)).map fun (text, rest) =>
    ⟨cs.takeWhile (· ≠ '"'), text, rest⟩

/-- The length of a run of backslashes when one more character has come. -/
def countBackslash (n : Nat) (c : Char) : Nat := if c = '\\' then n + 1 else 0

/-- How many backslashes a text ends in. -/
def backslashes (cs : List Char) : Nat := cs.foldl countBackslash 0

/-! ## Lemmas -/

theorem escapePhrase_cons_of_special {c : Char} (hc : c = '"' ∨ c = '\\') (r : List Char) :
    escapePhrase (c :: r) = '\\' :: c :: escapePhrase r :=
  if_pos hc

theorem escapePhrase_cons_of_plain {c : Char} (hc : ¬ (c = '"' ∨ c = '\\')) (r : List Char) :
    escapePhrase (c :: r) = c :: escapePhrase r :=
  if_neg hc

theorem readPhrase_escaped (c : Char) (r : List Char) : readPhrase ('\\' :: c :: r) =
    (readPhrase r).map fun (text, rest) => (c :: text, rest) := by
  rw [readPhrase]

theorem readPhrase_plain {c : Char} (hc : ¬ (c = '"' ∨ c = '\\')) (r : List Char) :
    readPhrase (c :: r) = (readPhrase r).map fun (text, rest) => (c :: text, rest) := by
  rw [not_or] at hc
  rw [readPhrase]
  · exact hc.1
  · rintro rfl -
    exact hc.2 rfl
  · rintro d s rfl -
    exact hc.2 rfl

/-- **An escaped text is read back**, and the phrase ends behind it whatever follows. -/
theorem readPhrase_escapePhrase (text rest : List Char) :
    readPhrase (escapePhrase text ++ '"' :: rest) = some (text, rest) := by
  induction text with
  | nil => rfl
  | cons c r ih =>
    by_cases hc : c = '"' ∨ c = '\\'
    · rw [escapePhrase_cons_of_special hc, List.cons_append, List.cons_append,
        readPhrase_escaped, ih]
      rfl
    · rw [escapePhrase_cons_of_plain hc, List.cons_append, readPhrase_plain hc, ih]
      rfl

theorem escapePhrase_injective : Function.Injective escapePhrase := by
  intro text text' h
  have hread := readPhrase_escapePhrase text []
  rw [h, readPhrase_escapePhrase] at hread
  exact (congrArg Prod.fst (Option.some.inj hread)).symm

/-! ### Runs of backslashes

Escaping writes backslashes in pairs, or one before a quote.  So between two characters of the
text the run is even, whatever stood before. -/

theorem even_countBackslash_escaped {c : Char} (hc : c = '"' ∨ c = '\\') {n : Nat} (hn : Even n) :
    Even (countBackslash (countBackslash n '\\') c) := by
  rcases hc with rfl | rfl
  · exact Even.zero
  · exact hn.add_one.add_one

theorem even_countBackslash_plain {c : Char} (hc : ¬ (c = '"' ∨ c = '\\')) (n : Nat) :
    Even (countBackslash n c) := by
  have hne : c ≠ '\\' := fun h => hc (.inr h)
  rw [countBackslash, if_neg hne]
  exact Even.zero

theorem even_foldl_escapePhrase (text : List Char) {n : Nat} (hn : Even n) :
    Even ((escapePhrase text).foldl countBackslash n) := by
  induction text generalizing n with
  | nil => exact hn
  | cons c r ih =>
    by_cases hc : c = '"' ∨ c = '\\'
    · rw [escapePhrase_cons_of_special hc, List.foldl_cons, List.foldl_cons]
      exact ih (even_countBackslash_escaped hc hn)
    · rw [escapePhrase_cons_of_plain hc, List.foldl_cons]
      exact ih (even_countBackslash_plain hc n)

/-- What stands before a quote ends in an odd number of backslashes. -/
theorem odd_foldl_of_quote {text before after : List Char} {n : Nat} (hn : Even n)
    (h : escapePhrase text = before ++ '"' :: after) : Odd (before.foldl countBackslash n) := by
  induction text generalizing before n with
  | nil =>
    cases before <;> cases h
  | cons c r ih =>
    by_cases hc : c = '"' ∨ c = '\\'
    · rw [escapePhrase_cons_of_special hc] at h
      match before with
      | [] => cases h
      | [b] =>
        cases h
        exact hn.add_one
      | b :: b' :: before =>
        injection h with hb h
        injection h with hb' h
        subst hb hb'
        rw [List.foldl_cons, List.foldl_cons]
        exact ih (even_countBackslash_escaped hc hn) h
    · rw [escapePhrase_cons_of_plain hc] at h
      cases before with
      | nil =>
        cases h
        exact absurd (.inl rfl) hc
      | cons b before =>
        injection h with hb h
        subst hb
        rw [List.foldl_cons]
        exact ih (even_countBackslash_plain hc n) h

/-! ### The query of a probe -/

theorem valuesOf_probeParams (field title : String) (filter : Filter) :
    (probeParams field filter title).valuesOf "q" = [titleQuery field title] := by
  unfold probeParams
  cases filter.isUnrestricted <;> rfl

/-- A phrase is read behind the first quote. -/
theorem read_quoted {before : List Char} (h : '"' ∉ before) (rest : List Char) :
    Phrased.read (before ++ '"' :: rest) =
      (readPhrase rest).map fun (text, left) => ⟨before, text, left⟩ := by
  have hbefore : ∀ c ∈ before, decide (c ≠ '"') = true := by
    intro c hc
    refine decide_eq_true ?_
    rintro rfl
    exact h hc
  have hskip : (before ++ '"' :: rest).dropWhile (· ≠ '"') = '"' :: rest := by
    rw [List.dropWhile_append_of_pos hbefore]
    rfl
  have htake : (before ++ '"' :: rest).takeWhile (· ≠ '"') = before := by
    rw [List.takeWhile_append_of_pos hbefore]
    simp
  rw [Phrased.read, hskip, htake, List.drop_one, List.tail_cons]

theorem read_titleQuery {field : String} (h : '"' ∉ field.toList) (title : String) :
    Phrased.read (titleQuery field title).toList =
      some ⟨field.toList ++ [':'], title.toList, []⟩ := by
  have hfield : '"' ∉ field.toList ++ [':'] := by simpa using h
  have hquery : (titleQuery field title).toList =
      (field.toList ++ [':']) ++ '"' :: (escapePhrase title.toList ++ ['"']) := by
    rw [titleQuery, String.toList_ofList, phrase, List.append_assoc]
    rfl
  rw [hquery, read_quoted hfield, readPhrase_escapePhrase]
  rfl

/-! ## Top theorem -/

/-- **The query of a probe is the field, a colon and one phrase**, which tells exactly the title
and ends where the query ends.  No title escapes from its phrase: other titles are written in other
ways, each quote in what is written is escaped, and no backslash is left over at the end. -/
theorem probe_isPhrase (field title : String) (filter : Filter) (h : '"' ∉ field.toList) :
    (∃ q, (probeParams field filter title).valuesOf "q" = [q] ∧
      Phrased.read q.toList = some ⟨field.toList ++ [':'], title.toList, []⟩) ∧
    Function.Injective escapePhrase ∧
    (∀ text before after, escapePhrase text = before ++ '"' :: after → Odd (backslashes before)) ∧
    ∀ text, Even (backslashes (escapePhrase text)) :=
  ⟨⟨_, valuesOf_probeParams field title filter, read_titleQuery h title⟩, escapePhrase_injective,
    fun _ _ _ hquote => odd_foldl_of_quote Even.zero hquote,
    fun text => even_foldl_escapePhrase text Even.zero⟩

/-- A title with a quote, and a backslash where the phrase ends. -/
theorem probe_isPhrase_backslash :
    '"' ∉ "title".toList ∧
    (probeParams "title" ⟨["licence:open"]⟩ "say \"hi\\").valuesOf "q" =
      ["title:\"say \\\"hi\\\\\""] ∧
    Phrased.read "title:\"say \\\"hi\\\\\"".toList =
      some ⟨"title:".toList, "say \"hi\\".toList, []⟩ := by
  have hfield : '"' ∉ "title".toList := by decide
  have hquery : (probeParams "title" ⟨["licence:open"]⟩ "say \"hi\\").valuesOf "q" =
      ["title:\"say \\\"hi\\\\\""] := by decide
  obtain ⟨⟨q, hq, hread⟩, -⟩ :=
    probe_isPhrase "title" "say \"hi\\" ⟨["licence:open"]⟩ hfield
  rw [hquery] at hq
  cases hq
  exact ⟨hfield, hquery, hread⟩

end SearchGateway.Access
