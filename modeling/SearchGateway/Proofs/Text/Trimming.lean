import Mathlib.Data.List.Basic
import Mathlib.Data.List.TakeWhile
import SearchGateway.Text.Blank

/-!
# Texts without blanks at their ends

Trimming takes the blanks off both ends of a text and nothing else.  There is one way to do that:
what is left begins and ends with a character that is no blank, or nothing is left.

    Trims cs t              `t` is `cs` without blanks at either end
    trimChars_eq_iff        trimming gives that text
    trimChars_eq_nil_iff    nothing is left of blanks alone
-/

namespace SearchGateway.Text

variable {cs t : List Char}

/-! ## Algorithm -/

/-- Blanks, a text that neither begins nor ends with one, and blanks again. -/
structure Trims (cs t : List Char) : Prop where
  parts : ∃ before after, cs = before ++ (t ++ after) ∧ (∀ c ∈ before, isBlank c = true) ∧
    ∀ c ∈ after, isBlank c = true
  first : ∀ c ∈ t.head?, isBlank c = false
  last : ∀ c ∈ t.getLast?, isBlank c = false

/-! ## Lemmas -/

theorem dropWhile_eq_self {p : Char → Bool} (h : ∀ c ∈ cs.head?, p c = false) :
    cs.dropWhile p = cs := by
  cases cs with
  | nil => rfl
  | cons c r => exact List.dropWhile_cons_of_neg (by simp [h c rfl])

theorem isBlank_head?_trimStart (cs : List Char) : ∀ c ∈ (trimStart cs).head?, isBlank c = false := by
  intro c hc
  have hnot := List.head?_dropWhile_not isBlank cs
  unfold trimStart at hc
  rw [hc] at hnot
  simpa using hnot

/-- What is taken off the end is blank. -/
theorem exists_trimEnd_append (cs : List Char) :
    ∃ after, cs = trimEnd cs ++ after ∧ ∀ c ∈ after, isBlank c = true := by
  refine ⟨(cs.reverse.takeWhile isBlank).reverse, ?_, fun c hc => ?_⟩
  · unfold trimEnd
    rw [← List.reverse_append, List.takeWhile_append_dropWhile, List.reverse_reverse]
  · exact List.mem_takeWhile_imp (List.mem_reverse.mp hc)

theorem trims_trimChars (cs : List Char) : Trims cs (trimChars cs) := by
  obtain ⟨after, hend, hafter⟩ := exists_trimEnd_append (trimStart cs)
  refine ⟨⟨cs.takeWhile isBlank, after, ?_, fun c hc => List.mem_takeWhile_imp hc, hafter⟩, ?_, ?_⟩
  · show cs = cs.takeWhile isBlank ++ (trimEnd (trimStart cs) ++ after)
    rw [← hend]
    exact List.takeWhile_append_dropWhile.symm
  · intro c hc
    refine isBlank_head?_trimStart cs c ?_
    rw [hend]
    show c ∈ (trimEnd (trimStart cs) ++ after).head?
    rw [List.head?_append]
    have hc' : (trimEnd (trimStart cs)).head? = some c := hc
    rw [hc']
    rfl
  · intro c hc
    have hlast : (trimChars cs).getLast? = (trimStart (trimStart cs).reverse).head? := by
      show ((trimStart cs).reverse.dropWhile isBlank).reverse.getLast? = _
      rw [List.getLast?_reverse]
      rfl
    rw [hlast] at hc
    exact isBlank_head?_trimStart _ c hc

/-- **Trimming takes off the blanks at both ends**, and nothing else does. -/
theorem trimChars_eq_iff : trimChars cs = t ↔ Trims cs t := by
  constructor
  · rintro rfl
    exact trims_trimChars cs
  · rintro ⟨⟨before, after, rfl, hbefore, hafter⟩, hfirst, hlast⟩
    unfold trimChars trimStart
    rw [List.dropWhile_append_of_pos hbefore]
    by_cases ht : t = []
    · subst ht
      have hnil : after.dropWhile isBlank = [] := List.dropWhile_eq_nil_iff.mpr hafter
      rw [List.nil_append, hnil]
      rfl
    · have hfirst' : ∀ c ∈ (t ++ after).head?, isBlank c = false := by
        rwa [List.head?_append_of_ne_nil t ht]
      have hafter' : ∀ c ∈ after.reverse, isBlank c = true := by simpa using hafter
      have hlast' : ∀ c ∈ t.reverse.head?, isBlank c = false := by rwa [List.head?_reverse]
      rw [dropWhile_eq_self hfirst', trimEnd, List.reverse_append,
        List.dropWhile_append_of_pos hafter', dropWhile_eq_self hlast', List.reverse_reverse]

theorem trimChars_append_left {before : List Char} (h : ∀ c ∈ before, isBlank c = true)
    (cs : List Char) : trimChars (before ++ cs) = trimChars cs := by
  obtain ⟨⟨b, a, heq, hb, ha⟩, hfirst, hlast⟩ := trims_trimChars cs
  refine trimChars_eq_iff.mpr ⟨⟨before ++ b, a, ?_, fun c hc => ?_, ha⟩, hfirst, hlast⟩
  · rw [List.append_assoc, ← heq]
  · exact (List.mem_append.mp hc).elim (h c) (hb c)

theorem trimChars_append_right {after : List Char} (h : ∀ c ∈ after, isBlank c = true)
    (cs : List Char) : trimChars (cs ++ after) = trimChars cs := by
  obtain ⟨⟨b, a, heq, hb, ha⟩, hfirst, hlast⟩ := trims_trimChars cs
  refine trimChars_eq_iff.mpr ⟨⟨b, a ++ after, ?_, hb, fun c hc => ?_⟩, hfirst, hlast⟩
  · rw [← List.append_assoc, ← List.append_assoc, List.append_assoc b, ← heq]
  · exact (List.mem_append.mp hc).elim (ha c) (h c)

theorem trimChars_eq_nil_iff : trimChars cs = [] ↔ ∀ c ∈ cs, isBlank c = true := by
  rw [trimChars_eq_iff]
  constructor
  · rintro ⟨⟨before, after, rfl, hbefore, hafter⟩, -, -⟩ c hc
    rw [List.nil_append] at hc
    rcases List.mem_append.mp hc with hc | hc
    · exact hbefore c hc
    · exact hafter c hc
  · intro h
    refine ⟨⟨cs, [], by rw [List.append_nil, List.append_nil], h, ?_⟩, ?_, ?_⟩
    · simp
    · simp
    · simp

end SearchGateway.Text
