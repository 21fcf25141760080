import Mathlib.Data.List.Induction
import Mathlib.Data.Nat.Digits.Defs
import SearchGateway.Number.Reading

/-!
# Which texts are whole numbers

A whole number is written with an optional sign and decimal digits, and its value is that of
the digits in base ten.  Reading accepts exactly those texts, with exactly that value.

    IsInteger cs v                                         `cs` is a way to write `v`
    integer? cs = some v ↔ IsInteger cs v                  (integer?_eq_some_iff)
    int64? cs = some v ↔ IsInteger cs v ∧ -2^63 ≤ v < 2^63 (int64?_eq_some_iff)
    IsNatural cs n                                         the same without minus signs
    uint64? cs = some n ↔ IsNatural cs n ∧ n ≤ maxUInt64   (uint64?_eq_some_iff)
-/

namespace SearchGateway.Number

/-! ## Algorithm -/

/-- The value of decimal digits, the first of them the highest. -/
def decimal (digits : List Char) : Nat := Nat.ofDigits 10 (digits.reverse.map digitValue)

/-- A run of decimal digits that is not empty. -/
def IsDigits (cs : List Char) : Prop := cs ≠ [] ∧ ∀ c ∈ cs, c.isDigit = true

/-- A way to write a whole number. -/
inductive IsInteger : List Char → Int → Prop
  | plain {digits : List Char} (h : IsDigits digits) : IsInteger digits (decimal digits)
  | plus {digits : List Char} (h : IsDigits digits) : IsInteger ('+' :: digits) (decimal digits)
  | minus {digits : List Char} (h : IsDigits digits) : IsInteger ('-' :: digits) (-decimal digits)

/-- A way to write an unsigned whole number. -/
inductive IsNatural : List Char → Nat → Prop
  | plain {digits : List Char} (h : IsDigits digits) : IsNatural digits (decimal digits)
  | plus {digits : List Char} (h : IsDigits digits) : IsNatural ('+' :: digits) (decimal digits)

/-! ## Lemmas -/

theorem digitsValue_eq_decimal (cs : List Char) : digitsValue cs = decimal cs := by
  induction cs using List.reverseRecOn with
  | nil => rfl
  | append_singleton r c ih =>
    unfold decimal digitsValue
    rw [List.foldl_append, List.reverse_append, List.reverse_singleton, List.singleton_append,
      List.map_cons, Nat.ofDigits_cons]
    show 10 * digitsValue r + digitValue c = digitValue c + 10 * decimal r
    rw [ih, Nat.add_comm]

theorem allDigits?_eq_some_iff {cs : List Char} {n : Nat} :
    allDigits? cs = some n ↔ IsDigits cs ∧ n = decimal cs := by
  have hdigits : (cs ≠ [] ∧ cs.all Char.isDigit = true) ↔ IsDigits cs := by
    rw [List.all_eq_true, IsDigits]
  unfold allDigits?
  rw [digitsValue_eq_decimal]
  by_cases h : cs ≠ [] ∧ cs.all Char.isDigit = true
  · simp [h, hdigits.mp h, eq_comm]
  · rw [if_neg h]
    simp [mt hdigits.mpr h]

/-- What is made of the value of digits. -/
theorem map_allDigits?_eq_some_iff {cs : List Char} {f : Int → Int} {v : Int} :
    ((allDigits? cs).bind fun n => some (n : Int)).map f = some v ↔
      IsDigits cs ∧ v = f (decimal cs) := by
  simp only [Option.map_eq_some_iff, Option.bind_eq_some_iff, allDigits?_eq_some_iff,
    Option.some.injEq]
  constructor
  · rintro ⟨_, ⟨n, ⟨hcs, rfl⟩, rfl⟩, rfl⟩
    exact ⟨hcs, rfl⟩
  · rintro ⟨hcs, rfl⟩
    exact ⟨_, ⟨_, ⟨hcs, rfl⟩, rfl⟩, rfl⟩

/-- Digits begin with no sign. -/
theorem integer?_of_isDigits {cs : List Char} (h : IsDigits cs) :
    integer? cs = ((allDigits? cs).bind fun n => some (n : Int)).map fun v => v := by
  unfold integer?
  split
  · exact absurd (h.2 '-' List.mem_cons_self) (by decide)
  · exact absurd (h.2 '+' List.mem_cons_self) (by decide)
  · rfl

/-- **Reading accepts the ways to write a whole number**, each with its value. -/
theorem integer?_eq_some_iff {cs : List Char} {v : Int} :
    integer? cs = some v ↔ IsInteger cs v := by
  constructor
  · intro h
    unfold integer? at h
    split at h
    · obtain ⟨hr, rfl⟩ := map_allDigits?_eq_some_iff.mp h
      exact .minus hr
    · obtain ⟨hr, rfl⟩ := map_allDigits?_eq_some_iff.mp h
      exact .plus hr
    · obtain ⟨hr, rfl⟩ := map_allDigits?_eq_some_iff.mp h
      exact .plain hr
  · intro h
    cases h with
    | plain h =>
      rw [integer?_of_isDigits h]
      exact map_allDigits?_eq_some_iff.mpr ⟨h, rfl⟩
    | plus h => exact map_allDigits?_eq_some_iff.mpr ⟨h, rfl⟩
    | minus h => exact map_allDigits?_eq_some_iff.mpr ⟨h, rfl⟩

theorem int64?_eq_some_iff {cs : List Char} {v : Int} :
    int64? cs = some v ↔ IsInteger cs v ∧ -2 ^ 63 ≤ v ∧ v < 2 ^ 63 := by
  have hfits : fitsInt64 v = true ↔ -2 ^ 63 ≤ v ∧ v < 2 ^ 63 := by
    unfold fitsInt64 minInt64 maxInt64
    rw [Bool.and_eq_true, decide_eq_true_iff, decide_eq_true_iff]
    omega
  unfold int64?
  rw [Option.filter_eq_some_iff, integer?_eq_some_iff, hfits]

theorem natural?_eq_some_iff {cs : List Char} {n : Nat} :
    natural? cs = some n ↔ IsNatural cs n := by
  constructor
  · intro h
    unfold natural? at h
    split at h
    · obtain ⟨hr, rfl⟩ := allDigits?_eq_some_iff.mp h
      exact .plus hr
    · obtain ⟨hcs, rfl⟩ := allDigits?_eq_some_iff.mp h
      exact .plain hcs
  · intro h
    cases h with
    | plain h =>
      unfold natural?
      split
      · exact absurd (h.2 '+' List.mem_cons_self) (by decide)
      · exact allDigits?_eq_some_iff.mpr ⟨h, rfl⟩
    | plus h => exact allDigits?_eq_some_iff.mpr ⟨h, rfl⟩

theorem uint64?_eq_some_iff {cs : List Char} {n : Nat} :
    uint64? cs = some n ↔ IsNatural cs n ∧ n ≤ maxUInt64 := by
  unfold uint64?
  rw [Option.filter_eq_some_iff, natural?_eq_some_iff, decide_eq_true_iff]

end SearchGateway.Number
