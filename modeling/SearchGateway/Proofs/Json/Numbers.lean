import Mathlib.Data.List.TakeWhile
import SearchGateway.Json.Printer
import SearchGateway.Json.Reader
import SearchGateway.Proofs.Number.Integers
import SearchGateway.Proofs.Steps

/-!
# Numbers in JSON

A number is read in three parts, and what it means is decided at its end.  It ends where a value
can end: reading it does not depend on what follows then.

    Ends rest                 what can follow a value
    readNumber_eq             the three parts of a number, one after the other
    readNumber_append         a number is read in front of such a rest as it is alone
    readNumber_toDigits       the digits of a whole number of 64 bits
-/

namespace SearchGateway.Json

/-! ## Algorithm -/

/-- What can follow a value: nothing, or what separates or closes. -/
def Ends (rest : List Char) : Prop :=
  ∀ c r, rest = c :: r → c = ',' ∨ c = ']' ∨ c = '\x7d'

/-- The fraction of a number, if it has one. -/
def readFractionPart : List Char → Reading (List Char × List Char)
  | '.' :: r => readFraction r
  | r => .ok ([], r)

/-- The exponent of a number, if it has one. -/
def readExponentPart : List Char → Reading (Option (Bool × List Char) × List Char)
  | [] => .ok (none, [])
  | c :: r =>
    if c = 'e' ∨ c = 'E' then (readExponent r).map fun (e, r) => (some e, r)
    else .ok (none, c :: r)

/-- The sign of an exponent, minus or not, and what is left. -/
def exponentSign : List Char → Bool × List Char
  | '+' :: r => (false, r)
  | '-' :: r => (true, r)
  | r => (false, r)

/-- The digits of an exponent after its sign. -/
def readExponentDigits (minus : Bool) (cs : List Char) :
    Reading ((Bool × List Char) × List Char) :=
  match cs with
  | [] => stopAt .endInValue []
  | c :: r =>
    if c.isDigit then .ok ((minus, cs.takeWhile Char.isDigit), cs.dropWhile Char.isDigit)
    else stopAt .invalidNumber r

/-- What a number means once its parts are known. -/
def concludeNumber (mode : Mode) (w : Written) (cs : List Char) : Reading (Node × List Char) :=
  match w.value?, mode with
  | none, .value => stopAt .numberOutOfRange cs
  | n, _ => .ok (.number n, cs)

/-! ## Lemmas -/

/-! ### The parts of a number -/

theorem readExponent_eq (cs : List Char) :
    readExponent cs = readExponentDigits (exponentSign cs).1 (exponentSign cs).2 := rfl

/-- A number is concluded once its exponent is known, if it has one. -/
theorem concludeNumber_exponent (mode : Mode) (negative : Bool) (whole fraction cs : List Char) :
    (match cs with
      | c :: r =>
        if c = 'e' ∨ c = 'E' then
          (readExponent r).bind fun (e, r) =>
            concludeNumber mode ⟨negative, whole, fraction, some e⟩ r
        else concludeNumber mode ⟨negative, whole, fraction, none⟩ (c :: r)
      | [] => concludeNumber mode ⟨negative, whole, fraction, none⟩ []) =
      (readExponentPart cs).bind fun (exponent, cs) =>
        concludeNumber mode ⟨negative, whole, fraction, exponent⟩ cs := by
  cases cs with
  | nil => rfl
  | cons c r =>
    by_cases hc : c = 'e' ∨ c = 'E'
    · simp only [readExponentPart, hc, if_true]
      cases readExponent r <;> rfl
    · simp only [readExponentPart, hc, if_false]
      rfl

theorem readFractionPart_of_ne {cs : List Char} (h : ∀ r, cs = '.' :: r → False) :
    readFractionPart cs = .ok ([], cs) := by
  unfold readFractionPart
  split
  · next r => exact absurd rfl (h r)
  · rfl

theorem readNumber_eq (mode : Mode) (negative : Bool) (cs : List Char) :
    readNumber mode negative cs =
      (readWhole cs).bind fun (whole, cs) =>
        (readFractionPart cs).bind fun (fraction, cs) =>
          (readExponentPart cs).bind fun (exponent, cs) =>
            concludeNumber mode ⟨negative, whole, fraction, exponent⟩ cs := by
  unfold readNumber
  cases readWhole cs with
  | error e => rfl
  | ok w =>
    obtain ⟨whole, cs⟩ := w
    simp only [bind, Except.bind]
    split
    · next r =>
      show Except.bind (readFraction r) _ = Except.bind (readFraction r) _
      cases readFraction r with
      | error e => rfl
      | ok f =>
        obtain ⟨fraction, cs⟩ := f
        exact concludeNumber_exponent mode negative whole fraction cs
    · next hdot =>
      rw [readFractionPart_of_ne hdot]
      exact concludeNumber_exponent mode negative whole [] cs

/-- A number that is concluded is the meaning of its parts, whatever is left. -/
theorem concludeNumber_of_eq_ok {mode : Mode} {w : Written} {cs r : List Char} {x : Node}
    (h : concludeNumber mode w cs = .ok (x, r)) :
    x = .number w.value? ∧ r = cs ∧ ∀ cs', concludeNumber mode w cs' = .ok (x, cs') := by
  unfold concludeNumber at h ⊢
  cases hv : w.value? with
  | none =>
    rw [hv] at h
    cases mode with
    | value => cases h
    | document =>
      cases h
      exact ⟨rfl, rfl, fun _ => rfl⟩
  | some n =>
    rw [hv] at h
    cases h
    exact ⟨rfl, rfl, fun _ => rfl⟩

/-- What a number is read as is the meaning of its parts. -/
theorem eq_value?_of_readNumber {mode : Mode} {negative : Bool} {cs r : List Char} {x : Node}
    (h : readNumber mode negative cs = .ok (x, r)) : ∃ w : Written, x = .number w.value? := by
  rw [readNumber_eq] at h
  obtain ⟨⟨whole, cs⟩, -, h⟩ := of_bind_eq_ok h
  obtain ⟨⟨fraction, cs⟩, -, h⟩ := of_bind_eq_ok h
  obtain ⟨⟨exponent, cs⟩, -, h⟩ := of_bind_eq_ok h
  obtain ⟨hx, -, -⟩ := concludeNumber_of_eq_ok h
  exact ⟨_, hx⟩

/-- Whole numbers have 64 bits, signed or not. -/
theorem int_of_value? {w : Written} {i : Int} (h : w.value? = some (.int i)) :
    -2 ^ 63 ≤ i ∧ i < 2 ^ 64 := by
  have hmax : Number.maxUInt64 = 2 ^ 64 - 1 := rfl
  have hfloat : w.float?.map Number.float ≠ some (.int i) := by
    cases w.float? <;> simp
  unfold Written.value? at h
  split at h
  · simp only at h
    split at h
    · split at h
      · cases h
      · split at h
        · cases h
          omega
        · exact absurd h hfloat
    · split at h
      · cases h
        omega
      · exact absurd h hfloat
  · exact absurd h hfloat

/-! ### What follows a number -/

section

variable {rest : List Char}

theorem ends_nil : Ends [] := fun _ _ h => by cases h

theorem ends_cons {c : Char} (h : c = ',' ∨ c = ']' ∨ c = '\x7d') (r : List Char) :
    Ends (c :: r) := by
  intro c' r' heq
  cases heq
  exact h

theorem Ends.not_digit (h : Ends rest) {c : Char} {r : List Char} (hr : rest = c :: r) :
    c.isDigit = false := by
  rcases h c r hr with rfl | rfl | rfl <;> decide

theorem takeWhile_digits_append (h : Ends rest) (cs : List Char) :
    (cs ++ rest).takeWhile Char.isDigit = cs.takeWhile Char.isDigit := by
  induction cs with
  | nil =>
    cases rest with
    | nil => rfl
    | cons c r => simp [h.not_digit rfl]
  | cons c cs ih =>
    rw [List.cons_append, List.takeWhile_cons, List.takeWhile_cons, ih]

theorem dropWhile_digits_append (h : Ends rest) (cs : List Char) :
    (cs ++ rest).dropWhile Char.isDigit = cs.dropWhile Char.isDigit ++ rest := by
  induction cs with
  | nil =>
    cases rest with
    | nil => rfl
    | cons c r => simp [h.not_digit rfl]
  | cons c cs ih =>
    rw [List.cons_append, List.dropWhile_cons, List.dropWhile_cons, ih]
    split <;> rfl

theorem readWhole_append (h : Ends rest) {cs whole r : List Char}
    (hw : readWhole cs = .ok (whole, r)) : readWhole (cs ++ rest) = .ok (whole, r ++ rest) := by
  cases cs with
  | nil => cases hw
  | cons c cs =>
    by_cases hc : c = '0'
    · subst hc
      cases cs with
      | nil =>
        cases hw
        cases rest with
        | nil => rfl
        | cons d s => simp [readWhole, h.not_digit rfl]
      | cons d s =>
        simp only [readWhole] at hw
        split at hw
        · cases hw
        · next hd =>
          cases hw
          simp [readWhole, hd]
    · have hcons : ∀ cs, readWhole (c :: cs) =
          if c.isDigit then .ok (c :: cs.takeWhile Char.isDigit, cs.dropWhile Char.isDigit)
          else stopAt .invalidNumber cs := by
        intro cs
        rw [readWhole]
        simpa using hc
      rw [hcons] at hw
      split at hw
      · next hd =>
        cases hw
        rw [List.cons_append, hcons, if_pos hd, takeWhile_digits_append h,
          dropWhile_digits_append h]
      · cases hw

theorem readFractionPart_append (h : Ends rest) {cs fraction r : List Char}
    (hf : readFractionPart cs = .ok (fraction, r)) :
    readFractionPart (cs ++ rest) = .ok (fraction, r ++ rest) := by
  cases cs with
  | nil =>
    cases hf
    cases rest with
    | nil => rfl
    | cons c r => rcases h c r rfl with rfl | rfl | rfl <;> rfl
  | cons c cs =>
    by_cases hc : c = '.'
    · subst hc
      simp only [readFractionPart, readFraction] at hf
      simp only [List.cons_append, readFractionPart, readFraction]
      rw [takeWhile_digits_append h, dropWhile_digits_append h]
      split at hf
      · split at hf <;> cases hf
      · next hne =>
        cases hf
        rw [if_neg hne]
    · have hcons : ∀ cs, readFractionPart (c :: cs) = .ok ([], c :: cs) := by
        intro cs
        rw [readFractionPart]
        simpa using hc
      rw [hcons] at hf
      cases hf
      rw [List.cons_append, hcons]

theorem exponentSign_append (c : Char) (cs : List Char) :
    exponentSign (c :: cs ++ rest) =
      ((exponentSign (c :: cs)).1, (exponentSign (c :: cs)).2 ++ rest) := by
  by_cases hplus : c = '+'
  · subst hplus
    rfl
  · by_cases hminus : c = '-'
    · subst hminus
      rfl
    · have hcons : ∀ cs, exponentSign (c :: cs) = (false, c :: cs) := by
        intro cs
        rw [exponentSign]
        · simpa using hplus
        · simpa using hminus
      rw [List.cons_append, hcons, hcons]
      rfl

theorem readExponentDigits_append (h : Ends rest) {minus : Bool} {cs r : List Char}
    {e : Bool × List Char} (he : readExponentDigits minus cs = .ok (e, r)) :
    readExponentDigits minus (cs ++ rest) = .ok (e, r ++ rest) := by
  cases cs with
  | nil => cases he
  | cons c cs =>
    rw [readExponentDigits] at he
    rw [List.cons_append, readExponentDigits]
    split at he
    · next hc =>
      cases he
      rw [if_pos hc, ← List.cons_append, takeWhile_digits_append h, dropWhile_digits_append h]
    · cases he

theorem readExponent_append (h : Ends rest) {cs r : List Char} {e : Bool × List Char}
    (he : readExponent cs = .ok (e, r)) : readExponent (cs ++ rest) = .ok (e, r ++ rest) := by
  cases cs with
  | nil => cases he
  | cons c cs =>
    rw [readExponent_eq] at he
    rw [readExponent_eq, exponentSign_append]
    exact readExponentDigits_append h he

theorem readExponentPart_append (h : Ends rest) {cs r : List Char}
    {exponent : Option (Bool × List Char)} (he : readExponentPart cs = .ok (exponent, r)) :
    readExponentPart (cs ++ rest) = .ok (exponent, r ++ rest) := by
  cases cs with
  | nil =>
    cases he
    cases rest with
    | nil => rfl
    | cons c r => rcases h c r rfl with rfl | rfl | rfl <;> rfl
  | cons c cs =>
    rw [readExponentPart] at he
    rw [List.cons_append, readExponentPart]
    split at he
    · next hc =>
      obtain ⟨⟨e, r'⟩, hr, heq⟩ := of_map_eq_ok he
      cases heq
      rw [if_pos hc, readExponent_append h hr]
      rfl
    · next hc =>
      cases he
      rw [if_neg hc]
      rfl

/-- **A number is read alike whatever follows it**, as long as a value can end there. -/
theorem readNumber_append (h : Ends rest) {mode : Mode} {negative : Bool} {cs r : List Char}
    {x : Node} (hx : readNumber mode negative cs = .ok (x, r)) :
    readNumber mode negative (cs ++ rest) = .ok (x, r ++ rest) := by
  rw [readNumber_eq] at hx ⊢
  obtain ⟨⟨whole, cs₁⟩, hw, hx⟩ := of_bind_eq_ok hx
  obtain ⟨⟨fraction, cs₂⟩, hf, hx⟩ := of_bind_eq_ok hx
  obtain ⟨⟨exponent, cs₃⟩, he, hx⟩ := of_bind_eq_ok hx
  rw [readWhole_append h hw]
  show (readFractionPart (cs₁ ++ rest)).bind _ = _
  rw [readFractionPart_append h hf]
  show (readExponentPart (cs₂ ++ rest)).bind _ = _
  rw [readExponentPart_append h he]
  obtain ⟨-, rfl, hconclude⟩ := concludeNumber_of_eq_ok hx
  exact hconclude (r ++ rest)

end

/-! ### Whole numbers -/

theorem digitChar_ne_zero {n : Nat} (hn : 0 < n) (hlt : n < 10) : n.digitChar ≠ '0' := by
  have hall : ∀ m < 10, 0 < m → m.digitChar ≠ '0' := by decide
  exact hall n hlt hn

theorem head_toDigits {n : Nat} (hn : 0 < n) : ∃ c r, Nat.toDigits 10 n = c :: r ∧ c ≠ '0' := by
  induction n using Nat.strongRecOn with
  | _ n ih =>
    by_cases hlt : n < 10
    · exact ⟨n.digitChar, [], Nat.toDigits_of_lt_base hlt, digitChar_ne_zero hn hlt⟩
    · obtain ⟨c, r, hr, hc⟩ := ih (n / 10) (by omega) (by omega)
      refine ⟨c, r ++ [(n % 10).digitChar], ?_, hc⟩
      rw [Nat.toDigits_of_base_le (by omega) (by omega), hr, List.cons_append]

theorem digitsValue_toDigits (n : Nat) : Number.digitsValue (Nat.toDigits 10 n) = n :=
  Nat.ofDigitChars_toDigits (by omega) (by omega)

theorem readWhole_toDigits (n : Nat) :
    readWhole (Nat.toDigits 10 n) = .ok (Nat.toDigits 10 n, []) := by
  by_cases hn : n = 0
  · subst hn
    rfl
  · have hdigits : ∀ c ∈ Nat.toDigits 10 n, c.isDigit = true :=
      fun c hc => Nat.isDigit_of_mem_toDigits (by omega) (by omega) hc
    obtain ⟨c, r, hr, hc⟩ := head_toDigits (Nat.pos_of_ne_zero hn)
    rw [hr] at hdigits ⊢
    have hr' : ∀ d ∈ r, d.isDigit = true := fun d hd => hdigits d (List.mem_cons_of_mem c hd)
    rw [readWhole]
    · rw [if_pos (hdigits c List.mem_cons_self), List.takeWhile_eq_self_iff.mpr hr',
        List.dropWhile_eq_nil_iff.mpr hr']
    · simpa using hc

/-- **The digits of a whole number are read as it**, with a sign if it is below zero. -/
theorem readNumber_toDigits {mode : Mode} {negative : Bool} {n : Nat}
    (hn : if negative then 0 < n ∧ n ≤ 2 ^ 63 else n < 2 ^ 64) :
    readNumber mode negative (Nat.toDigits 10 n) =
      .ok (.number (some (.int (if negative then -n else n))), []) := by
  have hmax : Number.maxUInt64 = 2 ^ 64 - 1 := rfl
  have hvalue : (Written.mk negative (Nat.toDigits 10 n) [] none).value? =
      some (.int (if negative then -n else n)) := by
    unfold Written.value?
    simp only [digitsValue_toDigits, and_self, if_true]
    cases negative with
    | true =>
      obtain ⟨hpos, hle⟩ := hn
      simp only [if_true]
      rw [if_neg (by omega), if_pos (by omega)]
    | false =>
      have hlt : n < 2 ^ 64 := hn
      simp only [Bool.false_eq_true, if_false]
      rw [if_pos (by omega)]
  rw [readNumber_eq, readWhole_toDigits]
  show concludeNumber mode ⟨negative, Nat.toDigits 10 n, [], none⟩ [] = _
  unfold concludeNumber
  rw [hvalue]

end SearchGateway.Json
