import Mathlib.Algebra.Order.Ring.Rat
import Mathlib.Data.List.Forall2
import Mathlib.Data.List.Perm.Basic
import Mathlib.Data.List.Perm.Subperm
import Mathlib.Data.Nat.Cast.Order.Ring
import SearchGateway.Proofs.Policy.Compiling

/-!
# Comparing costs

Weights can be compared, and a sum does not fall when its parts rise or new parts come in between.
Nothing here asks that adding be associative: a sum goes from left to right, and rounding keeps
the order.  What does depend on rounding is the order of the parts.

    OrderedCost          an arithmetic in which adding and multiplying weights keeps the order
    AddsInAnyOrder       an arithmetic in which the order of the parts does not matter
    sum_le_sum           the parts may rise, and others may come in between
    sum_le_sum_of_subset more parts in any order, where the order does not matter
-/

namespace SearchGateway.Policy

/-! ## Ordered arithmetic -/

/-- An arithmetic of weights in which adding and multiplying weights keeps the order.  A weight is
what is not below zero. -/
class OrderedCost (W : Type) [Cost W] [Preorder W] : Prop where
  isWeight_iff_zero_le {a : W} : IsWeight a ↔ Cost.zero ≤ a
  zero_le_nothing : Cost.zero ≤ (Cost.nothing : W)
  le_add {a b : W} : Cost.zero ≤ a → Cost.zero ≤ b → a ≤ Cost.add a b
  add_le_add {a b a' b' : W} : Cost.zero ≤ a → Cost.zero ≤ b → a ≤ a' → b ≤ b' →
    Cost.add a b ≤ Cost.add a' b'
  zero_le_mul {a b : W} : Cost.zero ≤ a → Cost.zero ≤ b → Cost.zero ≤ Cost.mul a b
  mul_le_mul {a b b' : W} : Cost.zero ≤ a → Cost.zero ≤ b → b ≤ b' →
    Cost.mul a b ≤ Cost.mul a b'
  zero_le_ofNat (n : Nat) : Cost.zero ≤ (Cost.ofNat n : W)
  ofNat_le_ofNat {m n : Nat} : m ≤ n → (Cost.ofNat m : W) ≤ Cost.ofNat n
  exceeds_of_le {a b limit : W} : a ≤ b → Cost.exceeds a limit = true →
    Cost.exceeds b limit = true

/-- Parts may be added in any order. -/
def AddsInAnyOrder (W : Type) [Cost W] : Prop :=
  ∀ a b c : W, Cost.add (Cost.add a b) c = Cost.add (Cost.add a c) b

/-- Fractions, without any rounding. -/
instance : Cost ℚ where
  zero := 0
  nothing := 0
  add := (· + ·)
  mul := (· * ·)
  ofNat n := n
  exceeds a b := b < a
  isNegative a := a < 0

instance : OrderedCost ℚ where
  isWeight_iff_zero_le := by
    intro a
    show decide (a < 0) = false ↔ (0 : ℚ) ≤ a
    rw [decide_eq_false_iff_not, not_lt]
  zero_le_nothing := le_refl (0 : ℚ)
  le_add _ hb := le_add_of_nonneg_right hb
  add_le_add _ _ ha hb := add_le_add ha hb
  zero_le_mul ha hb := mul_nonneg ha hb
  mul_le_mul ha _ hb := mul_le_mul_of_nonneg_left hb ha
  zero_le_ofNat n := Nat.cast_nonneg n
  ofNat_le_ofNat h := Nat.cast_le.mpr h
  exceeds_of_le {a b limit} hab h := by
    have hlt : limit < a := of_decide_eq_true h
    exact decide_eq_true (lt_of_lt_of_le hlt hab)

theorem addsInAnyOrder_rat : AddsInAnyOrder ℚ := fun a b c => add_right_comm a b c

/-! ## Lemmas -/

section

variable {W : Type} [Cost W] [Preorder W] [OrderedCost W]

open OrderedCost

/-! ### Sums -/

theorem zero_le_foldl {ws : List W} (hws : ∀ w ∈ ws, Cost.zero ≤ w) :
    ∀ {a : W}, Cost.zero ≤ a → Cost.zero ≤ ws.foldl Cost.add a ∧ a ≤ ws.foldl Cost.add a := by
  induction ws with
  | nil => exact fun ha => ⟨ha, le_refl _⟩
  | cons w ws ih =>
    intro a ha
    have hw := hws w List.mem_cons_self
    have hstep : a ≤ Cost.add a w := le_add ha hw
    obtain ⟨hzero, hle⟩ := ih (fun x hx => hws x (List.mem_cons_of_mem w hx)) (ha.trans hstep)
    exact ⟨hzero, hstep.trans hle⟩

theorem zero_le_sum {ws : List W} (hws : ∀ w ∈ ws, Cost.zero ≤ w) : Cost.zero ≤ Cost.sum ws :=
  (zero_le_foldl hws zero_le_nothing).1

theorem foldl_le_foldl {ws ws' : List W} (h : List.SublistForall₂ (· ≤ ·) ws ws') :
    (∀ w ∈ ws, Cost.zero ≤ w) → (∀ w ∈ ws', Cost.zero ≤ w) → ∀ {a a' : W}, Cost.zero ≤ a →
      a ≤ a' → ws.foldl Cost.add a ≤ ws'.foldl Cost.add a' := by
  induction h with
  | nil =>
    intro _ hws' a a' ha haa'
    exact haa'.trans (zero_le_foldl hws' (ha.trans haa')).2
  | @cons w w' ws ws' hw _ ih =>
    intro hws hws' a a' ha haa'
    have hzero := hws w List.mem_cons_self
    refine ih (fun x hx => hws x (List.mem_cons_of_mem w hx))
      (fun x hx => hws' x (List.mem_cons_of_mem w' hx)) (ha.trans (le_add ha hzero)) ?_
    exact add_le_add ha hzero haa' hw
  | @cons_right w' ws ws' _ ih =>
    -- a part that comes in between raises the sum so far
    intro hws hws' a a' ha haa'
    have hzero := hws' w' List.mem_cons_self
    exact ih hws (fun x hx => hws' x (List.mem_cons_of_mem w' hx)) ha
      (haa'.trans (le_add (ha.trans haa') hzero))

/-- **A sum does not fall when its parts rise and others come in between.** -/
theorem sum_le_sum {ws ws' : List W} (h : List.SublistForall₂ (· ≤ ·) ws ws')
    (hws : ∀ w ∈ ws, Cost.zero ≤ w) (hws' : ∀ w ∈ ws', Cost.zero ≤ w) :
    Cost.sum ws ≤ Cost.sum ws' :=
  foldl_le_foldl h hws hws' zero_le_nothing (le_refl _)

theorem sum_le_sum_of_sublist {ws ws' : List W} (h : ws.Sublist ws')
    (hws' : ∀ w ∈ ws', Cost.zero ≤ w) : Cost.sum ws ≤ Cost.sum ws' :=
  sum_le_sum h.sublistForall₂ (fun w hw => hws' w (h.subset hw)) hws'

omit [Preorder W] [OrderedCost W] in
theorem sum_perm (horder : AddsInAnyOrder W) {ws ws' : List W} (h : ws.Perm ws') :
    Cost.sum ws = Cost.sum ws' := by
  have : RightCommutative (Cost.add : W → W → W) := ⟨horder⟩
  exact h.foldl_eq _

/-- Where the order does not matter, the parts may also be told in another order. -/
theorem sum_le_sum_of_subset {α : Type} (horder : AddsInAnyOrder W) {weigh : α → W}
    {as bs : List α} (hnodup : as.Nodup) (h : as ⊆ bs) (hbs : ∀ b ∈ bs, Cost.zero ≤ weigh b) :
    Cost.sum (as.map weigh) ≤ Cost.sum (bs.map weigh) := by
  obtain ⟨cs, hperm, hsub⟩ := hnodup.subperm h
  rw [← sum_perm horder (hperm.map weigh)]
  refine sum_le_sum_of_sublist (hsub.map weigh) fun w hw => ?_
  obtain ⟨b, hb, rfl⟩ := List.mem_map.mp hw
  exact hbs b hb

/-! ### A constant and a quantity -/

theorem zero_le_affine {constant factor quantity : W} (hconstant : Cost.zero ≤ constant)
    (hfactor : Cost.zero ≤ factor) (hquantity : Cost.zero ≤ quantity) :
    Cost.zero ≤ Cost.affine constant factor quantity :=
  hconstant.trans (le_add hconstant (zero_le_mul hfactor hquantity))

theorem affine_le_affine {constant factor q q' : W} (hconstant : Cost.zero ≤ constant)
    (hfactor : Cost.zero ≤ factor) (hq : Cost.zero ≤ q) (hle : q ≤ q') :
    Cost.affine constant factor q ≤ Cost.affine constant factor q' :=
  add_le_add hconstant (zero_le_mul hfactor hq) (le_refl _) (mul_le_mul hfactor hq hle)

end

end SearchGateway.Policy
