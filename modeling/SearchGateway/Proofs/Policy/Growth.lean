import SearchGateway.Proofs.Policy.Breakdown
import SearchGateway.Proofs.Policy.Comparing

/-!
# Values that grow

A parameter is given more when it gets another value, when an integer rises, when a text gets
longer or when a field list goes on.  More never charges less, and it is not taken where less was
not.

    Param.Grows              how one value grows
    Param.Outweighs          what charges no less, and is taken only where the other was
    outweighs_append         another value
    outweighs_of_grows       a value that grows

Integers grow within 64 bits, since no other is read.  Where a sum depends on the order of its
parts, a field list goes on only behind all others.
-/

namespace SearchGateway.Policy

variable {W : Type} [Cost W]

/-! ## Steps -/

/-- How one value of a declared parameter grows. -/
inductive Param.Grows (p : Param W) : List String → List String → Prop
  /-- An integer of 64 bits rises. -/
  | integer {limit : Option Int} {pre post : List String} {old new : String} {v v' : Int}
      (kind : p.kind = .integer limit) (read : readInteger old = some v)
      (read' : readInteger new = some v') (rises : v ≤ v') :
      p.Grows (pre ++ old :: post) (pre ++ new :: post)
  /-- The text of a parameter of one value gets longer. -/
  | text {limit : Option Nat} {pre post : List String} {old new : String}
      (kind : p.kind = .text limit) (single : p.multiValue = false)
      (longer : old.length ≤ new.length) : p.Grows (pre ++ old :: post) (pre ++ new :: post)
  /-- A field list goes on behind a comma. -/
  | fields {rule : FieldRule} {pre post : List String} {list : String} (more : String)
      (kind : p.kind = .fields rule)
      (order : post = [] ∨ p.multiValue = false ∨ AddsInAnyOrder W) :
      p.Grows (pre ++ list :: post) (pre ++ (list ++ "," ++ more) :: post)

variable [Preorder W]

/-- Values that charge no less than others, and are taken only if those are. -/
structure Param.Outweighs (p : Param W) (catalog : Catalog W) (vs vs' : List String) : Prop where
  charge_le : p.charge catalog vs ≤ p.charge catalog vs'
  legal_of : p.Legal catalog vs' → p.Legal catalog vs

/-! ## Lemmas -/

/-! ### Values -/

section

variable [OrderedCost W]

open OrderedCost

theorem zero_le_fieldWeight {catalog : Catalog W} (hc : catalog.Checked) (field : String) :
    Cost.zero ≤ Param.fieldWeight catalog field := by
  have hfields : ∀ f ∈ catalog.fields, Cost.zero ≤ f.weight :=
    fun f hf => isWeight_iff_zero_le.mp (hc.fields f hf)
  unfold Param.fieldWeight
  split
  · rw [hc.total]
    refine zero_le_sum fun w hw => ?_
    obtain ⟨f, hf, rfl⟩ := List.mem_map.mp hw
    exact hfields f hf
  · unfold Catalog.cost
    cases hf : catalog.find? field with
    | none => exact isWeight_iff_zero_le.mp hc.unlisted
    | some f => exact hfields f (List.mem_reverse.mp (List.mem_of_find?_eq_some hf))

end

namespace Param

variable {p : Param W} {catalog : Catalog W} {vs vs' : List String}

omit [Preorder W] in
/-- Only the considered values are charged for. -/
theorem charge_congr (h : p.considered vs = p.considered vs') :
    p.charge catalog vs = p.charge catalog vs' := by
  rw [← weight_read, ← weight_read]
  unfold read
  rw [h]

omit [Preorder W] in
theorem charge_text {limit : Option Nat} (hkind : p.kind = .text limit) :
    p.charge catalog vs =
      Cost.affine p.constant p.factor (Cost.ofNat (p.textLength (p.considered vs))) := by
  rw [← weight_read]
  unfold weight read
  rw [hkind]
  rfl

omit [Preorder W] in
theorem charge_integer {limit : Option Int} (hkind : p.kind = .integer limit) :
    p.charge catalog vs = Cost.affine p.constant p.factor
      (Cost.sum (((p.considered vs).filterMap readInteger).map fun v => Cost.ofNat v.toNat)) := by
  rw [← weight_read]
  unfold weight read
  rw [hkind]
  rfl

omit [Preorder W] in
theorem charge_fields {rule : FieldRule} (hkind : p.kind = .fields rule) :
    p.charge catalog vs = Cost.affine p.constant p.factor
      (Cost.sum ((FieldList.split (p.considered vs)).map (fieldWeight catalog))) := by
  rw [← weight_read]
  unfold weight read
  rw [hkind]
  rfl

/-- What a parameter takes of the values that it considers, by kind. -/
def Takes (p : Param W) (catalog : Catalog W) (values : List String) : Prop :=
  match p.kind with
  | .text limit => ∀ max, limit = some max → FitsLength p.multiValue max values
  | .integer limit => ∀ raw ∈ values, IsIntegerWithin limit raw
  | .boolean => ∃ raw, values.head? = some raw ∧ IsSwitch raw
  | .fields rule => ∀ t, FieldList.IsName values t → rule.Permits catalog t

omit [Cost W] [Preorder W] in
theorem legal_iff : p.Legal catalog vs ↔
    (p.multiValue = true ∨ vs.length ≤ 1) ∧ p.Takes catalog (p.considered vs) := Iff.rfl

omit [Cost W] [Preorder W] in
/-- What the considered values are when one value is another. -/
theorem considered_replace (p : Param W) (pre post : List String) :
    (∃ pre' post', (post = [] ∨ p.multiValue = false → post' = []) ∧
      ∀ x, p.considered (pre ++ x :: post) = pre' ++ x :: post') ∨
    ∃ l, ∀ x, p.considered (pre ++ x :: post) = l := by
  cases hm : p.multiValue with
  | true =>
    refine .inl ⟨pre, post, ?_, fun x => by rw [considered, hm]; rfl⟩
    rintro (h | h)
    · exact h
    · cases h
  | false =>
    cases pre with
    | nil => exact .inl ⟨[], [], fun _ => rfl, fun x => by rw [considered, hm]; rfl⟩
    | cons y pre => exact .inr ⟨[y], fun x => by rw [considered, hm]; rfl⟩

omit [Cost W] [Preorder W] in
theorem considered_append (hne : vs ≠ []) (v : String) :
    p.considered (vs ++ [v]) = if p.multiValue then vs ++ [v] else p.considered vs := by
  unfold considered
  cases p.multiValue with
  | true => rfl
  | false =>
    cases vs with
    | nil => exact absurd rfl hne
    | cons x vs => rfl

variable [OrderedCost W]

open OrderedCost

/-! ### What values charge -/

theorem charge_le_of_text (hp : p.Checked) {limit : Option Nat} (hkind : p.kind = .text limit)
    (h : p.textLength (p.considered vs) ≤ p.textLength (p.considered vs')) :
    p.charge catalog vs ≤ p.charge catalog vs' := by
  rw [charge_text hkind, charge_text hkind]
  exact affine_le_affine (isWeight_iff_zero_le.mp hp.constant) (isWeight_iff_zero_le.mp hp.factor)
    (zero_le_ofNat _) (ofNat_le_ofNat h)

theorem charge_le_of_integer (hp : p.Checked) {limit : Option Int}
    (hkind : p.kind = .integer limit)
    (h : List.SublistForall₂ (· ≤ ·) ((p.considered vs).filterMap readInteger)
      ((p.considered vs').filterMap readInteger)) :
    p.charge catalog vs ≤ p.charge catalog vs' := by
  have hzero : ∀ (is : List Int), ∀ w ∈ is.map fun v => (Cost.ofNat v.toNat : W), Cost.zero ≤ w := by
    intro is w hw
    obtain ⟨v, -, rfl⟩ := List.mem_map.mp hw
    exact zero_le_ofNat _
  have hmap : ∀ {is js : List Int}, List.SublistForall₂ (· ≤ ·) is js →
      List.SublistForall₂ (· ≤ ·) (is.map fun v => (Cost.ofNat v.toNat : W))
        (js.map fun v => Cost.ofNat v.toNat) := by
    intro is js hij
    induction hij with
    | nil => exact .nil
    | cons hle _ ih => exact .cons (ofNat_le_ofNat (Int.toNat_le_toNat hle)) ih
    | cons_right _ ih => exact .cons_right ih
  rw [charge_integer hkind, charge_integer hkind]
  exact affine_le_affine (isWeight_iff_zero_le.mp hp.constant) (isWeight_iff_zero_le.mp hp.factor)
    (zero_le_sum (hzero _)) (sum_le_sum (hmap h) (hzero _) (hzero _))

/-- More fields cost more, behind the others or, where the order does not matter, anywhere. -/
theorem charge_le_of_fields (hp : p.Checked) (hc : catalog.Checked) {rule : FieldRule}
    (hkind : p.kind = .fields rule)
    (h : FieldList.split (p.considered vs) <+: FieldList.split (p.considered vs') ∨
      AddsInAnyOrder W ∧ FieldList.split (p.considered vs) ⊆ FieldList.split (p.considered vs')) :
    p.charge catalog vs ≤ p.charge catalog vs' := by
  have hzero : ∀ names : List String, ∀ w ∈ names.map (fieldWeight catalog), Cost.zero ≤ w := by
    intro names w hw
    obtain ⟨name, -, rfl⟩ := List.mem_map.mp hw
    exact zero_le_fieldWeight hc name
  have hsum : Cost.sum ((FieldList.split (p.considered vs)).map (fieldWeight catalog)) ≤
      Cost.sum ((FieldList.split (p.considered vs')).map (fieldWeight catalog)) := by
    rcases h with hbehind | ⟨horder, hsubset⟩
    · exact sum_le_sum_of_sublist (hbehind.sublist.map _) (hzero _)
    · exact sum_le_sum_of_subset horder FieldList.nodup_split hsubset
        fun name _ => zero_le_fieldWeight hc name
  rw [charge_fields hkind, charge_fields hkind]
  exact affine_le_affine (isWeight_iff_zero_le.mp hp.constant) (isWeight_iff_zero_le.mp hp.factor)
    (zero_le_sum (hzero _)) hsum

theorem zero_le_charge (hp : p.Checked) (hc : catalog.Checked) :
    Cost.zero ≤ p.charge catalog vs := by
  have hconstant : Cost.zero ≤ p.constant := isWeight_iff_zero_le.mp hp.constant
  have hfactor : Cost.zero ≤ p.factor := isWeight_iff_zero_le.mp hp.factor
  cases hkind : p.kind with
  | text limit =>
    rw [charge_text hkind]
    exact zero_le_affine hconstant hfactor (zero_le_ofNat _)
  | integer limit =>
    rw [charge_integer hkind]
    refine zero_le_affine hconstant hfactor (zero_le_sum fun w hw => ?_)
    obtain ⟨v, -, rfl⟩ := List.mem_map.mp hw
    exact zero_le_ofNat _
  | boolean =>
    rw [← weight_read, weight_boolean hkind]
    split
    · exact hconstant
    · exact le_refl _
  | fields rule =>
    rw [charge_fields hkind]
    refine zero_le_affine hconstant hfactor (zero_le_sum fun w hw => ?_)
    obtain ⟨name, -, rfl⟩ := List.mem_map.mp hw
    exact zero_le_fieldWeight hc name

/-! ### What a step keeps of values -/

omit [OrderedCost W] in
theorem outweighs_of_considered (hcharge : p.charge catalog vs ≤ p.charge catalog vs')
    (hlength : vs.length ≤ vs'.length)
    (htakes : p.Takes catalog (p.considered vs') → p.Takes catalog (p.considered vs)) :
    p.Outweighs catalog vs vs' := by
  refine ⟨hcharge, fun h => ?_⟩
  obtain ⟨hsingle, htaken⟩ := legal_iff.mp h
  exact legal_iff.mpr ⟨hsingle.imp_right hlength.trans, htakes htaken⟩

omit [Cost W] [Preorder W] [OrderedCost W] in
theorem head?_append_of_ne_nil (hne : vs ≠ []) (v : String) : (vs ++ [v]).head? = vs.head? := by
  cases vs with
  | nil => exact absurd rfl hne
  | cons x vs => rfl

omit [Cost W] [Preorder W] [OrderedCost W] in
/-- Where every value counts, what is taken with another value is taken without it. -/
theorem takes_of_append (hm : p.multiValue = true) (hne : vs ≠ []) (v : String)
    (h : p.Takes catalog (vs ++ [v])) : p.Takes catalog vs := by
  unfold Takes at h ⊢
  cases hkind : p.kind with
  | text limit =>
    rw [hkind] at h
    intro max hmax
    have hfits := h max hmax
    unfold FitsLength at hfits ⊢
    rw [hm, if_pos rfl] at hfits ⊢
    rw [List.length_append] at hfits
    omega
  | integer limit =>
    rw [hkind] at h
    exact fun raw hraw => h raw (List.mem_append_left _ hraw)
  | boolean =>
    rw [hkind] at h
    obtain ⟨raw, hraw, hswitch⟩ := h
    exact ⟨raw, head?_append_of_ne_nil hne v ▸ hraw, hswitch⟩
  | fields rule =>
    rw [hkind] at h
    rintro t ⟨ht, value, hvalue, hpiece⟩
    exact h t ⟨ht, value, List.mem_append_left _ hvalue, hpiece⟩

/-- Where every value counts, another one charges no less. -/
theorem charge_le_append (hp : p.Checked) (hc : catalog.Checked) (hm : p.multiValue = true)
    (hne : vs ≠ []) (v : String) : p.charge catalog vs ≤ p.charge catalog (vs ++ [v]) := by
  have hall : ∀ vs : List String, p.considered vs = vs := by
    intro vs
    unfold considered
    rw [hm]
    rfl
  cases hkind : p.kind with
  | text limit =>
    refine charge_le_of_text hp hkind ?_
    rw [hall, hall]
    unfold textLength
    rw [hm]
    show vs.length ≤ (vs ++ [v]).length
    rw [List.length_append]
    omega
  | integer limit =>
    refine charge_le_of_integer hp hkind ?_
    rw [hall, hall, List.filterMap_append]
    exact (List.sublist_append_left _ _).sublistForall₂
  | boolean =>
    rw [← weight_read, ← weight_read, weight_boolean hkind, weight_boolean hkind, hall, hall,
      head?_append_of_ne_nil hne]
  | fields rule =>
    refine charge_le_of_fields hp hc hkind (.inl ?_)
    rw [hall, hall]
    exact FieldList.prefix_split _ List.flatMap_append

theorem outweighs_append (hp : p.Checked) (hc : catalog.Checked) (hne : vs ≠ []) (v : String) :
    p.Outweighs catalog vs (vs ++ [v]) := by
  have hconsidered := considered_append (p := p) hne v
  have hlength : vs.length ≤ (vs ++ [v]).length := by
    rw [List.length_append]
    omega
  cases hm : p.multiValue with
  | false =>
    -- the new value is not looked at
    rw [hm] at hconsidered
    refine outweighs_of_considered (le_of_eq (charge_congr hconsidered.symm)) hlength fun h => ?_
    rw [hconsidered] at h
    exact h
  | true =>
    refine outweighs_of_considered (charge_le_append hp hc hm hne v) hlength ?_
    unfold considered
    rw [hm]
    exact takes_of_append hm hne v

omit [OrderedCost W] in
/-- A value that is replaced is looked at in its place, or not at all. -/
theorem outweighs_replace {pre post : List String} {old new : String}
    (h : ∀ pre' post', (post = [] ∨ p.multiValue = false → post' = []) →
      (p.considered (pre ++ old :: post) = pre' ++ old :: post' →
        p.considered (pre ++ new :: post) = pre' ++ new :: post' →
        p.charge catalog (pre ++ old :: post) ≤ p.charge catalog (pre ++ new :: post)) ∧
      (p.Takes catalog (pre' ++ new :: post') → p.Takes catalog (pre' ++ old :: post'))) :
    p.Outweighs catalog (pre ++ old :: post) (pre ++ new :: post) := by
  have hlength : (pre ++ old :: post).length ≤ (pre ++ new :: post).length := by
    rw [List.length_append, List.length_append, List.length_cons, List.length_cons]
  rcases considered_replace p pre post with ⟨pre', post', hpost, hx⟩ | ⟨l, hl⟩
  · obtain ⟨hcharge, htakes⟩ := h pre' post' hpost
    refine outweighs_of_considered (hcharge (hx old) (hx new)) hlength ?_
    rw [hx, hx]
    exact htakes
  · refine outweighs_of_considered (le_of_eq (charge_congr ?_)) hlength ?_
    · rw [hl, hl]
    · rw [hl, hl]
      exact id

theorem sublistForall₂_replace {as bs : List Int} {v v' : Int} (h : v ≤ v') :
    List.SublistForall₂ (· ≤ ·) (as ++ v :: bs) (as ++ v' :: bs) := by
  induction as with
  | nil => exact .cons h (List.Sublist.refl bs).sublistForall₂
  | cons a as ih => exact .cons (le_refl a) ih

theorem isIntegerWithin_of_le {limit : Option Int} {old new : String} {v v' : Int}
    (hold : readInteger old = some v) (hnew : readInteger new = some v') (h : v ≤ v')
    (hwithin : IsIntegerWithin limit new) : IsIntegerWithin limit old := by
  obtain ⟨w, hw, hlow, hhigh, hmax⟩ := hwithin
  have hread : readInteger new = some w := Number.int64?_eq_some_iff.mpr ⟨hw, hlow, hhigh⟩
  obtain rfl : v' = w := by
    rw [hnew] at hread
    cases hread
    rfl
  obtain ⟨hv, hvlow, hvhigh⟩ := Number.int64?_eq_some_iff.mp hold
  exact ⟨v, hv, hvlow, hvhigh, fun max hlimit => h.trans (hmax max hlimit)⟩

/-- **A value that grows outweighs what it was.** -/
theorem outweighs_of_grows (hp : p.Checked) (hc : catalog.Checked) (h : p.Grows vs vs') :
    p.Outweighs catalog vs vs' := by
  cases h with
  | @integer limit pre post old new v v' kind read read' rises =>
    refine outweighs_replace fun pre' post' _ => ⟨fun hold hnew => ?_, ?_⟩
    · refine charge_le_of_integer hp kind ?_
      rw [hold, hnew, List.filterMap_append, List.filterMap_append,
        List.filterMap_cons_some read, List.filterMap_cons_some read']
      exact sublistForall₂_replace rises
    · unfold Takes
      rw [kind]
      intro htaken raw hraw
      rcases List.mem_append.mp hraw with hraw | hraw
      · exact htaken raw (List.mem_append_left _ hraw)
      rcases List.mem_cons.mp hraw with rfl | hraw
      · exact isIntegerWithin_of_le read read' rises
          (htaken new (List.mem_append_right _ List.mem_cons_self))
      · exact htaken raw (List.mem_append_right _ (List.mem_cons_of_mem _ hraw))
  | @text limit pre post old new kind single longer =>
    refine outweighs_replace fun pre' post' hpost => ⟨fun hold hnew => ?_, ?_⟩
    · refine charge_le_of_text hp kind ?_
      rw [hold, hnew]
      unfold textLength
      rw [single]
      cases pre' with
      | nil => exact longer
      | cons x pre' => exact le_refl _
    · unfold Takes FitsLength
      rw [kind, single]
      intro htaken max hmax
      have hfits := htaken max hmax
      cases pre' with
      | nil =>
        intro raw hraw
        cases hraw
        exact longer.trans (hfits new rfl)
      | cons x pre' => exact hfits
  | @fields rule pre post list more kind order =>
    refine outweighs_replace fun pre' post' hpost => ⟨fun hold hnew => ?_, ?_⟩
    · refine charge_le_of_fields hp hc kind ?_
      rw [hold, hnew]
      rcases order with hlast | hsingle | horder
      · exact .inl (FieldList.prefix_split_comma pre' (hpost (.inl hlast)))
      · exact .inl (FieldList.prefix_split_comma pre' (hpost (.inr hsingle)))
      · exact .inr ⟨horder, FieldList.split_subset_comma pre' post' more⟩
    · unfold Takes
      rw [kind]
      intro htaken t ht
      have hmem := FieldList.split_subset_comma pre' post' more (FieldList.mem_split_iff.mpr ht)
      exact htaken t (FieldList.mem_split_iff.mp hmem)

end Param

end SearchGateway.Policy
