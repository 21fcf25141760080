import SearchGateway.Policy.Decision
import SearchGateway.Proofs.Number.Doubles
import SearchGateway.Proofs.Policy.Compiling

/-!
# The limit of a request's weight

Weights are doubles, and a compiled policy may hold infinite ones: large weights of fields may
also add up to infinity.  What is counted from them is never below zero, but it is not a number
where a factor of zero meets an infinite quantity, or the other way round.

    Param.quantity?        what a parameter's factor is multiplied with
    isNaN_weigh_iff        when a request's weight is not a number
    decide_allowed_iff     when a request is admitted

A request whose weight is not a number is not above any limit, so it is admitted, although its
weight is not within the limit either.
-/

namespace SearchGateway.Policy

open Number (NotBelow notBelow_add notBelow_mul isNaN_add isNaN_mul floatOfInt_of_nonneg
  not_lt_iff)

/-! ## Algorithm -/

/-- What the factor of a parameter is multiplied with in a state, if with anything. -/
def Param.quantity? {W : Type} [Cost W] (p : Param W) (catalog : Catalog W)
    (state : ParamState) : Option W :=
  if !state.enabled then none
  else match p.kind, state.reading with
    | .text _, some (.text values) => some (Cost.ofNat (p.textLength values))
    | .integer _, some (.integer values) =>
      some (Cost.sum (values.map fun v => Cost.ofNat v.toNat))
    | .fields _, some (.fields names) => some (Cost.sum (names.map (Param.fieldWeight catalog)))
    | _, _ => none

/-- Whether a factor of zero meets an infinite quantity, or an infinite factor none at all. -/
def Clash (factor quantity : Float) : Prop :=
  ((factor == 0.0) = true ∧ quantity.isInf = true) ∨
    (factor.isInf = true ∧ (quantity == 0.0) = true)

/-! ## Lemmas -/

theorem isWeight_iff {w : Float} : IsWeight w ↔ NotBelow w ∧ w.isNaN = false := by
  show (decide (w < 0.0) || w.isNaN) = false ↔ ¬ w < 0.0 ∧ w.isNaN = false
  rw [Bool.or_eq_false_iff, decide_eq_false_iff_not]

theorem isWeight_zero : IsWeight (Cost.zero : Float) := by
  show (decide ((0.0 : Float) < 0.0) || (0.0 : Float).isNaN) = false
  decide +kernel

/-! ### Sums -/

theorem foldl_add {ws : List Float} :
    ∀ {a : Float}, NotBelow a → (∀ w ∈ ws, NotBelow w) →
      NotBelow (ws.foldl Cost.add a) ∧
        (ws.foldl Cost.add a).isNaN = (a.isNaN || ws.any Float.isNaN) := by
  induction ws with
  | nil =>
    intro a ha _
    exact ⟨ha, (Bool.or_false _).symm⟩
  | cons w r ih =>
    intro a ha hws
    have hw := hws w List.mem_cons_self
    obtain ⟨hsum, hnan⟩ := ih (notBelow_add ha hw) fun x hx => hws x (List.mem_cons_of_mem w hx)
    refine ⟨hsum, ?_⟩
    refine hnan.trans ?_
    rw [isNaN_add ha hw, Bool.or_assoc]
    rfl

/-- A sum is not a number exactly if one of its parts is not. -/
theorem sum_of_notBelow {ws : List Float} (h : ∀ w ∈ ws, NotBelow w) :
    NotBelow (Cost.sum ws) ∧ (Cost.sum ws).isNaN = ws.any Float.isNaN := by
  have hz : NotBelow (-0.0) := by
    show ¬ (-0.0 : Float) < 0.0
    decide +kernel
  obtain ⟨hsum, hnan⟩ := foldl_add hz h
  exact ⟨hsum, hnan⟩

/-- Weights add up to a weight. -/
theorem isWeight_sum {ws : List Float} (h : ∀ w ∈ ws, IsWeight w) : IsWeight (Cost.sum ws) := by
  obtain ⟨hsum, hnan⟩ := sum_of_notBelow fun w hw => (isWeight_iff.mp (h w hw)).1
  refine isWeight_iff.mpr ⟨hsum, hnan.trans (List.any_eq_false.mpr fun w hw => ?_)⟩
  rw [(isWeight_iff.mp (h w hw)).2]
  exact Bool.false_ne_true

/-! ### Parameters -/

section

variable {p : Param Float} {catalog : Catalog Float} {state : ParamState}

theorem isWeight_fieldWeight (hc : catalog.Checked) (field : String) :
    IsWeight (Param.fieldWeight catalog field) := by
  unfold Param.fieldWeight
  split
  · rw [hc.total]
    refine isWeight_sum fun w hw => ?_
    obtain ⟨f, hf, rfl⟩ := List.mem_map.mp hw
    exact hc.fields f hf
  · unfold Catalog.cost
    cases hf : catalog.find? field with
    | none => exact hc.unlisted
    | some f => exact hc.fields f (List.mem_reverse.mp (List.mem_of_find?_eq_some hf))

theorem isWeight_ofNat (n : Nat) : IsWeight (Cost.ofNat n : Float) :=
  isWeight_iff.mpr (floatOfInt_of_nonneg (Int.natCast_nonneg n))

/-- What a factor is multiplied with is a weight. -/
theorem isWeight_quantity (hc : catalog.Checked) {q : Float}
    (h : p.quantity? catalog state = some q) : IsWeight q := by
  unfold Param.quantity? at h
  split at h
  · cases h
  · split at h
    · cases h
      exact isWeight_ofNat _
    · next values _ _ =>
      cases h
      refine isWeight_sum fun w hw => ?_
      obtain ⟨v, -, rfl⟩ := List.mem_map.mp hw
      exact isWeight_ofNat _
    · cases h
      refine isWeight_sum fun w hw => ?_
      obtain ⟨f, -, rfl⟩ := List.mem_map.mp hw
      exact isWeight_fieldWeight hc f
    · cases h

/-- A parameter costs its constant and its factor for the quantity; without one it costs the
constant or nothing. -/
theorem weight_eq (p : Param Float) (catalog : Catalog Float) (state : ParamState) :
    match p.quantity? catalog state with
    | some q => p.weight catalog state = Cost.affine p.constant p.factor q
    | none => p.weight catalog state = Cost.zero ∨ p.weight catalog state = p.constant := by
  obtain ⟨enabled, reading⟩ := state
  unfold Param.quantity? Param.weight
  cases enabled with
  | false => exact .inl rfl
  | true =>
    simp only [Bool.not_true, Bool.false_eq_true, if_false]
    rcases reading with _ | values | values | flag | names
    case none => cases p.kind <;> first | exact .inl rfl | exact .inr rfl
    case some.text => cases p.kind <;> first | rfl | exact .inl rfl | exact .inr rfl
    case some.integer => cases p.kind <;> first | rfl | exact .inl rfl | exact .inr rfl
    case some.boolean =>
      cases flag <;> cases p.kind <;> first | exact .inl rfl | exact .inr rfl
    case some.fields => cases p.kind <;> first | rfl | exact .inl rfl | exact .inr rfl

/-- What a parameter costs is not a number exactly where its factor clashes with its quantity. -/
theorem isNaN_weight_iff (hp : p.Checked) (hc : catalog.Checked) :
    NotBelow (p.weight catalog state) ∧
      ((p.weight catalog state).isNaN = true ↔
        ∃ q, p.quantity? catalog state = some q ∧ Clash p.factor q) := by
  obtain ⟨hconstant, hconstant'⟩ := isWeight_iff.mp hp.constant
  obtain ⟨hfactor, hfactor'⟩ := isWeight_iff.mp hp.factor
  have hw := weight_eq p catalog state
  cases hq : p.quantity? catalog state with
  | some q =>
    rw [hq] at hw
    obtain ⟨hquantity, hquantity'⟩ := isWeight_iff.mp (isWeight_quantity hc hq)
    rw [hw]
    refine ⟨notBelow_add hconstant (notBelow_mul hfactor hquantity), ?_⟩
    have hnan : (Cost.affine p.constant p.factor q).isNaN =
        (p.constant.isNaN || (p.factor * q).isNaN) :=
      isNaN_add hconstant (notBelow_mul hfactor hquantity)
    rw [hnan, isNaN_mul hfactor hquantity, hconstant', hfactor', hquantity']
    simp [Clash]
  | none =>
    rw [hq] at hw
    have hweight : IsWeight (p.weight catalog state) := by
      rcases hw with hw | hw
      · rw [hw]
        exact isWeight_zero
      · rw [hw]
        exact hp.constant
    obtain ⟨h, h'⟩ := isWeight_iff.mp hweight
    refine ⟨h, ?_⟩
    rw [h']
    simp

end

/-! ### Requests -/

section

variable {p : Profile Float} {c : Component Float} {params : Params}

/-- The state of a parameter is read off the values that the request gives under its name. -/
theorem lookup_states {W : Type} (c : Component W) (params : Params) (name : String) :
    (Profile.states c params).lookup name =
      (params.find? name).bind fun values => (c.param? name).map (·.read values) := by
  unfold Profile.states Ordered.find?
  induction params.entries with
  | nil => rfl
  | cons e r ih =>
    obtain ⟨k, values⟩ := e
    rw [Entries.find?]
    by_cases hk : k = name
    · subst hk
      rw [if_pos rfl]
      cases hc : c.param? k with
      | none =>
        rw [hc] at ih
        simp only [List.filterMap_cons, hc, Option.map_none, ih]
        cases Entries.find? k r <;> rfl
      | some param => simp [hc]
    · rw [if_neg hk, ← ih]
      cases hc : c.param? k with
      | none => simp only [List.filterMap_cons, hc, Option.map_none]
      | some param =>
        have hb : (name == k) = false := by simpa using Ne.symm hk
        simp only [List.filterMap_cons, hc, Option.map_some, List.lookup_cons, hb]

/-- A parameter adds to the weight what its values cost, if the request gives it. -/
theorem weight_given {param : Param Float} (hmem : param ∈ c.params.items) (params : Params)
    (catalog : Catalog Float) (x : Float) :
    ((Profile.states c params).lookup param.name).map (param.weight catalog) = some x ↔
      ∃ values, params.find? param.name = some values ∧
        x = param.weight catalog (param.read values) := by
  have hfind : c.param? param.name = some param := Roster.find?_of_mem hmem
  rw [lookup_states, hfind]
  cases params.find? param.name with
  | none => simp
  | some values => simp [eq_comm]

/-- What a component weighs is not a number exactly where a parameter clashes. -/
theorem isNaN_weight_component (params : Params) (hc : c.Checked)
    (hcatalog : p.catalog.Checked) :
    let w := c.weight p.catalog (Profile.enabled c params) (Profile.states c params)
    NotBelow w ∧ (w.isNaN = true ↔ ∃ param ∈ c.params.items, ∃ values q,
      params.find? param.name = some values ∧
        param.quantity? p.catalog (param.read values) = some q ∧ Clash param.factor q) := by
  intro w
  have hbase : IsWeight (if Profile.enabled c params then c.constant else Cost.zero) := by
    split
    · exact hc.constant
    · exact isWeight_zero
  obtain ⟨hbase, hbase'⟩ := isWeight_iff.mp hbase
  have hparts : ∀ x ∈ c.params.items.filterMap fun param =>
      ((Profile.states c params).lookup param.name).map (param.weight p.catalog), NotBelow x := by
    intro x hx
    obtain ⟨param, hmem, hx⟩ := List.mem_filterMap.mp hx
    obtain ⟨values, -, rfl⟩ := (weight_given hmem params p.catalog x).mp hx
    exact (isNaN_weight_iff (hc.params param hmem) hcatalog).1
  obtain ⟨hsum, hnan⟩ := sum_of_notBelow hparts
  refine ⟨notBelow_add hbase hsum, ?_⟩
  have hw : w.isNaN = _ := (isNaN_add hbase hsum).trans (by rw [hbase', hnan, Bool.false_or])
  rw [hw, List.any_eq_true]
  constructor
  · rintro ⟨x, hx, hxn⟩
    obtain ⟨param, hmem, hx⟩ := List.mem_filterMap.mp hx
    obtain ⟨values, hv, rfl⟩ := (weight_given hmem params p.catalog x).mp hx
    obtain ⟨q, hq, hclash⟩ := (isNaN_weight_iff (hc.params param hmem) hcatalog).2.mp hxn
    exact ⟨param, hmem, values, q, hv, hq, hclash⟩
  · rintro ⟨param, hmem, values, q, hv, hq, hclash⟩
    refine ⟨param.weight p.catalog (param.read values), ?_, ?_⟩
    · exact List.mem_filterMap.mpr
        ⟨param, hmem, (weight_given hmem params p.catalog _).mpr ⟨values, hv, rfl⟩⟩
    · exact (isNaN_weight_iff (hc.params param hmem) hcatalog).2.mpr ⟨q, hq, hclash⟩

/-- What unlisted parameters cost together is a weight. -/
theorem isWeight_unlisted (hp : p.Checked) (c : Component Float) (params : Params) :
    IsWeight (Cost.sum ((p.unlisted c params).map (·.weight))) := by
  refine isWeight_sum fun w hw => ?_
  obtain ⟨x, hx, rfl⟩ := List.mem_map.mp hw
  unfold Profile.unlisted at hx
  split at hx
  · obtain ⟨e, -, he⟩ := List.mem_filterMap.mp hx
    simp only at he
    split at he
    · cases he
    · cases he
      exact hp.unlisted
  · cases hx

/-- What a request weighs is not a number exactly where it gives a parameter that clashes. -/
theorem isNaN_weigh_iff (hp : p.Checked) (hc : c.Checked) :
    (p.weigh c params).isNaN = true ↔ ∃ name values param q, params.find? name = some values ∧
      c.param? name = some param ∧ param.quantity? p.catalog (param.read values) = some q ∧
      Clash param.factor q := by
  obtain ⟨hcomponent, hnan⟩ := isNaN_weight_component params hc hp.catalog
  obtain ⟨hunlisted, hunlisted'⟩ := isWeight_iff.mp (isWeight_unlisted hp c params)
  have hsum : (p.weigh c params).isNaN = _ := isNaN_add hcomponent hunlisted
  rw [hsum, hunlisted', Bool.or_false, hnan]
  constructor
  · rintro ⟨param, hmem, values, q, hv, hq, hclash⟩
    exact ⟨param.name, values, param, q, hv, Roster.find?_of_mem hmem, hq, hclash⟩
  · rintro ⟨name, values, param, q, hv, hparam, hq, hclash⟩
    have hname : param.name = name := Roster.name_of_find? hparam
    refine ⟨param, List.mem_of_find?_eq_some hparam, values, q, ?_, hq, hclash⟩
    rw [hname]
    exact hv

theorem component_checked (hp : p.Checked) {handler : String}
    (hc : p.component? handler = some c) : c.Checked :=
  hp.components c (List.mem_of_find?_eq_some hc)

/-- A request is admitted if it breaks no rule and its weight is not above the limit. -/
theorem allowed_iff_not_lt {handler : String} (hc : p.component? handler = some c)
    (params : Params) (limit : Option Float) :
    (p.decide handler params limit).allowed = true ↔
      (p.decide handler params limit).reasons = [] ∧
        ¬ (p.decide handler params limit).maxWeight < (p.decide handler params limit).weight := by
  unfold Profile.decide
  rw [hc]
  unfold Decision.allowed
  by_cases hr : p.reasons c handler params = []
  · have hexceeds : Cost.exceeds (p.weigh c params) (limit.getD p.maxWeight) =
        decide (limit.getD p.maxWeight < p.weigh c params) := rfl
    simp only [hr, hexceeds]
    by_cases hlt : limit.getD p.maxWeight < p.weigh c params <;> simp [hlt]
  · simp [hr]

end

/-! ## Top theorem -/

/-- **A request is admitted exactly if it breaks no rule and its weight is within the limit or
not a number.**  Which requests have such a weight is told by their parameters. -/
theorem decide_allowed_iff {s : Settings Float} {p : Profile Float}
    (hp : Profile.compile s = .ok p) {handler : String} {c : Component Float}
    (hc : p.component? handler = some c) (params : Params) {limit : Option Float}
    (hl : ∀ l, limit = some l → l.isNaN = false) :
    let d := p.decide handler params limit
    d.maxWeight = limit.getD p.maxWeight ∧
    (d.allowed = true ↔ d.reasons = [] ∧ (d.weight ≤ d.maxWeight ∨ d.weight.isNaN = true)) ∧
    (d.weight.isNaN = true ↔ ∃ name values param q, params.find? name = some values ∧
      c.param? name = some param ∧ param.quantity? p.catalog (param.read values) = some q ∧
      Clash param.factor q) := by
  have hchecked := Profile.compile_checked hp
  intro d
  have hd : d = p.decide handler params limit := rfl
  unfold Profile.decide at hd
  rw [hc] at hd
  simp only at hd
  have hmax : d.maxWeight = limit.getD p.maxWeight := by rw [hd]
  have hweight : d.weight = p.weigh c params := by rw [hd]
  have hnumber : d.maxWeight.isNaN = false := by
    rw [hmax]
    cases limit with
    | none => exact (isWeight_iff.mp hchecked.limit).2
    | some l => exact hl l rfl
  refine ⟨hmax, ?_, ?_⟩
  · have hallowed : d.allowed = true ↔ d.reasons = [] ∧ ¬ d.maxWeight < d.weight :=
      allowed_iff_not_lt hc params limit
    rw [hallowed, not_lt_iff, hnumber]
    simp
  · rw [hweight]
    exact isNaN_weigh_iff hchecked (component_checked hchecked hc)

/-! ## An overflowing policy -/

/-- Two fields that cost infinitely much together, and a parameter that charges nothing for
fields. -/
def overflowing : Settings Float where
  maxWeight := 1000.0
  unlistedFields := .default
  unlistedParams := .default
  fields := [⟨some "a", some 1e308⟩, ⟨some "b", some 1e308⟩]
  components := Ordered.empty.insert "select" { ComponentSettings.default with
    params := [{ ParamSettings.default with name := some "fl", kind := some "fields" }] }

/-- A request for both fields. -/
def bothFields : Params := Params.ofPairs [("fl", "a,b")]

/-- Whether a decision admits a request that breaks no rule but is not within the limit. -/
def Decision.isSlip (d : Decision Float) : Bool :=
  d.reasons.isEmpty && d.allowed && d.weight.isNaN && !decide (d.weight ≤ d.maxWeight)

/-- Whether a compiled profile has a component for a handler and decides with such a slip. -/
def Profile.slips (handler : String) (params : Params) : Except SettingsError (Profile Float) → Bool
  | .ok p => (p.component? handler).isSome && (p.decide handler params none).isSlip
  | .error _ => false

theorem decide_overflowing : ∃ p c, Profile.compile overflowing = .ok p ∧
    p.component? "select" = some c ∧ (p.decide "select" bothFields none).reasons = [] ∧
    (p.decide "select" bothFields none).allowed = true ∧
    (p.decide "select" bothFields none).weight.isNaN = true ∧
    ¬ (p.decide "select" bothFields none).weight ≤
      (p.decide "select" bothFields none).maxWeight := by
  have h : Profile.slips "select" bothFields (Profile.compile overflowing) = true := by
    decide +kernel
  cases hp : Profile.compile overflowing with
  | error e =>
    rw [hp] at h
    cases h
  | ok p =>
    rw [hp] at h
    unfold Profile.slips Decision.isSlip at h
    simp only [Bool.and_eq_true, Option.isSome_iff_exists, List.isEmpty_iff, Bool.not_eq_true',
      decide_eq_false_iff_not] at h
    obtain ⟨⟨c, hc⟩, ⟨⟨hreasons, hallowed⟩, hnan⟩, hle⟩ := h
    exact ⟨p, c, rfl, hc, hreasons, hallowed, hnan, hle⟩

/-- There the parameter clashes, and the request is admitted for that reason. -/
theorem decide_allowed_iff_overflowing : ∃ p c, Profile.compile overflowing = .ok p ∧
    p.component? "select" = some c ∧ (p.decide "select" bothFields none).allowed = true ∧
    ∃ name values param q, bothFields.find? name = some values ∧ c.param? name = some param ∧
      param.quantity? p.catalog (param.read values) = some q ∧ Clash param.factor q := by
  obtain ⟨p, c, hp, hc, hreasons, -, hnan, -⟩ := decide_overflowing
  obtain ⟨-, hallowed, hclash⟩ :=
    decide_allowed_iff hp hc bothFields fun (l : Float) (hl : none = some l) => by cases hl
  exact ⟨p, c, hp, hc, hallowed.mpr ⟨hreasons, .inr hnan⟩, hclash.mp hnan⟩

/-- Being admitted is not the same as breaking no rule and being within the limit. -/
theorem not_forall_allowed_iff_le : ¬ ∀ (s : Settings Float) (p : Profile Float)
    (handler : String) (c : Component Float) (params : Params) (limit : Option Float),
    Profile.compile s = .ok p → p.component? handler = some c →
    (∀ l, limit = some l → l.isNaN = false) →
    ((p.decide handler params limit).allowed = true ↔
      (p.decide handler params limit).reasons = [] ∧
        (p.decide handler params limit).weight ≤ (p.decide handler params limit).maxWeight) := by
  intro hall
  obtain ⟨p, c, hp, hc, -, hallowed, -, hle⟩ := decide_overflowing
  have h := hall overflowing p "select" c bothFields none hp hc fun l hl => by cases hl
  exact hle (h.mp hallowed).2

end SearchGateway.Policy
