import Mathlib.Data.List.Nodup
import SearchGateway.Proofs.Policy.Legality
import SearchGateway.Proofs.Policy.Limit

/-!
# What a breakdown explains

A decision tells what its request weighs and which parts the weight has.  The two are counted
apart: the weight by the component, which goes through its parameters in the order of their
names, the parts along the request.  They agree, and no part is left out or counted twice.

    Param.charge        what a parameter charges for values, as they stand in the request
    Itemised            the parts of a request: the component, declared and unlisted parameters
    weight_read         reading values and weighing the state is charging for the values
    decide_breakdown    a decision's weight is the sum of the parts that it tells

Sums in doubles depend on their order, so the order of the summands belongs to the statement.
-/

namespace SearchGateway.Policy

variable {W : Type}

/-! ## Charges -/

/-- Whether a word switches something on, in any case, blanks around it ignored. -/
def IsOn (raw : String) : Prop :=
  String.ofList ((Text.trimChars raw.toList).map Char.toLower) ∈ ["true", "on", "yes", "1"]

instance (raw : String) : Decidable (IsOn raw) :=
  inferInstanceAs (Decidable (_ ∈ ["true", "on", "yes", "1"]))

/-- What the integers among values amount to.  One below zero counts as zero, and each is a
weight before it is added, so that no sum of integers is ever formed. -/
def integerAmount [Cost W] (values : List String) : W :=
  Cost.sum ((values.filterMap readInteger).map fun v => Cost.ofNat (max v 0).toNat)

/-- What a parameter charges for values.  A parameter of one value looks at the first alone. -/
def Param.charge [Cost W] (p : Param W) (catalog : Catalog W) (values : List String) : W :=
  let considered := if p.multiValue then values else values.take 1
  match p.kind with
  | .text _ =>
    let length := if p.multiValue then values.length else (values.head?.map String.length).getD 0
    Cost.add p.constant (Cost.mul p.factor (Cost.ofNat length))
  | .integer _ => Cost.add p.constant (Cost.mul p.factor (integerAmount considered))
  | .boolean => if ∃ raw ∈ considered.head?, IsOn raw then p.constant else Cost.zero
  | .fields _ =>
    let names := (considered.flatMap FieldList.tokens).eraseDups
    Cost.add p.constant (Cost.mul p.factor (Cost.sum (names.map fun name =>
      if name = "*" then catalog.total else (catalog.cost name).weight)))

/-- A state that values of this kind can have. -/
def Kind.Holds : Kind → ParamState → Prop
  | .text _, state => ∃ values, state = ⟨true, some (.text values)⟩
  | .integer _, state => ∃ values, state = ⟨true, some (.integer values)⟩
  | .boolean, state => (∃ flag, state = ⟨flag, some (.boolean flag)⟩) ∨ state = ⟨false, none⟩
  | .fields _, state => ∃ names, state = ⟨true, some (.fields names)⟩

/-- Whether a component has a parameter of this name. -/
def Component.Declares (c : Component W) (name : String) : Prop :=
  ∃ param ∈ c.params.items, param.name = name

instance (c : Component W) (name : String) : Decidable (c.Declares name) :=
  inferInstanceAs (Decidable (∃ param ∈ c.params.items, param.name = name))

/-- The parts of a request, in its own order: what the component charges if it counts, what
each declared parameter charges for the values that it is given, and the price of each other
parameter where such are allowed. -/
structure Itemised [Cost W] (p : Profile W) (c : Component W) (params : Params)
    (base : Option (Contribution W)) (declared unlisted : List (Contribution W)) : Prop where
  base_eq : base =
    if c.defaultEnabled = true ∨ ∃ name ∈ params.keys, c.Declares name
    then some ⟨c.name, c.constant⟩ else none
  declared_names : declared.map (·.name) = params.keys.filter fun name => c.Declares name
  declared_weight : ∀ e ∈ declared, ∃ values, params.find? e.name = some values ∧
    ∃ param ∈ c.params.items, param.name = e.name ∧ e.weight = param.charge p.catalog values
  unlisted_names : unlisted.map (·.name) =
    if p.unlistedParams.allowed then params.keys.filter fun name => ¬ c.Declares name else []
  unlisted_weight : ∀ e ∈ unlisted, e.weight = p.unlistedParams.weight

/-! ## Lemmas -/

/-! ### States -/

namespace Param

variable {p : Param W} {catalog : Catalog W} {values : List String}

/-- Values are read into a state of the parameter's own kind. -/
theorem holds_read : p.kind.Holds (p.read values) := by
  unfold read
  cases p.kind with
  | text limit => exact ⟨_, rfl⟩
  | integer limit => exact ⟨_, rfl⟩
  | boolean =>
    simp only [Kind.Holds]
    cases readSwitch ((p.considered values).head?.getD "") with
    | none => exact .inr rfl
    | some flag => exact .inl ⟨flag, rfl⟩
  | fields rule => exact ⟨_, rfl⟩

theorem textLength_considered : p.textLength (p.considered values) =
    if p.multiValue then values.length else (values.head?.map String.length).getD 0 := by
  unfold textLength considered
  cases p.multiValue with
  | true => rfl
  | false => cases values <;> rfl

variable [Cost W]

theorem weight_boolean (hkind : p.kind = .boolean) :
    p.weight catalog (p.read values) =
      if ∃ raw ∈ (p.considered values).head?, IsOn raw then p.constant else Cost.zero := by
  have hon : (∃ raw ∈ (p.considered values).head?, IsOn raw) ↔
      readSwitch ((p.considered values).head?.getD "") = some true := by
    cases (p.considered values).head? with
    | none =>
      have hempty : readSwitch "" = none := by decide
      simp [hempty]
    | some raw => simp [readSwitch_eq_some_iff, IsOn, wordsOf]
  simp only [hon]
  unfold weight read
  cases hread : readSwitch ((p.considered values).head?.getD "") with
  | none => simp [hkind, hread]
  | some flag => cases flag <;> simp [hkind, hread]

/-- **Reading values and weighing the state is charging for the values.** -/
theorem weight_read : p.weight catalog (p.read values) = p.charge catalog values := by
  cases hkind : p.kind with
  | text limit =>
    unfold weight read charge
    rw [hkind]
    show Cost.affine p.constant p.factor (Cost.ofNat (p.textLength (p.considered values))) = _
    rw [textLength_considered]
    rfl
  | integer limit =>
    unfold weight read charge integerAmount
    rw [hkind]
    have hnat : (fun v : Int => (Cost.ofNat v.toNat : W)) =
        fun v => Cost.ofNat (max v 0).toNat := by
      funext v
      congr 1
      omega
    show Cost.affine p.constant p.factor (Cost.sum (((p.considered values).filterMap
      readInteger).map fun v => Cost.ofNat v.toNat)) = _
    rw [hnat]
    rfl
  | boolean =>
    rw [weight_boolean hkind]
    unfold charge
    rw [hkind]
    rfl
  | fields rule =>
    unfold weight read charge
    rw [hkind]
    show Cost.affine p.constant p.factor (Cost.sum ((FieldList.split (p.considered values)).map
      (fieldWeight catalog))) = _
    rw [FieldList.split_eq_eraseDups]
    rfl

end Param

/-- What integers amount to is never below zero, and it is a number. -/
theorem isWeight_integerAmount (values : List String) :
    IsWeight (integerAmount values : Float) := by
  refine isWeight_sum fun w hw => ?_
  obtain ⟨v, -, rfl⟩ := List.mem_map.mp hw
  exact isWeight_ofNat _

/-! ### Requests -/

theorem isSome_param?_iff {c : Component W} {name : String} :
    (c.param? name).isSome = true ↔ c.Declares name := by
  unfold Component.param? Roster.find? Component.Declares
  rw [List.find?_isSome]
  simp

theorem enabled_iff {c : Component W} {params : Params} :
    Profile.enabled c params = true ↔
      c.defaultEnabled = true ∨ ∃ name ∈ params.keys, c.Declares name := by
  unfold Profile.enabled Ordered.keys Entries.keys
  rw [Bool.or_eq_true, List.any_eq_true]
  refine or_congr Iff.rfl ⟨?_, ?_⟩
  · rintro ⟨e, he, hdeclared⟩
    exact ⟨e.1, List.mem_map_of_mem he, isSome_param?_iff.mp hdeclared⟩
  · rintro ⟨name, hname, hdeclared⟩
    obtain ⟨e, he, rfl⟩ := List.mem_map.mp hname
    exact ⟨e, he, isSome_param?_iff.mpr hdeclared⟩

/-- Contributions picked out by their names stand in the order of the names. -/
theorem map_name_filterMap {f : String × List String → Option (Contribution W)}
    {picks : String → Prop} [DecidablePred picks]
    (h : ∀ e, (f e).map (·.name) = if picks e.1 then some e.1 else none) (params : Params) :
    (params.entries.filterMap f).map (·.name) = params.keys.filter fun name => picks name := by
  unfold Ordered.keys Entries.keys
  rw [List.map_filterMap, List.filter_map, ← List.filterMap_eq_filter, List.map_filterMap]
  refine List.filterMap_congr fun e _ => ?_
  rw [h]
  by_cases he : picks e.1 <;> simp [Option.guard, he]

section

variable [Cost W] {p : Profile W} {c : Component W} {params : Params}

theorem mem_declared_iff {e : Contribution W} :
    e ∈ p.declared c params ↔ ∃ values, params.find? e.name = some values ∧
      ∃ param ∈ c.params.items, param.name = e.name ∧
        e.weight = param.charge p.catalog values := by
  unfold Profile.declared
  rw [List.mem_filterMap]
  constructor
  · rintro ⟨⟨name, values⟩, hmem, he⟩
    obtain ⟨param, hparam, rfl⟩ := Option.map_eq_some_iff.mp he
    exact ⟨values, Ordered.mem_entries_iff.mp hmem, param, List.mem_of_find?_eq_some hparam,
      Roster.name_of_find? hparam, Param.weight_read⟩
  · rintro ⟨values, hvalues, param, hparam, hname, hweight⟩
    refine ⟨(e.name, values), Ordered.mem_entries_iff.mpr hvalues, ?_⟩
    have hfind : c.param? param.name = some param := Roster.find?_of_mem hparam
    obtain ⟨name, weight⟩ := e
    simp only at hname hweight ⊢
    rw [← hname, hfind, Option.map_some, Param.weight_read, hweight]

/-- The parts that a decision tells are those of its request. -/
theorem itemised (p : Profile W) (c : Component W) (params : Params) :
    Itemised p c params (if Profile.enabled c params then some ⟨c.name, c.constant⟩ else none)
      (p.declared c params) (p.unlisted c params) where
  base_eq := by simp only [enabled_iff]
  declared_names := by
    refine map_name_filterMap (fun e => ?_) params
    simp only [← isSome_param?_iff]
    cases c.param? e.1 <;> simp
  declared_weight e he := mem_declared_iff.mp he
  unlisted_names := by
    unfold Profile.unlisted
    cases p.unlistedParams.allowed with
    | false => rfl
    | true =>
      refine map_name_filterMap (fun e => ?_) params
      simp only [← isSome_param?_iff]
      cases c.param? e.1 <;> simp
  unlisted_weight e he := by
    unfold Profile.unlisted at he
    split at he
    · obtain ⟨entry, -, hentry⟩ := List.mem_filterMap.mp he
      simp only at hentry
      split at hentry
      · cases hentry
      · cases hentry
        rfl
    · cases he

/-- Every parameter that is not declared weighs the same. -/
theorem map_weight_unlisted (p : Profile W) (c : Component W) (params : Params) :
    (p.unlisted c params).map (·.weight) =
      List.replicate (p.unlisted c params).length p.unlistedParams.weight := by
  rw [List.eq_replicate_iff, List.length_map]
  refine ⟨rfl, fun w hw => ?_⟩
  obtain ⟨e, he, rfl⟩ := List.mem_map.mp hw
  exact (itemised p c params).unlisted_weight e he

/-- The declared parameters that a request gives, in the order of their names. -/
def byName (p : Profile W) (c : Component W) (params : Params) : List (Contribution W) :=
  c.params.items.filterMap fun param =>
    (params.find? param.name).map fun values => ⟨param.name, param.charge p.catalog values⟩

theorem pairwise_byName : (byName p c params).Pairwise fun a b => a.name < b.name := by
  unfold byName
  refine List.pairwise_filterMap.mpr (c.params.sorted.imp fun {a b} hlt x hx y hy => ?_)
  obtain ⟨_, -, rfl⟩ := Option.map_eq_some_iff.mp hx
  obtain ⟨_, -, rfl⟩ := Option.map_eq_some_iff.mp hy
  exact hlt

theorem mem_byName_iff {e : Contribution W} :
    e ∈ byName p c params ↔ e ∈ p.declared c params := by
  rw [mem_declared_iff]
  unfold byName
  rw [List.mem_filterMap]
  constructor
  · rintro ⟨param, hparam, he⟩
    obtain ⟨values, hvalues, rfl⟩ := Option.map_eq_some_iff.mp he
    exact ⟨values, hvalues, param, hparam, rfl, rfl⟩
  · rintro ⟨values, hvalues, param, hparam, hname, hweight⟩
    refine ⟨param, hparam, ?_⟩
    obtain ⟨name, weight⟩ := e
    simp only at hname hweight hvalues
    rw [hname, hvalues, hweight]
    rfl

/-- No part is lost or told twice by going through the names in their order. -/
theorem perm_byName : (byName p c params).Perm (p.declared c params) := by
  have hbyName : (byName p c params).Nodup := by
    have hsorted : (byName p c params).Pairwise fun a b => a.name < b.name := pairwise_byName
    refine hsorted.imp fun {a b} hlt heq => ?_
    rw [heq] at hlt
    exact String.lt_irrefl _ hlt
  have hdeclared : (p.declared c params).Nodup := by
    refine List.Nodup.of_map (·.name) ?_
    rw [(itemised p c params).declared_names]
    exact List.Nodup.filter _ params.distinct
  exact (List.perm_ext_iff_of_nodup hbyName hdeclared).mpr fun e => mem_byName_iff

/-- A component weighs its constant, if it counts, and its given parameters by name. -/
theorem weight_component : c.weight p.catalog (Profile.enabled c params)
      (Profile.states c params) =
    Cost.add (if Profile.enabled c params then c.constant else Cost.zero)
      (Cost.sum ((byName p c params).map (·.weight))) := by
  unfold Component.weight byName
  rw [List.map_filterMap]
  congr 2
  refine List.filterMap_congr fun param hparam => ?_
  have hfind : c.param? param.name = some param := Roster.find?_of_mem hparam
  rw [lookup_states, hfind]
  cases params.find? param.name with
  | none => rfl
  | some values => exact congrArg some Param.weight_read

end

/-! ## Top theorem -/

/-- **The weight of a decision is what its breakdown explains.**  The breakdown tells the
component, the declared and the unlisted parameters in the order of the request; the weight
adds up the same parts, the declared ones in the order of their names.  No parameter is ever
weighed in a state of another kind, and what integers amount to does not fall below zero. -/
theorem decide_breakdown (p : Profile Float) (handler : String) (params : Params)
    (limit : Option Float) :
    let d := p.decide handler params limit
    match p.component? handler with
    | none => d.breakdown = [] ∧ d.weight = Cost.zero
    | some c =>
      c.name = handler ∧
      (∃ base declared unlisted, Itemised p c params base declared unlisted ∧
        d.breakdown = base.toList ++ declared ++ unlisted ∧
        ∃ sorted : List (Contribution Float), sorted.Perm declared ∧
          sorted.Pairwise (fun a b => a.name < b.name) ∧
          d.weight = Cost.add
            (Cost.add ((base.map (·.weight)).getD Cost.zero) (Cost.sum (sorted.map (·.weight))))
            (Cost.sum (unlisted.map (·.weight)))) ∧
      (∀ name values param, params.find? name = some values → c.param? name = some param →
        param.kind.Holds (param.read values)) ∧
      ∀ values, IsWeight (integerAmount values : Float) := by
  intro d
  have hd : d = p.decide handler params limit := rfl
  unfold Profile.decide at hd
  cases hc : p.component? handler with
  | none =>
    rw [hc] at hd
    rw [hd]
    exact ⟨rfl, rfl⟩
  | some c =>
    rw [hc] at hd
    simp only at hd
    have hbreakdown : d.breakdown = p.breakdown c params := by rw [hd]
    have hweight : d.weight = p.weigh c params := by rw [hd]
    refine ⟨Roster.name_of_find? hc, ?_, fun _ _ _ _ _ => Param.holds_read,
      isWeight_integerAmount⟩
    refine ⟨_, _, _, itemised p c params, ?_, byName p c params, perm_byName, pairwise_byName, ?_⟩
    · rw [hbreakdown]
      unfold Profile.breakdown
      cases Profile.enabled c params <;> rfl
    · rw [hweight]
      unfold Profile.weigh
      rw [weight_component]
      cases Profile.enabled c params <;> rfl

end SearchGateway.Policy
