import Mathlib.Logic.Relation
import SearchGateway.Proofs.Policy.Growth

/-!
# Requests that grow

A request grows step by step: a parameter comes in, one gets another value, or a value grows.  No
step makes it cheaper, and none makes a request legal that was not, so what is admitted after any
number of steps would have been admitted before.

    Component.Step         one step of a request
    Profile.Outweighs      what a step keeps, and so any number of them
    weigh_le_of_outweighs  the weight, part by part
    decide_monotone        the decision
    heavier_admitted       two ways to grow that are none of these steps
-/

namespace SearchGateway.Policy

variable {W : Type} [Cost W]

/-! ## Steps -/

/-- How a request grows. -/
inductive Component.Step (c : Component W) : Params → Params → Prop
  /-- A parameter comes in, with values. -/
  | added {R R' : Params} {pre post : List (String × List String)} {name : String}
      {values : List String} (before : R.entries = pre ++ post)
      (after : R'.entries = pre ++ (name, values) :: post) (given : values ≠ []) : c.Step R R'
  /-- A parameter gets another value. -/
  | appended {R R' : Params} {pre post : List (String × List String)} {name : String}
      {values : List String} (value : String) (before : R.entries = pre ++ (name, values) :: post)
      (after : R'.entries = pre ++ (name, values ++ [value]) :: post) : c.Step R R'
  /-- A value of a declared parameter grows. -/
  | grown {R R' : Params} {pre post : List (String × List String)} {name : String}
      {values values' : List String} {p : Param W}
      (before : R.entries = pre ++ (name, values) :: post)
      (after : R'.entries = pre ++ (name, values') :: post) (declared : c.param? name = some p)
      (grows : p.Grows values values') : c.Step R R'

/-- Every parameter of a request has a value. -/
def AllGiven (R : Params) : Prop := ∀ e ∈ R.entries, e.2 ≠ []

variable [Preorder W]

/-- A request that gives at least what another one gives. -/
structure Profile.Outweighs (p : Profile W) (c : Component W) (R R' : Params) : Prop where
  keys : R.keys.Sublist R'.keys
  params : ∀ param ∈ c.params.items, ∀ vs, R.find? param.name = some vs →
    ∃ vs', R'.find? param.name = some vs' ∧ param.Outweighs p.catalog vs vs'

/-! ## Lemmas -/

/-! ### What a step keeps -/

namespace Profile

variable {p : Profile W} {c : Component W} {R R' R'' : Params}

theorem Outweighs.refl (p : Profile W) (c : Component W) (R : Params) : p.Outweighs c R R :=
  ⟨List.Sublist.refl _, fun _ _ vs hvs => ⟨vs, hvs, le_refl _, id⟩⟩

theorem Outweighs.trans (h : p.Outweighs c R R') (h' : p.Outweighs c R' R'') :
    p.Outweighs c R R'' := by
  refine ⟨h.keys.trans h'.keys, fun param hparam vs hvs => ?_⟩
  obtain ⟨vs', hvs', hle, hlegal⟩ := h.params param hparam vs hvs
  obtain ⟨vs'', hvs'', hle', hlegal'⟩ := h'.params param hparam vs' hvs'
  exact ⟨vs'', hvs'', hle.trans hle', hlegal ∘ hlegal'⟩

/-- A parameter that comes in leaves the others where they are. -/
theorem outweighs_of_added {pre post : List (String × List String)} {e : String × List String}
    (before : R.entries = pre ++ post) (after : R'.entries = pre ++ e :: post) :
    p.Outweighs c R R' := by
  have hsub : R.entries.Sublist R'.entries := by
    rw [before, after]
    exact (List.Sublist.refl pre).append (List.sublist_cons_self e post)
  refine ⟨hsub.map Prod.fst, fun param _ vs hvs => ⟨vs, ?_, le_refl _, id⟩⟩
  exact Ordered.mem_entries_iff.mp (hsub.subset (Ordered.mem_entries_iff.mpr hvs))

/-- Values that are replaced by ones that outweigh them make a request that outweighs it. -/
theorem outweighs_of_replaced {pre post : List (String × List String)} {name : String}
    {values values' : List String} (before : R.entries = pre ++ (name, values) :: post)
    (after : R'.entries = pre ++ (name, values') :: post)
    (h : ∀ param ∈ c.params.items, param.name = name →
      param.Outweighs p.catalog values values') : p.Outweighs c R R' := by
  have hkeys : R.keys = R'.keys := by
    unfold Ordered.keys Entries.keys
    rw [before, after, List.map_append, List.map_append]
    rfl
  refine ⟨hkeys ▸ List.Sublist.refl _, fun param hparam vs hvs => ?_⟩
  have hmem := Ordered.mem_entries_iff.mpr hvs
  have hfind : ∀ {k : String} {ws : List String}, (k, ws) ∈ pre ++ (name, values') :: post →
      R'.find? k = some ws := fun hws => Ordered.mem_entries_iff.mp (after ▸ hws)
  rw [before] at hmem
  rcases List.mem_append.mp hmem with hmem | hmem
  · exact ⟨vs, hfind (List.mem_append_left _ hmem), le_refl _, id⟩
  rcases List.mem_cons.mp hmem with heq | hmem
  · obtain ⟨hname, rfl⟩ : param.name = name ∧ vs = values := by
      cases heq
      exact ⟨rfl, rfl⟩
    refine ⟨values', ?_, h param hparam hname⟩
    rw [hname]
    exact hfind (List.mem_append_right _ List.mem_cons_self)
  · exact ⟨vs, hfind (List.mem_append_right _ (List.mem_cons_of_mem _ hmem)), le_refl _, id⟩

variable [OrderedCost W]

open OrderedCost

/-- **What one step keeps**: every parameter still has a value, and what it gives is no less. -/
theorem outweighs_of_step (hp : p.Checked) (hc : c.Checked) (hgiven : AllGiven R)
    (h : c.Step R R') : AllGiven R' ∧ p.Outweighs c R R' := by
  have hothers : ∀ {pre post : List (String × List String)} {e e' : String × List String},
      R.entries = pre ++ e :: post → R'.entries = pre ++ e' :: post → e'.2 ≠ [] →
      AllGiven R' := by
    intro pre post e e' before after hne d hd
    rw [after] at hd
    rcases List.mem_append.mp hd with hd | hd
    · exact hgiven d (before ▸ List.mem_append_left _ hd)
    rcases List.mem_cons.mp hd with rfl | hd
    · exact hne
    · exact hgiven d (before ▸ List.mem_append_right _ (List.mem_cons_of_mem _ hd))
  cases h with
  | @added pre post name values before after given =>
    refine ⟨fun d hd => ?_, outweighs_of_added before after⟩
    rw [after] at hd
    rcases List.mem_append.mp hd with hd | hd
    · exact hgiven d (before ▸ List.mem_append_left _ hd)
    rcases List.mem_cons.mp hd with rfl | hd
    · exact given
    · exact hgiven d (before ▸ List.mem_append_right _ hd)
  | @appended pre post name values value before after =>
    have hne : values ≠ [] :=
      hgiven (name, values) (before ▸ List.mem_append_right _ List.mem_cons_self)
    refine ⟨hothers before after (by simp), outweighs_of_replaced before after ?_⟩
    exact fun param hparam _ =>
      Param.outweighs_append (hc.params param hparam) hp.catalog hne value
  | @grown pre post name values values' q before after declared grows =>
    have hne : values' ≠ [] := by
      cases grows <;> simp
    refine ⟨hothers before after hne, outweighs_of_replaced before after ?_⟩
    intro param hparam hname
    have hfind : c.param? name = some param := hname ▸ Roster.find?_of_mem hparam
    obtain rfl : q = param := by
      rw [declared] at hfind
      cases hfind
      rfl
    exact Param.outweighs_of_grows (hc.params q hparam) hp.catalog grows

/-- What any number of steps keeps. -/
theorem outweighs_of_steps (hp : p.Checked) (hc : c.Checked) (hgiven : AllGiven R)
    (h : Relation.ReflTransGen c.Step R R') : AllGiven R' ∧ p.Outweighs c R R' := by
  induction h with
  | refl => exact ⟨hgiven, Outweighs.refl p c R⟩
  | tail _ hstep ih =>
    obtain ⟨hgiven', hle⟩ := ih
    obtain ⟨hgiven'', hle'⟩ := outweighs_of_step hp hc hgiven' hstep
    exact ⟨hgiven'', hle.trans hle'⟩

/-! ### What a request weighs -/

omit [Cost W] [OrderedCost W] in
theorem sublistForall₂_filterMap {α : Type} {f g : α → Option W} {as : List α}
    (h : ∀ a ∈ as, ∀ w, f a = some w → ∃ w', g a = some w' ∧ w ≤ w') :
    List.SublistForall₂ (· ≤ ·) (as.filterMap f) (as.filterMap g) := by
  induction as with
  | nil => exact .nil
  | cons a as ih =>
    have hrest := ih fun b hb => h b (List.mem_cons_of_mem a hb)
    cases hf : f a with
    | none =>
      rw [List.filterMap_cons_none hf]
      cases hg : g a with
      | none =>
        rw [List.filterMap_cons_none hg]
        exact hrest
      | some w' =>
        rw [List.filterMap_cons_some hg]
        exact .cons_right hrest
    | some w =>
      obtain ⟨w', hw', hle⟩ := h a List.mem_cons_self w hf
      rw [List.filterMap_cons_some hf, List.filterMap_cons_some hw']
      exact .cons hle hrest

omit [Preorder W] [OrderedCost W] in
theorem map_weight_byName (p : Profile W) (c : Component W) (R : Params) :
    (byName p c R).map (·.weight) =
      c.params.items.filterMap fun param =>
        (R.find? param.name).map fun values => param.charge p.catalog values := by
  unfold byName
  rw [List.map_filterMap]
  refine List.filterMap_congr fun param _ => ?_
  cases R.find? param.name <;> rfl

omit [Preorder W] [OrderedCost W] in
theorem length_unlisted_le (h : R.keys.Sublist R'.keys) :
    (p.unlisted c R).length ≤ (p.unlisted c R').length := by
  have hlength : ∀ R : Params, (p.unlisted c R).length =
      (if p.unlistedParams.allowed then R.keys.filter fun name => ¬ c.Declares name
        else []).length := by
    intro R
    rw [← (itemised p c R).unlisted_names, List.length_map]
  rw [hlength, hlength]
  split
  · exact (h.filter _).length_le
  · exact Nat.le_refl _

/-- **A request that outweighs another one weighs no less.** -/
theorem weigh_le_of_outweighs (hp : p.Checked) (hc : c.Checked) (h : p.Outweighs c R R') :
    p.weigh c R ≤ p.weigh c R' := by
  have hconstant : Cost.zero ≤ c.constant := isWeight_iff_zero_le.mp hc.constant
  have hcharges : ∀ R : Params, ∀ w ∈ (byName p c R).map (·.weight), Cost.zero ≤ w := by
    intro R w hw
    rw [map_weight_byName] at hw
    obtain ⟨param, hparam, hw⟩ := List.mem_filterMap.mp hw
    obtain ⟨values, -, rfl⟩ := Option.map_eq_some_iff.mp hw
    exact Param.zero_le_charge (hc.params param hparam) hp.catalog
  have hunlisted : ∀ R : Params, ∀ w ∈ (p.unlisted c R).map (·.weight), Cost.zero ≤ w := by
    intro R w hw
    rw [map_weight_unlisted] at hw
    rw [List.eq_of_mem_replicate hw]
    exact isWeight_iff_zero_le.mp hp.unlisted
  have hbase : ∀ R : Params,
      Cost.zero ≤ if enabled c R then c.constant else (Cost.zero : W) := by
    intro R
    split
    · exact hconstant
    · exact le_refl _
  -- the three parts of the weight, one by one
  have hbase_le : (if enabled c R then c.constant else (Cost.zero : W)) ≤
      if enabled c R' then c.constant else Cost.zero := by
    by_cases henabled : enabled c R = true
    · have henabled' : enabled c R' = true :=
        enabled_iff.mpr ((enabled_iff.mp henabled).imp_right
          fun ⟨name, hname, hdeclares⟩ => ⟨name, h.keys.subset hname, hdeclares⟩)
      rw [if_pos henabled, if_pos henabled']
    · rw [if_neg henabled]
      exact hbase R'
  have hcharges_le : Cost.sum ((byName p c R).map (·.weight)) ≤
      Cost.sum ((byName p c R').map (·.weight)) := by
    refine sum_le_sum ?_ (hcharges R) (hcharges R')
    rw [map_weight_byName, map_weight_byName]
    refine sublistForall₂_filterMap fun param hparam w hw => ?_
    obtain ⟨vs, hvs, rfl⟩ := Option.map_eq_some_iff.mp hw
    obtain ⟨vs', hvs', houtweighs⟩ := h.params param hparam vs hvs
    exact ⟨_, by rw [hvs']; rfl, houtweighs.charge_le⟩
  have hunlisted_le : Cost.sum ((p.unlisted c R).map (·.weight)) ≤
      Cost.sum ((p.unlisted c R').map (·.weight)) := by
    refine sum_le_sum_of_sublist ?_ (hunlisted R')
    rw [map_weight_unlisted, map_weight_unlisted, List.replicate_sublist_replicate]
    exact length_unlisted_le h.keys
  unfold weigh
  rw [weight_component, weight_component]
  have hparts := zero_le_sum (hcharges R)
  refine add_le_add ((hbase R).trans (le_add (hbase R) hparts)) (zero_le_sum (hunlisted R)) ?_
    hunlisted_le
  exact add_le_add (hbase R) hparts hbase_le hcharges_le

omit [OrderedCost W] in
/-- A request that outweighs one that breaks a rule breaks a rule. -/
theorem offends_of_outweighs (h : p.Outweighs c R R') (ho : p.Offends c R) :
    p.Offends c R' := by
  rcases ho with hclosed | ⟨name, hname, hunlisted⟩ | ⟨name, values, param, hvalues, hparam, hbad⟩
  · exact .inl hclosed
  · exact .inr (.inl ⟨name, h.keys.subset hname, hunlisted⟩)
  · obtain rfl : param.name = name := Roster.name_of_find? hparam
    obtain ⟨values', hvalues', houtweighs⟩ :=
      h.params param (List.mem_of_find?_eq_some hparam) values hvalues
    refine .inr (.inr ⟨_, values', param, hvalues', hparam, hbad.imp_right ?_⟩)
    exact fun hillegal hlegal => hillegal (houtweighs.legal_of hlegal)

/-! ### What is decided on a request -/

omit [Preorder W] [OrderedCost W] in
theorem weight_decide {handler : String} (hc : p.component? handler = some c)
    (limit : Option W) (R : Params) : (p.decide handler R limit).weight = p.weigh c R := by
  unfold decide
  rw [hc]

end Profile

/-! ## Top theorem -/

/-- **A request that grows never gets cheaper, and never becomes admissible.**  Under a compiled
policy, for a handler that it knows and any limit, a request that has come by any number of steps
from another one weighs no less; and if it is admitted then so was the other. -/
theorem decide_monotone [OrderedCost W] {s : Settings W} {p : Profile W}
    (hp : Profile.compile s = .ok p) {handler : String} {c : Component W}
    (hc : p.component? handler = some c) (limit : Option W) {R R' : Params}
    (hgiven : AllGiven R) (hsteps : Relation.ReflTransGen c.Step R R') :
    (p.decide handler R limit).weight ≤ (p.decide handler R' limit).weight ∧
      ((p.decide handler R' limit).allowed = true → (p.decide handler R limit).allowed = true) := by
  have hchecked : p.Checked := Profile.compile_checked hp
  have hcomponent : c.Checked := hchecked.components c (List.mem_of_find?_eq_some hc)
  obtain ⟨-, houtweighs⟩ := Profile.outweighs_of_steps hchecked hcomponent hgiven hsteps
  have hweigh : p.weigh c R ≤ p.weigh c R' :=
    Profile.weigh_le_of_outweighs hchecked hcomponent houtweighs
  rw [Profile.weight_decide hc, Profile.weight_decide hc, Profile.allowed_decide_iff hc,
    Profile.allowed_decide_iff hc]
  refine ⟨hweigh, fun ⟨hlegal, hwithin⟩ => ⟨fun ho => hlegal ?_, ?_⟩⟩
  · exact Profile.offends_of_outweighs houtweighs ho
  · refine Bool.eq_false_iff.mpr fun hexceeds => ?_
    rw [OrderedCost.exceeds_of_le hweigh hexceeds] at hwithin
    cases hwithin

/-! ## A priced policy -/

/-- A policy with a parameter for a list of fields, one of them expensive, and one for an
integer. -/
def pricedPolicy (W : Type) [Cost W] : Settings W :=
  { Settings.default with
    maxWeight := Cost.ofNat (2 ^ 53)
    fields := [⟨some "a", some (Cost.ofNat 1)⟩, ⟨some "b", some (Cost.ofNat 1)⟩,
      ⟨some "c", some (Cost.ofNat (2 ^ 53))⟩]
    components := Ordered.ofList [("select", { ComponentSettings.default with
      params := [
        { ParamSettings.default with
          name := some "fl", kind := some "fields", factor := Cost.ofNat 1, multiValue := true },
        { ParamSettings.default with
          name := some "rows", kind := some "integer", factor := Cost.ofNat 1 }] })] }

theorem exists_priced : ∃ p c q t, Profile.compile (pricedPolicy ℚ) = .ok p ∧
    p.component? "select" = some c ∧ c.param? "rows" = some q ∧ q.kind = .integer none ∧
    c.param? "fl" = some t ∧ t.kind = .fields ⟨none, Roster.ofList [], false⟩ :=
  ⟨_, _, _, _, rfl, rfl, rfl, rfl, rfl, rfl⟩

/-- An integer rises, a field list goes on in front of another one, a value is added. -/
theorem decide_monotone_priced : ∃ p, Profile.compile (pricedPolicy ℚ) = .ok p ∧
    let before := p.decide "select" (Ordered.ofList [("rows", ["5"]), ("fl", ["a", "b"])]) none
    let after := p.decide "select"
      (Ordered.ofList [("rows", ["7"]), ("fl", ["a,c", "b", "a"])]) none
    before.weight ≤ after.weight ∧ (after.allowed = true → before.allowed = true) := by
  obtain ⟨p, c, q, t, hp, hc, hq, hqkind, ht, htkind⟩ := exists_priced
  have hrows : c.Step (Ordered.ofList [("rows", ["5"]), ("fl", ["a", "b"])])
      (Ordered.ofList [("rows", ["7"]), ("fl", ["a", "b"])]) := by
    have hgrows : q.Grows ([] ++ "5" :: []) ([] ++ "7" :: []) :=
      .integer hqkind (show readInteger "5" = some 5 by decide)
        (show readInteger "7" = some 7 by decide) (by decide)
    exact .grown (show _ = [] ++ ("rows", ["5"]) :: [("fl", ["a", "b"])] from rfl) rfl hq hgrows
  have hlist : c.Step (Ordered.ofList [("rows", ["7"]), ("fl", ["a", "b"])])
      (Ordered.ofList [("rows", ["7"]), ("fl", ["a,c", "b"])]) := by
    have hgrows : t.Grows ([] ++ "a" :: ["b"]) ([] ++ ("a" ++ "," ++ "c") :: ["b"]) :=
      .fields "c" htkind (.inr (.inr addsInAnyOrder_rat))
    exact .grown (show _ = [("rows", ["7"])] ++ ("fl", ["a", "b"]) :: [] from rfl) rfl ht hgrows
  have hvalue : c.Step (Ordered.ofList [("rows", ["7"]), ("fl", ["a,c", "b"])])
      (Ordered.ofList [("rows", ["7"]), ("fl", ["a,c", "b", "a"])]) :=
    .appended "a" (show _ = [("rows", ["7"])] ++ ("fl", ["a,c", "b"]) :: [] from rfl) rfl
  refine ⟨p, hp, decide_monotone hp hc none ?_ (((Relation.ReflTransGen.single hrows).tail
    hlist).tail hvalue)⟩
  unfold AllGiven
  decide

/-- Whether a compiled profile knows a handler, refuses one request and admits another. -/
def Profile.admitsAfter (refused admitted : Params) : Except (CompileError W) (Profile W) → Bool
  | .ok p => (p.component? "select").isSome && !(p.decide "select" refused none).allowed &&
    (p.decide "select" admitted none).allowed
  | .error _ => false

omit [Preorder W] in
theorem Profile.exists_of_admitsAfter {s : Settings W} {refused admitted : Params}
    (h : Profile.admitsAfter refused admitted (Profile.compile s) = true) :
    ∃ p c, Profile.compile s = .ok p ∧ p.component? "select" = some c ∧
      (p.decide "select" refused none).allowed = false ∧
      (p.decide "select" admitted none).allowed = true := by
  cases hp : Profile.compile s with
  | error e =>
    rw [hp] at h
    cases h
  | ok p =>
    rw [hp] at h
    unfold Profile.admitsAfter at h
    simp only [Bool.and_eq_true, Option.isSome_iff_exists, Bool.not_eq_true'] at h
    obtain ⟨⟨⟨c, hc⟩, hrefused⟩, hadmitted⟩ := h
    exact ⟨p, c, rfl, hc, hrefused, hadmitted⟩

/-- **A request can grow out of a refusal in two other ways.**  An integer below the 64 bits is not
read, and rising into them it becomes legal, whatever the arithmetic.  In doubles a field list that
goes on in front of another one changes the order of the summands, and with it the rounding. -/
theorem heavier_admitted :
    (∃ p c, Profile.compile (pricedPolicy ℚ) = .ok p ∧ p.component? "select" = some c ∧
      Number.IsInteger "-99999999999999999999".toList (-99999999999999999999) ∧
      Number.IsInteger "5".toList 5 ∧
      (p.decide "select" (Ordered.ofList [("rows", ["-99999999999999999999"])]) none).allowed =
        false ∧
      (p.decide "select" (Ordered.ofList [("rows", ["5"])]) none).allowed = true) ∧
    ∃ p c, Profile.compile (pricedPolicy Float) = .ok p ∧ p.component? "select" = some c ∧
      (p.decide "select" (Ordered.ofList [("fl", ["a", "b,c"])]) none).allowed = false ∧
      (p.decide "select" (Ordered.ofList [("fl", ["a" ++ "," ++ "c", "b,c"])]) none).allowed =
        true := by
  constructor
  · obtain ⟨p, c, hp, hc, hrefused, hadmitted⟩ := Profile.exists_of_admitsAfter
      (show Profile.admitsAfter (Ordered.ofList [("rows", ["-99999999999999999999"])])
        (Ordered.ofList [("rows", ["5"])]) (Profile.compile (pricedPolicy ℚ)) = true by
          decide +kernel)
    have hlow : Number.IsInteger "-99999999999999999999".toList (-99999999999999999999) :=
      Number.integer?_eq_some_iff.mp (by decide)
    have hfive : Number.IsInteger "5".toList 5 := Number.integer?_eq_some_iff.mp (by decide)
    exact ⟨p, c, hp, hc, hlow, hfive, hrefused, hadmitted⟩
  · exact Profile.exists_of_admitsAfter (by decide +kernel)

end SearchGateway.Policy
