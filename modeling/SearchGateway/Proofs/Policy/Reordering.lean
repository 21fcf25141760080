import SearchGateway.Proofs.Policy.Breakdown

/-!
# Requests in another order

A client may give its parameters in any order, and a proxy on the way may change it.  A decision
does not depend on that, its weight included, although sums in doubles depend on the order of
their summands: the declared parameters are summed in the order of their names, which belongs to
the component, and the others all weigh the same.  Reasons and parts are told in the order of the
request, so there the same things stand in another order.

    Ordered.perm_entries_iff   maps with the same bindings have the same entries, in some order
    weigh_reorder              a request weighs the same in every order
    decide_reorder             what a decision tells of two orders

Nothing is asked of the arithmetic: no sum is taken apart or put together in another way.
-/

namespace SearchGateway

/-! ## Maps with the same bindings -/

namespace Ordered

variable {β : Type} {m m' : Ordered β}

theorem perm_entries_iff :
    m.entries.Perm m'.entries ↔ ∀ name, m.find? name = m'.find? name := by
  have hm : m.entries.Nodup := .of_map Prod.fst m.distinct
  have hm' : m'.entries.Nodup := .of_map Prod.fst m'.distinct
  rw [List.perm_ext_iff_of_nodup hm hm']
  constructor
  · intro h name
    refine Option.ext fun value => ?_
    rw [← mem_entries_iff, ← mem_entries_iff]
    exact h (name, value)
  · rintro h ⟨name, value⟩
    rw [mem_entries_iff, mem_entries_iff, h]

end Ordered

namespace Policy

variable {W : Type}

/-! ## Lemmas -/

section

variable {p : Profile W} {c : Component W} {R R' : Params}

theorem perm_flatMap_paramReasons (h : R.entries.Perm R'.entries) :
    (R.entries.flatMap fun (name, values) => p.paramReasons c name values).Perm
      (R'.entries.flatMap fun (name, values) => p.paramReasons c name values) :=
  h.flatMap_right _

theorem reasons_eq_nil_reorder (handler : String) (h : R.entries.Perm R'.entries) :
    p.reasons c handler R = [] ↔ p.reasons c handler R' = [] := by
  have hreasons : (p.reasons c handler R).Perm (p.reasons c handler R') :=
    (perm_flatMap_paramReasons h).append_left _
  rw [← List.length_eq_zero_iff, ← List.length_eq_zero_iff, hreasons.length_eq]

theorem perm_unlisted (h : R.entries.Perm R'.entries) :
    (p.unlisted c R).Perm (p.unlisted c R') := by
  unfold Profile.unlisted
  split
  · exact h.filterMap _
  · exact .refl _

theorem enabled_reorder (h : R.entries.Perm R'.entries) :
    Profile.enabled c R = Profile.enabled c R' := by
  have hkeys : ∀ name, name ∈ R.keys ↔ name ∈ R'.keys := fun name => (h.map Prod.fst).mem_iff
  rw [Bool.eq_iff_iff, enabled_iff, enabled_iff]
  simp only [hkeys]

variable [Cost W]

theorem perm_declared (h : R.entries.Perm R'.entries) :
    (p.declared c R).Perm (p.declared c R') :=
  h.filterMap _

/-- The order of the names is that of the component, whatever the request's is. -/
theorem byName_reorder (h : ∀ name, R.find? name = R'.find? name) :
    byName p c R = byName p c R' := by
  unfold byName
  simp only [h]

/-- A sum of equal weights depends on nothing but their number. -/
theorem map_weight_unlisted_reorder (h : R.entries.Perm R'.entries) :
    (p.unlisted c R).map (·.weight) = (p.unlisted c R').map (·.weight) := by
  have hlength : (p.unlisted c R).length = (p.unlisted c R').length := (perm_unlisted h).length_eq
  rw [map_weight_unlisted, map_weight_unlisted, hlength]

/-- The component's part, if it is enabled, stands before all the others. -/
theorem breakdown_eq (R : Params) : p.breakdown c R =
    (if Profile.enabled c R then some (⟨c.name, c.constant⟩ : Contribution W) else none).toList ++
      p.declared c R ++ p.unlisted c R := by
  unfold Profile.breakdown
  cases Profile.enabled c R <;> rfl

/-- **A request weighs the same in every order.** -/
theorem weigh_reorder (h : ∀ name, R.find? name = R'.find? name) :
    p.weigh c R = p.weigh c R' := by
  have hperm := Ordered.perm_entries_iff.mpr h
  unfold Profile.weigh
  rw [weight_component, weight_component, enabled_reorder hperm, byName_reorder h,
    map_weight_unlisted_reorder hperm]

end

/-! ## Top theorem -/

/-- **The order of a request's parameters does not count.**  Requests that give the same values
under the same names get the same verdict against the same limit, for the same weight, to the
bit.  They get the same reasons and the same parts, in the order of the request; the handler's
own reason and the component's own part stand first in each. -/
theorem decide_reorder [Cost W] (p : Profile W) (handler : String) {R R' : Params}
    (limit : Option W) (h : ∀ name, R.find? name = R'.find? name) :
    let d := p.decide handler R limit
    let d' := p.decide handler R' limit
    d.allowed = d'.allowed ∧ d.rejection = d'.rejection ∧ d.maxWeight = d'.maxWeight ∧
    d.weight = d'.weight ∧
    match p.component? handler with
    | none => d = d'
    | some c =>
      (∃ own told told', own = (if c.allowed then [] else [.handlerNotAllowed handler]) ∧
        d.reasons = own ++ told ∧ d'.reasons = own ++ told' ∧ told.Perm told') ∧
      ∃ base declared declared' unlisted unlisted',
        Itemised p c R base declared unlisted ∧ Itemised p c R' base declared' unlisted' ∧
        d.breakdown = base.toList ++ declared ++ unlisted ∧
        d'.breakdown = base.toList ++ declared' ++ unlisted' ∧
        declared.Perm declared' ∧ unlisted.Perm unlisted' := by
  intro d d'
  have hd : d = p.decide handler R limit := rfl
  have hd' : d' = p.decide handler R' limit := rfl
  unfold Profile.decide at hd hd'
  cases hc : p.component? handler with
  | none =>
    rw [hc] at hd hd'
    rw [hd, hd']
    exact ⟨rfl, rfl, rfl, rfl, rfl⟩
  | some c =>
    rw [hc] at hd hd'
    have hperm := Ordered.perm_entries_iff.mpr h
    have hweigh : p.weigh c R = p.weigh c R' := weigh_reorder h
    have hrejection : d.rejection = d'.rejection := by
      rw [hd, hd']
      simp only [ne_eq, reasons_eq_nil_reorder handler hperm, hweigh]
    refine ⟨?_, hrejection, by rw [hd, hd'], by rw [hd, hd']; exact hweigh, ?_, ?_⟩
    · unfold Decision.allowed
      rw [hrejection]
    · exact ⟨_, _, _, rfl, by rw [hd]; rfl, by rw [hd']; rfl, perm_flatMap_paramReasons hperm⟩
    · refine ⟨_, p.declared c R, p.declared c R', p.unlisted c R, p.unlisted c R',
        itemised p c R, ?_, ?_, ?_, perm_declared hperm, perm_unlisted hperm⟩
      · rw [enabled_reorder hperm]
        exact itemised p c R'
      · rw [hd]
        exact breakdown_eq R
      · rw [hd', enabled_reorder hperm]
        exact breakdown_eq R'

/-! ## A request turned round -/

/-- Weights whose sums in doubles depend on the order: 0.1 + 0.2 + 0.3 is not 0.3 + 0.2 + 0.1. -/
def unevenProfile : Profile Float :=
  { Profile.empty with
    unlistedParams := ⟨true, 0.1⟩
    components := Roster.ofList [{ Component.bare "select" with
      params := Roster.ofList [⟨"facet", true, 0.1, 0.0, false, .text none⟩,
        ⟨"q", true, 0.2, 0.0, false, .text (some 40)⟩,
        ⟨"rows", true, 0.3, 0.0, false, .integer (some 100)⟩] }] }

def forwards : Params :=
  Ordered.ofList [("facet", ["on"]), ("debug", []), ("q", ["cat"]), ("rows", ["500"]),
    ("trace", ["1", "2"])]

def backwards : Params :=
  Ordered.ofList [("trace", ["1", "2"]), ("rows", ["500"]), ("q", ["cat"]), ("debug", []),
    ("facet", ["on"])]

/-- There the parts come in two orders, and they weigh the same. -/
theorem decide_reorder_backwards :
    (∀ name, forwards.find? name = backwards.find? name) ∧
    let d := unevenProfile.decide "select" forwards none
    let d' := unevenProfile.decide "select" backwards none
    d.breakdown.map (·.name) = ["select", "facet", "q", "rows", "debug", "trace"] ∧
    d'.breakdown.map (·.name) = ["select", "rows", "q", "facet", "trace", "debug"] ∧
    d.rejection = some .illegalInput ∧ d.rejection = d'.rejection ∧ d.weight = d'.weight := by
  have h : ∀ name, forwards.find? name = backwards.find? name :=
    Ordered.perm_entries_iff.mp (by decide)
  obtain ⟨-, hrejection, -, hweight, -⟩ := decide_reorder unevenProfile "select" none h
  refine ⟨h, by decide +kernel, by decide +kernel, by decide +kernel, hrejection, hweight⟩

end Policy

end SearchGateway
