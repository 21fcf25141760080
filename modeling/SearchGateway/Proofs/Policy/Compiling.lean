import SearchGateway.Policy.Profile
import SearchGateway.Proofs.Params.Pairs
import SearchGateway.Proofs.Steps

/-!
# What compiling checks and yields

Every weight of a compiled policy has been looked at: none of them is below zero, and all of
them are numbers.  And of every component of the settings, in turn, a component of that name has
been made, and of every parameter of it a parameter.  That holds of any arithmetic of weights.

    Profile.Checked          a profile whose weights have been checked
    compile_checked          a compiled profile is one
    component?_of_compile    the component that a compiled profile has under a name
    param?_of_compile        the parameter that such a component has under a name

A profile that was not compiled need not be.
-/

namespace SearchGateway.Policy

variable {W : Type} [Cost W]

/-! ## Checked weights -/

/-- Whether a weight passes the check. -/
def IsWeight (w : W) : Prop := Cost.isNegative w = false

structure Param.Checked (p : Param W) : Prop where
  constant : IsWeight p.constant
  factor : IsWeight p.factor

structure Component.Checked (c : Component W) : Prop where
  constant : IsWeight c.constant
  params : ∀ p ∈ c.params.items, p.Checked

structure Catalog.Checked (c : Catalog W) : Prop where
  fields : ∀ f ∈ c.fields, IsWeight f.weight
  unlisted : IsWeight c.unlistedWeight
  total : c.total = Cost.sum (c.fields.map (·.weight))

structure Profile.Checked (p : Profile W) : Prop where
  limit : IsWeight p.maxWeight
  unlisted : IsWeight p.unlistedParams.weight
  catalog : p.catalog.Checked
  components : ∀ c ∈ p.components.items, c.Checked

/-! ## Lemmas -/

namespace Profile

theorem isWeight_of_require {e : Entity} {name : String} {a : Attribute} {w : W} {u : Unit}
    (h : requireNonNegative e name a w = .ok u) : IsWeight w := by
  unfold requireNonNegative at h
  split at h
  · cases h
  · next hw => exact Bool.eq_false_iff.mpr hw

theorem compileField_checked {i : Nat} {s : FieldSettings W} {f : Field W}
    (h : compileField i s = .ok f) : IsWeight f.weight := by
  obtain ⟨name, -, h⟩ := of_bind_eq_ok h
  obtain ⟨weight, -, h⟩ := of_bind_eq_ok h
  obtain ⟨u, hw, h⟩ := of_bind_eq_ok h
  cases h
  exact isWeight_of_require hw

theorem compileFields_checked {settings : List (FieldSettings W)} :
    ∀ {i : Nat} {seen : List String} {fields : List (Field W)},
      compileFields i seen settings = .ok fields → ∀ f ∈ fields, IsWeight f.weight := by
  induction settings with
  | nil =>
    intro i seen fields h f hf
    cases h
    cases hf
  | cons s r ih =>
    intro i seen fields h f hf
    obtain ⟨field, hfield, h⟩ := of_bind_eq_ok h
    split at h
    · cases h
    · obtain ⟨rest, hrest, h⟩ := of_bind_eq_ok h
      cases h
      rcases List.mem_cons.mp hf with rfl | hf
      · exact compileField_checked hfield
      · exact ih hrest f hf

theorem compileParam_checked {c : String} {i : Nat} {s : ParamSettings W} {p : Param W}
    (h : compileParam c i s = .ok p) : p.Checked := by
  obtain ⟨name, -, h⟩ := of_bind_eq_ok h
  obtain ⟨kindName, -, h⟩ := of_bind_eq_ok h
  obtain ⟨u, hconstant, h⟩ := of_bind_eq_ok h
  obtain ⟨u', hfactor, h⟩ := of_bind_eq_ok h
  split at h
  · cases h
  · cases h
    exact ⟨isWeight_of_require hconstant, isWeight_of_require hfactor⟩

theorem withParam_checked {c : Component W} {p : Param W} (hc : c.Checked) (hp : p.Checked) :
    (c.withParam p).Checked := by
  refine ⟨hc.constant, fun q hq => ?_⟩
  rcases Roster.mem_of_mem_place hq with rfl | hq
  · exact hp
  · exact hc.params q hq

theorem compileParams_checked {settings : List (ParamSettings W)} :
    ∀ {i : Nat} {c c' : Component W}, c.Checked → compileParams i c settings = .ok c' →
      c'.Checked := by
  induction settings with
  | nil =>
    intro i c c' hc h
    cases h
    exact hc
  | cons s r ih =>
    intro i c c' hc h
    obtain ⟨param, hparam, h⟩ := of_bind_eq_ok h
    split at h
    · cases h
    · exact ih (withParam_checked hc (compileParam_checked hparam)) h

theorem compileComponent_checked {name : String} {s : ComponentSettings W} {c : Component W}
    (h : compileComponent name s = .ok c) : c.Checked := by
  obtain ⟨u, hconstant, h⟩ := of_bind_eq_ok h
  exact compileParams_checked ⟨isWeight_of_require hconstant, fun p hp => by cases hp⟩ h

theorem withComponent_checked {p : Profile W} {c : Component W} (hp : p.Checked)
    (hc : c.Checked) : (p.withComponent c).Checked := by
  refine ⟨hp.limit, hp.unlisted, hp.catalog, fun d hd => ?_⟩
  rcases Roster.mem_of_mem_place hd with rfl | hd
  · exact hc
  · exact hp.components d hd

theorem compileComponents_checked {settings : List (String × ComponentSettings W)} :
    ∀ {p p' : Profile W}, p.Checked → compileComponents p settings = .ok p' → p'.Checked := by
  induction settings with
  | nil =>
    intro p p' hp h
    cases h
    exact hp
  | cons s r ih =>
    intro p p' hp h
    obtain ⟨component, hc, h⟩ := of_bind_eq_ok h
    exact ih (withComponent_checked hp (compileComponent_checked hc)) h

/-- **Compiling lets through no weight that is below zero or not a number.** -/
theorem compile_checked {s : Settings W} {p : Profile W} (h : compile s = .ok p) : p.Checked := by
  obtain ⟨u, hlimit, h⟩ := of_bind_eq_ok h
  obtain ⟨u', hfields, h⟩ := of_bind_eq_ok h
  obtain ⟨u'', hparams, h⟩ := of_bind_eq_ok h
  obtain ⟨fields, hcatalog, h⟩ := of_bind_eq_ok h
  refine compileComponents_checked ⟨isWeight_of_require hlimit, isWeight_of_require hparams,
    ⟨compileFields_checked hcatalog, isWeight_of_require hfields, rfl⟩, fun c hc => ?_⟩ h
  cases hc

/-! ## Components -/

theorem name_of_compileParams {settings : List (ParamSettings W)} :
    ∀ {i : Nat} {c c' : Component W}, compileParams i c settings = .ok c' → c'.name = c.name := by
  induction settings with
  | nil =>
    intro i c c' h
    cases h
    rfl
  | cons s r ih =>
    intro i c c' h
    obtain ⟨param, -, h⟩ := of_bind_eq_ok h
    split at h
    · cases h
    · have hname : c'.name = (c.withParam param).name := ih h
      exact hname

theorem name_of_compileComponent {name : String} {s : ComponentSettings W} {c : Component W}
    (h : compileComponent name s = .ok c) : c.name = name := by
  obtain ⟨u, -, h⟩ := of_bind_eq_ok h
  exact name_of_compileParams h

omit [Cost W] in
theorem component?_withComponent (p : Profile W) (c : Component W) (name : String) :
    (p.withComponent c).component? name = if c.name = name then some c else p.component? name :=
  Roster.find?_insert p.components c name

/-- Under a name of the settings stands what its settings compile to, under any other name
what stood there before. -/
theorem component?_of_compileComponents {es : List (String × ComponentSettings W)} :
    ∀ {p p' : Profile W}, (Entries.keys es).Nodup → compileComponents p es = .ok p' →
      ∀ name, match Entries.find? name es with
        | some s => ∃ c, compileComponent name s = .ok c ∧ p'.component? name = some c
        | none => p'.component? name = p.component? name := by
  induction es with
  | nil =>
    intro p p' hn h name
    cases h
    rfl
  | cons e r ih =>
    intro p p' hn h name
    obtain ⟨k, s⟩ := e
    obtain ⟨hk, hr⟩ := List.nodup_cons.mp hn
    obtain ⟨c, hc, h⟩ := of_bind_eq_ok h
    have hname : c.name = k := name_of_compileComponent hc
    have hrest := ih hr h name
    rw [component?_withComponent, hname] at hrest
    by_cases hkn : k = name
    · subst hkn
      rw [Entries.find?_eq_none_iff.mpr hk] at hrest
      simp only [if_true] at hrest
      simp only [Entries.find?, if_true]
      exact ⟨c, hc, hrest⟩
    · simp only [if_neg hkn] at hrest
      simp only [Entries.find?, if_neg hkn]
      exact hrest

/-- **A compiled profile has exactly the components of its settings**, each under its name. -/
theorem component?_of_compile {s : Settings W} {p : Profile W} (h : compile s = .ok p)
    (name : String) : match s.components.find? name with
      | some cs => ∃ c, compileComponent name cs = .ok c ∧ p.component? name = some c
      | none => p.component? name = none := by
  obtain ⟨u, -, h⟩ := of_bind_eq_ok h
  obtain ⟨u', -, h⟩ := of_bind_eq_ok h
  obtain ⟨u'', -, h⟩ := of_bind_eq_ok h
  obtain ⟨fields, -, h⟩ := of_bind_eq_ok h
  exact component?_of_compileComponents s.components.distinct h name

/-! ## Parameters -/

omit [Cost W] in
theorem param?_withParam (c : Component W) (p : Param W) (name : String) :
    (c.withParam p).param? name = if p.name = name then some p else c.param? name :=
  Roster.find?_insert c.params p name

/-- A parameter that is there stays as it is: one more of its name is an error. -/
theorem param?_of_compileParams_of_some {settings : List (ParamSettings W)} {name : String}
    {q : Param W} : ∀ {i : Nat} {c c' : Component W}, compileParams i c settings = .ok c' →
      c.param? name = some q → c'.param? name = some q := by
  induction settings with
  | nil =>
    intro i c c' h hq
    cases h
    exact hq
  | cons s r ih =>
    intro i c c' h hq
    obtain ⟨param, -, h⟩ := of_bind_eq_ok h
    split at h
    · cases h
    · next hnew =>
      refine ih h ?_
      have hne : param.name ≠ name := by
        rintro rfl
        exact hnew (Option.isSome_of_eq_some hq)
      rw [param?_withParam, if_neg hne, hq]

omit [Cost W] in
theorem of_require_eq_ok {α : Type} {e : Entity} {i : Nat} {a : Attribute} {o : Option α} {x : α}
    (h : (require e i a o : Compiling W α) = .ok x) : o = some x := by
  cases o with
  | none => cases h
  | some y =>
    cases h
    rfl

/-- A parameter has the name of its settings, and is of the kind that they name. -/
theorem of_compileParam {c : String} {i : Nat} {s : ParamSettings W} {param : Param W}
    (h : compileParam c i s = .ok param) : s.name = some param.name ∧
      ∃ kind, s.kind = some kind ∧ Kind.ofSettings? s kind = some param.kind := by
  obtain ⟨name, hname, h⟩ := of_bind_eq_ok h
  obtain ⟨kind, hkind, h⟩ := of_bind_eq_ok h
  obtain ⟨u, -, h⟩ := of_bind_eq_ok h
  obtain ⟨u', -, h⟩ := of_bind_eq_ok h
  split at h
  · cases h
  · next hof =>
    cases h
    exact ⟨of_require_eq_ok hname, kind, of_require_eq_ok hkind, hof⟩

/-- Every parameter of the settings is there under its name. -/
theorem param?_of_compileParams {settings : List (ParamSettings W)} : ∀ {i : Nat}
    {c c' : Component W}, compileParams i c settings = .ok c' →
      ∀ s ∈ settings, ∃ j param, compileParam c.name j s = .ok param ∧
        c'.param? param.name = some param := by
  induction settings with
  | nil => exact fun _ s hs => absurd hs List.not_mem_nil
  | cons s r ih =>
    intro i c c' h t ht
    obtain ⟨param, hparam, hrest⟩ := of_bind_eq_ok h
    split at hrest
    · cases hrest
    · rcases List.mem_cons.mp ht with rfl | ht
      · refine ⟨i, param, hparam, param?_of_compileParams_of_some hrest ?_⟩
        rw [param?_withParam, if_pos rfl]
      · exact ih hrest t ht

/-- **A compiled profile has the parameters of its settings**, each under its name. -/
theorem param?_of_compile {s : Settings W} {p : Profile W} (h : compile s = .ok p)
    {name : String} {cs : ComponentSettings W} (hcs : s.components.find? name = some cs) :
    ∃ c, p.component? name = some c ∧ ∀ ps ∈ cs.params, ∃ i param,
      compileParam name i ps = .ok param ∧ c.param? param.name = some param := by
  have hc := component?_of_compile h name
  rw [hcs] at hc
  obtain ⟨c, hc, hp⟩ := hc
  obtain ⟨u, -, hparams⟩ := of_bind_eq_ok hc
  exact ⟨c, hp, param?_of_compileParams hparams⟩

end Profile

end SearchGateway.Policy
