import SearchGateway.Proofs.Policy.Limit
import SearchGateway.Proofs.Policy.Wildcard

/-!
# Which policies are compiled, and into what

Settings of a policy are scanned once: the limits first, then the fields, then the components
with their parameters, each entry in its place.  Here the complaints that there are about them
are told without compiling anything.  Compiling fails exactly where there is one, and names the
first.  Where there is none, the settings are in order, and the profile carries what they
declare, entry by entry.

    Settings.InOrder s          nothing in the settings is missing, below zero or there twice
    Settings.complaints s       what is wrong with them, in the order of the scan
    Profile.Carries s p         a profile that is what the settings declare
    compile_outcome             what compiling comes to, whatever the settings

An entry's place counts from zero, and of two entries of one name the later one is at fault.
-/

namespace SearchGateway.Policy

variable {W : Type} [Cost W]

/-! ## Settings in order -/

/-- The types of parameters. -/
def kindWords : List String := ["string", "integer", "boolean", "fields"]

structure FieldSettings.InOrder (s : FieldSettings W) : Prop where
  named : ∃ name, s.name = some name
  weighted : ∃ weight, s.weight = some weight ∧ IsWeight weight

structure ParamSettings.InOrder (s : ParamSettings W) : Prop where
  named : ∃ name, s.name = some name
  typed : ∃ kind ∈ kindWords, s.kind = some kind
  constant : IsWeight s.constant
  factor : IsWeight s.factor

structure ComponentSettings.InOrder (s : ComponentSettings W) : Prop where
  constant : IsWeight s.constant
  params : ∀ p ∈ s.params, p.InOrder
  distinct : s.params.Pairwise fun p q => p.name ≠ q.name

structure Settings.InOrder (s : Settings W) : Prop where
  limit : IsWeight s.maxWeight
  unlistedFields : IsWeight s.unlistedFields.weight
  unlistedParams : IsWeight s.unlistedParams.weight
  fields : ∀ f ∈ s.fields, f.InOrder
  distinct : s.fields.Pairwise fun f g => f.name ≠ g.name
  components : ∀ e ∈ s.components.entries, e.2.InOrder

/-! ## Complaints -/

/-- A complaint about an attribute that is not there. -/
def lacking {α : Type} (e : Entity) (index : Nat) (a : Attribute) :
    Option α → List (CompileError W)
  | some _ => []
  | none => [.missing e index a]

/-- A complaint about a weight that is below zero or not a number. -/
def belowZero (e : Entity) (name : String) (a : Attribute) (weight : W) :
    List (CompileError W) :=
  if Cost.isNegative weight then [.negative e name a weight] else []

/-- The complaints about entries in order, each looked at together with those before it. -/
def scan {α ε : Type} (complaints : List α → α → List ε) (before : List α) : List α → List ε
  | [] => []
  | a :: r => complaints before a ++ scan complaints (before ++ [a]) r

def FieldSettings.complaints (before : List (FieldSettings W)) (s : FieldSettings W) :
    List (CompileError W) :=
  lacking .field before.length .name s.name ++ lacking .field before.length .weight s.weight ++
    match s.name, s.weight with
    | some name, some weight => belowZero .field name .weight weight ++
        if ∃ f ∈ before, f.name = some name then [.duplicate .field name] else []
    | _, _ => []

def ParamSettings.complaints (component : String) (before : List (ParamSettings W))
    (s : ParamSettings W) : List (CompileError W) :=
  lacking .param before.length .name s.name ++ lacking .param before.length .type s.kind ++
    match s.name, s.kind with
    | some name, some kind => belowZero .param name .weightConstant s.constant ++
        belowZero .param name .weightFactor s.factor ++
        (if kind ∈ kindWords then [] else [.unknownType component name kind]) ++
        if ∃ p ∈ before, p.name = some name then [.duplicate .param (component ++ "." ++ name)]
        else []
    | _, _ => []

def ComponentSettings.complaints (name : String) (s : ComponentSettings W) :
    List (CompileError W) :=
  belowZero .component name .weightConstant s.constant ++
    scan (ParamSettings.complaints name) [] s.params

/-- Everything that is wrong with settings, in the order in which they are scanned. -/
def Settings.complaints (s : Settings W) : List (CompileError W) :=
  belowZero .profile "root" .maxWeight s.maxWeight ++
    belowZero .profile "root" .unlistedFieldsWeight s.unlistedFields.weight ++
    belowZero .profile "root" .unlistedParamsWeight s.unlistedParams.weight ++
    scan FieldSettings.complaints [] s.fields ++
    s.components.entries.flatMap fun e => e.2.complaints e.1

/-! ## Carrying over -/

/-- A set that holds the names of a list. -/
def IsSetOf (names : List String) (set : Names) : Prop := ∀ name, name ∈ set.items ↔ name ∈ names

/-- A field that is what its settings declare. -/
structure Field.Carries (f : Field W) (s : FieldSettings W) : Prop where
  name : s.name = some f.name
  weight : s.weight = some f.weight

/-- A type with the attributes that it has, as they are declared, and with none of another. -/
def Kind.Carries (kind : Kind) (s : ParamSettings W) : Prop :=
  match kind with
  | .text maxLength => maxLength = s.maxLength
  | .integer maxValue => maxValue = s.maxValue
  | .boolean => True
  | .fields rule => rule.star = s.star ∧ IsSetOf s.deniedFields rule.denied ∧
      Option.Rel IsSetOf s.allowedFields rule.allowed

/-- A parameter that is what its settings declare. -/
structure Param.Carries (p : Param W) (s : ParamSettings W) : Prop where
  name : s.name = some p.name
  allowed : p.allowed = s.allowed
  constant : p.constant = s.constant
  factor : p.factor = s.factor
  multiValue : p.multiValue = s.multiValue
  type : s.kind = some p.kind.word
  kind : p.kind.Carries s

/-- A component that is what its settings declare, under its name. -/
structure Component.Carries (c : Component W) (name : String) (s : ComponentSettings W) :
    Prop where
  name : c.name = name
  defaultEnabled : c.defaultEnabled = s.defaultEnabled
  allowed : c.allowed = s.allowed
  constant : c.constant = s.constant
  params : ∀ name, Option.Rel (fun s p => Param.Carries p s)
    (s.params.find? fun p => p.name = some name) (c.param? name)

/-- A profile that is what settings declare. -/
structure Profile.Carries (p : Profile W) (s : Settings W) : Prop where
  maxWeight : p.maxWeight = s.maxWeight
  unlistedParams : p.unlistedParams = s.unlistedParams
  names : (p.components.items.map Component.name).Perm s.components.keys
  components : ∀ name, Option.Rel (fun s c => Component.Carries c name s)
    (s.components.find? name) (p.component? name)
  listed : ∀ name weight, p.catalog.cost name = .listed weight ↔
    ∃ f ∈ s.fields, f.name = some name ∧ f.weight = some weight
  unlisted : ∀ name, (∀ f ∈ s.fields, f.name ≠ some name) →
    p.catalog.cost name = .unlisted s.unlistedFields.weight s.unlistedFields.allowed
  total : p.catalog.total = Cost.sum (s.fields.filterMap FieldSettings.weight)

/-! ## Lemmas -/

/-! ### Without complaints -/

omit [Cost W] in
theorem lacking_eq_nil_iff {α : Type} {e : Entity} {i : Nat} {a : Attribute} {o : Option α} :
    (lacking e i a o : List (CompileError W)) = [] ↔ ∃ x, o = some x := by
  cases o <;> simp [lacking]

theorem belowZero_eq_nil_iff {e : Entity} {name : String} {a : Attribute} {weight : W} :
    belowZero e name a weight = [] ↔ IsWeight weight := by
  unfold belowZero IsWeight
  cases Cost.isNegative weight <;> simp

/-- Where each entry is to be in order by itself and to differ from those before it, there are no
complaints exactly if all are in order and differ from each other. -/
theorem scan_eq_nil_iff {α ε : Type} {complaints : List α → α → List ε} {InOrder : α → Prop}
    {Differ : α → α → Prop}
    (h : ∀ before a, complaints before a = [] ↔ InOrder a ∧ ∀ b ∈ before, Differ b a)
    (before l : List α) : scan complaints before l = [] ↔
      (∀ a ∈ l, InOrder a) ∧ l.Pairwise Differ ∧ ∀ a ∈ l, ∀ b ∈ before, Differ b a := by
  induction l generalizing before with
  | nil => simp [scan]
  | cons a r ih =>
    simp only [scan, List.append_eq_nil_iff, h, ih, List.pairwise_cons, List.forall_mem_cons,
      List.mem_append, List.mem_singleton, or_imp, forall_and, forall_eq]
    constructor
    · rintro ⟨⟨ha, hbefore⟩, hr, hpairs, hrest, hlast⟩
      exact ⟨⟨ha, hr⟩, ⟨hlast, hpairs⟩, hbefore, hrest⟩
    · rintro ⟨⟨ha, hr⟩, ⟨hlast, hpairs⟩, hbefore, hrest⟩
      exact ⟨⟨ha, hbefore⟩, hr, hpairs, hrest, hlast⟩

theorem FieldSettings.complaints_eq_nil_iff (before : List (FieldSettings W))
    (s : FieldSettings W) : s.complaints before = [] ↔
      s.InOrder ∧ ∀ f ∈ before, f.name ≠ s.name := by
  unfold FieldSettings.complaints
  rw [List.append_eq_nil_iff, List.append_eq_nil_iff, lacking_eq_nil_iff, lacking_eq_nil_iff]
  constructor
  · rintro ⟨⟨⟨name, hname⟩, ⟨weight, hweight⟩⟩, h⟩
    simp only [hname, hweight, List.append_eq_nil_iff, belowZero_eq_nil_iff] at h
    refine ⟨⟨⟨name, hname⟩, weight, hweight, h.1⟩, ?_⟩
    simpa [hname] using h.2
  · rintro ⟨⟨⟨name, hname⟩, weight, hweight, hw⟩, hbefore⟩
    refine ⟨⟨⟨name, hname⟩, weight, hweight⟩, ?_⟩
    simp only [hname, hweight, List.append_eq_nil_iff, belowZero_eq_nil_iff]
    refine ⟨hw, ?_⟩
    simpa [hname] using hbefore

theorem ParamSettings.complaints_eq_nil_iff (component : String)
    (before : List (ParamSettings W)) (s : ParamSettings W) :
    s.complaints component before = [] ↔ s.InOrder ∧ ∀ p ∈ before, p.name ≠ s.name := by
  unfold ParamSettings.complaints
  rw [List.append_eq_nil_iff, List.append_eq_nil_iff, lacking_eq_nil_iff, lacking_eq_nil_iff]
  constructor
  · rintro ⟨⟨⟨name, hname⟩, ⟨kind, hkind⟩⟩, h⟩
    simp only [hname, hkind, List.append_eq_nil_iff, belowZero_eq_nil_iff] at h
    obtain ⟨⟨⟨hconstant, hfactor⟩, hword⟩, hbefore⟩ := h
    refine ⟨⟨⟨name, hname⟩, ⟨kind, ?_, hkind⟩, hconstant, hfactor⟩, ?_⟩
    · simpa using hword
    · simpa [hname] using hbefore
  · rintro ⟨⟨⟨name, hname⟩, ⟨kind, hword, hkind⟩, hconstant, hfactor⟩, hbefore⟩
    refine ⟨⟨⟨name, hname⟩, kind, hkind⟩, ?_⟩
    simp only [hname, hkind, List.append_eq_nil_iff, belowZero_eq_nil_iff]
    refine ⟨⟨⟨hconstant, hfactor⟩, if_pos hword⟩, ?_⟩
    simpa [hname] using hbefore

theorem ComponentSettings.complaints_eq_nil_iff (name : String) (s : ComponentSettings W) :
    s.complaints name = [] ↔ s.InOrder := by
  unfold ComponentSettings.complaints
  rw [List.append_eq_nil_iff, belowZero_eq_nil_iff,
    scan_eq_nil_iff (ParamSettings.complaints_eq_nil_iff name)]
  constructor
  · rintro ⟨hconstant, hparams, hdistinct, -⟩
    exact ⟨hconstant, hparams, hdistinct⟩
  · rintro ⟨hconstant, hparams, hdistinct⟩
    exact ⟨hconstant, hparams, hdistinct, by simp⟩

/-- **Settings are in order exactly if there are no complaints about them.** -/
theorem Settings.complaints_eq_nil_iff (s : Settings W) : s.complaints = [] ↔ s.InOrder := by
  unfold Settings.complaints
  simp only [List.append_eq_nil_iff, belowZero_eq_nil_iff,
    scan_eq_nil_iff FieldSettings.complaints_eq_nil_iff, List.flatMap_eq_nil_iff,
    ComponentSettings.complaints_eq_nil_iff]
  constructor
  · rintro ⟨⟨⟨⟨hlimit, hfields⟩, hparams⟩, hlisted, hdistinct, -⟩, hcomponents⟩
    exact ⟨hlimit, hfields, hparams, hlisted, hdistinct, hcomponents⟩
  · rintro ⟨hlimit, hfields, hparams, hlisted, hdistinct, hcomponents⟩
    exact ⟨⟨⟨⟨hlimit, hfields⟩, hparams⟩, hlisted, hdistinct, by simp⟩, hcomponents⟩

theorem isSome_eq_of_rel {α β : Type} {R : α → β → Prop} {x : Option α} {y : Option β}
    (h : Option.Rel R x y) : x.isSome = y.isSome := by
  cases h <;> rfl

/-! ### One attribute -/

namespace Profile

theorem heeds_requireNonNegative (e : Entity) (name : String) (a : Attribute) (weight : W) :
    Heeds (requireNonNegative e name a weight) (belowZero e name a weight) fun _ => True := by
  unfold requireNonNegative belowZero
  cases Cost.isNegative weight with
  | false => exact .ok trivial
  | true => exact .error _ _

/-! ### Fields -/

/-- A field that has not been there before. -/
def compileNewField (i : Nat) (seen : List String) (s : FieldSettings W) :
    Compiling W (Field W) := do
  let field ← compileField i s
  if field.name ∈ seen then .error (.duplicate .field field.name) else .ok field

theorem compileFields_cons (i : Nat) (seen : List String) (s : FieldSettings W)
    (r : List (FieldSettings W)) : compileFields i seen (s :: r) = (do
      let field ← compileNewField i seen s
      let rest ← compileFields (i + 1) (field.name :: seen) r
      pure (field :: rest)) := by
  rw [compileFields, compileNewField]
  cases compileField i s with
  | error e => rfl
  | ok field =>
    show (if field.name ∈ seen then _ else _) = Bind.bind (if field.name ∈ seen then _ else _) _
    split <;> rfl

/-- One field: what it lacks, then whether its weight is one, then whether its name is taken. -/
theorem heeds_field {before : List (FieldSettings W)} {seen : List String}
    (hseen : ∀ name, name ∈ seen ↔ ∃ f ∈ before, f.name = some name) (s : FieldSettings W) :
    Heeds (compileNewField before.length seen s) (s.complaints before)
      (Field.Carries · s) := by
  unfold FieldSettings.complaints compileNewField compileField
  cases hname : s.name with
  | none => exact .error _ _
  | some name =>
    cases hweight : s.weight with
    | none => exact .error _ _
    | some weight =>
      have hfield : Heeds
          (requireNonNegative .field name .weight weight >>= fun _ => pure (Field.mk name weight))
          (belowZero .field name .weight weight) (· = ⟨name, weight⟩) :=
        (heeds_requireNonNegative ..).map fun _ _ => rfl
      refine hfield.bind ?_
      rintro _ rfl
      simp only [hseen]
      split
      · exact .error _ _
      · exact .ok ⟨hname, hweight⟩

/-- The fields in order, each with the name and the weight of its settings. -/
theorem heeds_compileFields {settings : List (FieldSettings W)} :
    ∀ {before : List (FieldSettings W)} {seen : List String},
      (∀ name, name ∈ seen ↔ ∃ f ∈ before, f.name = some name) →
      Heeds (compileFields before.length seen settings)
        (scan FieldSettings.complaints before settings)
        (List.Forall₂ (fun s f => Field.Carries f s) settings) := by
  induction settings with
  | nil => exact fun _ => .ok .nil
  | cons s r ih =>
    intro before seen hseen
    rw [compileFields_cons, scan]
    refine (heeds_field hseen s).bind fun field hfield => ?_
    have hnext : ∀ name, name ∈ field.name :: seen ↔ ∃ f ∈ before ++ [s], f.name = some name := by
      intro name
      simp [hseen, hfield.name, or_comm, or_and_right, exists_or, eq_comm (a := name)]
    have hrest := ih hnext
    rw [List.length_append] at hrest
    exact hrest.map fun rest hr => .cons hfield hr

/-! ### Parameters -/

omit [Cost W] in
theorem isSetOf_ofList (names : List String) : IsSetOf names (Roster.ofList names) := by
  intro name
  rw [← contains_iff, contains_ofList_iff]

omit [Cost W] in
/-- A type that there is not has no attributes. -/
theorem ofSettings?_eq_none {s : ParamSettings W} {kind : String} (h : kind ∉ kindWords) :
    Kind.ofSettings? s kind = none := by
  simp only [kindWords, List.mem_cons, List.not_mem_nil, or_false, not_or] at h
  obtain ⟨hstring, hinteger, hboolean, hfields⟩ := h
  simp [Kind.ofSettings?, hstring, hinteger, hboolean, hfields]

omit [Cost W] in
/-- With each type come the attributes that it has. -/
theorem exists_ofSettings? {s : ParamSettings W} {word : String} (h : word ∈ kindWords) :
    ∃ kind, Kind.ofSettings? s word = some kind ∧ word = kind.word ∧ kind.Carries s := by
  simp only [kindWords, List.mem_cons, List.not_mem_nil, or_false] at h
  rcases h with rfl | rfl | rfl | rfl
  · exact ⟨.text s.maxLength, rfl, rfl, rfl⟩
  · exact ⟨.integer s.maxValue, rfl, rfl, rfl⟩
  · exact ⟨.boolean, rfl, rfl, trivial⟩
  · refine ⟨.fields ⟨s.allowedFields.map Roster.ofList, Roster.ofList s.deniedFields, s.star⟩,
      rfl, rfl, rfl, isSetOf_ofList _, ?_⟩
    cases s.allowedFields with
    | none => exact .none
    | some names => exact .some (isSetOf_ofList names)

/-- A parameter that has not been there before. -/
def compileNewParam (i : Nat) (c : Component W) (s : ParamSettings W) : Compiling W (Param W) := do
  let param ← compileParam c.name i s
  if c.params.contains param.name then .error (.duplicate .param (c.name ++ "." ++ param.name))
  else .ok param

theorem compileParams_cons (i : Nat) (c : Component W) (s : ParamSettings W)
    (r : List (ParamSettings W)) : compileParams i c (s :: r) = (do
      let param ← compileNewParam i c s
      compileParams (i + 1) (c.withParam param) r) := by
  rw [compileParams, compileNewParam]
  cases compileParam c.name i s with
  | error e => rfl
  | ok param =>
    show (if c.params.contains param.name = true then _ else _) =
      Bind.bind (if c.params.contains param.name = true then _ else _) _
    split <;> rfl

/-- A parameter with a name and a type: whether its weights are weights, and then whether there
is such a type. -/
theorem heeds_compileParam (component : String) (i : Nat) {s : ParamSettings W}
    {name word : String} (hname : s.name = some name) (hkind : s.kind = some word) :
    Heeds (compileParam component i s)
      (belowZero .param name .weightConstant s.constant ++
        (belowZero .param name .weightFactor s.factor ++
          if word ∈ kindWords then [] else [.unknownType component name word]))
      (Param.Carries · s) := by
  unfold compileParam
  rw [hname, hkind]
  refine (heeds_requireNonNegative ..).bind fun _ _ => ?_
  refine (heeds_requireNonNegative ..).bind fun _ _ => ?_
  by_cases hword : word ∈ kindWords
  · obtain ⟨kind, hof, rfl, hcarries⟩ := exists_ofSettings? hword
    rw [hof, if_pos hword]
    exact .ok ⟨hname, rfl, rfl, rfl, rfl, hkind, hcarries⟩
  · rw [ofSettings?_eq_none hword, if_neg hword]
    exact .error _ _

/-- One parameter: what it lacks, then what is wrong with it, then whether its name is taken. -/
theorem heeds_param {before : List (ParamSettings W)} {c : Component W}
    (hseen : ∀ name, c.params.contains name = true ↔ ∃ p ∈ before, p.name = some name)
    (s : ParamSettings W) : Heeds (compileNewParam before.length c s)
      (s.complaints c.name before)
      fun p => p.Carries s ∧ ∀ q ∈ before, q.name ≠ some p.name := by
  unfold ParamSettings.complaints compileNewParam
  cases hname : s.name with
  | none =>
    unfold compileParam
    rw [hname]
    exact .error _ _
  | some name =>
    cases hkind : s.kind with
    | none =>
      unfold compileParam
      rw [hname, hkind]
      exact .error _ _
    | some word =>
      have hparam := heeds_compileParam c.name before.length hname hkind
      rw [← List.append_assoc] at hparam
      refine hparam.bind fun param hcarries => ?_
      have htaken : param.name = name := Option.some.inj (hcarries.name.symm.trans hname)
      subst htaken
      simp only [hseen]
      split
      · exact .error _ _
      · next hnew => exact .ok ⟨hcarries, fun q hq heq => hnew ⟨q, hq, heq⟩⟩

omit [Cost W] in
/-- One parameter more than those before, none of which has its name. -/
theorem carries_withParam {c : Component W} {name : String} {s : ComponentSettings W}
    {before : List (ParamSettings W)} {p : Param W} {t : ParamSettings W}
    (hc : c.Carries name { s with params := before }) (hp : p.Carries t)
    (hnew : ∀ q ∈ before, q.name ≠ some p.name) :
    (c.withParam p).Carries name { s with params := before ++ [t] } := by
  refine ⟨hc.name, hc.defaultEnabled, hc.allowed, hc.constant, fun k => ?_⟩
  have hbefore := hc.params k
  rw [param?_withParam, List.find?_append]
  by_cases hk : p.name = k
  · subst hk
    have hnone : before.find? (fun q => q.name = some p.name) = none :=
      List.find?_eq_none.mpr fun q hq => by simpa using hnew q hq
    rw [hnone, if_pos rfl]
    simpa [hp.name] using hp
  · have hne : t.name ≠ some k := fun heq => hk (Option.some.inj (hp.name.symm.trans heq))
    simpa [hk, hne] using hbefore

omit [Cost W] in
/-- What is carried from the settings of parameters is found under their names. -/
theorem contains_iff_of_carries {c : Component W} {name : String} {s : ComponentSettings W}
    (hc : c.Carries name s) (k : String) :
    c.params.contains k = true ↔ ∃ p ∈ s.params, p.name = some k := by
  have hfind : (∃ p ∈ s.params, p.name = some k) ↔
      (s.params.find? fun p => p.name = some k).isSome = true := by simp
  rw [hfind, isSome_eq_of_rel (hc.params k)]
  rfl

theorem heeds_compileParams {name : String} {s : ComponentSettings W}
    {settings : List (ParamSettings W)} : ∀ {before : List (ParamSettings W)} {c : Component W},
      c.Carries name { s with params := before } →
      Heeds (compileParams before.length c settings)
        (scan (ParamSettings.complaints name) before settings)
        (Component.Carries · name { s with params := before ++ settings }) := by
  induction settings with
  | nil =>
    intro before c hc
    rw [List.append_nil]
    exact .ok hc
  | cons t r ih =>
    intro before c hc
    rw [compileParams_cons, scan]
    have hparam := heeds_param (contains_iff_of_carries hc) t
    rw [hc.name] at hparam
    refine hparam.bind fun param hp => ?_
    have hrest := ih (carries_withParam hc hp.1 hp.2)
    rw [List.length_append, List.append_assoc] at hrest
    exact hrest

/-! ### Components -/

theorem heeds_compileComponent (name : String) (s : ComponentSettings W) :
    Heeds (compileComponent name s) (s.complaints name) (Component.Carries · name s) := by
  have hbare : Component.Carries ⟨name, s.defaultEnabled, s.allowed, s.constant, Roster.empty⟩ name
      { s with params := [] } := ⟨rfl, rfl, rfl, rfl, fun _ => .none⟩
  exact (heeds_requireNonNegative ..).bind fun _ _ => heeds_compileParams hbare

/-- Adding components leaves the rest of a profile as it is. -/
theorem heeds_compileComponents {es : List (String × ComponentSettings W)} :
    ∀ {p : Profile W}, Heeds (compileComponents p es) (es.flatMap fun e => e.2.complaints e.1)
      fun p' => ∃ components, p' = { p with components := components } := by
  induction es with
  | nil => exact fun {p} => .ok ⟨p.components, rfl⟩
  | cons e r ih =>
    intro p
    refine (heeds_compileComponent e.1 e.2).bind fun c _ => ?_
    refine ih.mono ?_
    rintro _ ⟨components, rfl⟩
    exact ⟨components, rfl⟩

/-! ### Profiles -/

theorem heeds_compile (s : Settings W) : Heeds (compile s) s.complaints fun p =>
    ∃ fields components,
      List.Forall₂ (fun s f => Field.Carries f s) s.fields fields ∧
      p = ⟨s.maxWeight, s.unlistedParams,
        Catalog.ofFields fields s.unlistedFields.allowed s.unlistedFields.weight, components⟩ := by
  have hfields : Heeds (compileFields 0 [] s.fields) (scan FieldSettings.complaints [] s.fields)
      (List.Forall₂ (fun s f => Field.Carries f s) s.fields) := by
    have hnone : ∀ name, name ∈ ([] : List String) ↔
        ∃ f ∈ ([] : List (FieldSettings W)), f.name = some name := by simp
    exact heeds_compileFields hnone
  unfold compile Settings.complaints
  simp only [List.append_assoc]
  refine (heeds_requireNonNegative ..).bind fun _ _ => ?_
  refine (heeds_requireNonNegative ..).bind fun _ _ => ?_
  refine (heeds_requireNonNegative ..).bind fun _ _ => ?_
  refine hfields.bind fun fields hf => ?_
  refine heeds_compileComponents.mono ?_
  rintro _ ⟨components, rfl⟩
  exact ⟨fields, components, hf, rfl⟩

/-! ### What is carried over -/

end Profile

section

variable {settings : List (FieldSettings W)} {fields : List (Field W)}
  (h : List.Forall₂ (fun s f => Field.Carries f s) settings fields)

include h

omit [Cost W]

theorem map_name_of_carries : settings.map (·.name) = fields.map (some ·.name) := by
  induction h with
  | nil => rfl
  | cons hf _ ih => rw [List.map_cons, List.map_cons, hf.name, ih]

theorem filterMap_weight_of_carries : settings.filterMap (·.weight) = fields.map (·.weight) := by
  induction h with
  | nil => rfl
  | cons hf _ ih => rw [List.filterMap_cons, hf.weight, List.map_cons, ih]

theorem exists_carries_iff {name : String} {weight : W} :
    (∃ s ∈ settings, s.name = some name ∧ s.weight = some weight) ↔
      ∃ f ∈ fields, f.name = name ∧ f.weight = weight := by
  induction h with
  | nil => simp
  | cons hf _ ih => simp [ih, hf.name, hf.weight]

theorem distinct_of_carries (hd : settings.Pairwise fun s t => s.name ≠ t.name) :
    fields.Pairwise fun f g => f.name ≠ g.name := by
  have hnames : (settings.map (·.name)).Pairwise (· ≠ ·) := List.pairwise_map.mpr hd
  rw [map_name_of_carries h, List.pairwise_map] at hnames
  exact hnames.imp fun hne heq => hne (congrArg some heq)

end

omit [Cost W] in
/-- Of fields with distinct names each is found under its own. -/
theorem Catalog.find?_eq_some_iff {c : Catalog W}
    (hd : c.fields.Pairwise fun f g => f.name ≠ g.name) {name : String} {f : Field W} :
    c.find? name = some f ↔ f ∈ c.fields ∧ f.name = name := by
  unfold Catalog.find?
  have hd' : c.fields.reverse.Pairwise fun f g => f.name ≠ g.name :=
    List.pairwise_reverse.mpr (hd.imp Ne.symm)
  rw [← List.mem_reverse]
  generalize c.fields.reverse = fields at hd'
  induction fields with
  | nil => simp
  | cons g r ih =>
    obtain ⟨hg, hr⟩ := List.pairwise_cons.mp hd'
    by_cases hname : g.name = name
    · subst hname
      simp only [List.find?_cons, beq_self_eq_true, Option.some.injEq, List.mem_cons]
      constructor
      · rintro rfl
        exact ⟨.inl rfl, rfl⟩
      · rintro ⟨rfl | hmem, hf⟩
        · rfl
        · exact absurd hf.symm (hg f hmem)
    · have hne : f.name = name → f ≠ g := fun hf heq => hname (heq ▸ hf)
      rw [List.find?_cons_of_neg (by simpa using hname), List.mem_cons]
      refine (ih hr).trans ?_
      constructor
      · exact fun ⟨hmem, hf⟩ => ⟨.inr hmem, hf⟩
      · exact fun ⟨hmem, hf⟩ => ⟨hmem.resolve_left (hne hf), hf⟩

omit [Cost W] in
/-- What is listed costs what it is listed with, and nothing else is. -/
theorem Catalog.cost_eq_listed_iff {c : Catalog W}
    (hd : c.fields.Pairwise fun f g => f.name ≠ g.name) {name : String} {weight : W} :
    c.cost name = .listed weight ↔ ∃ f ∈ c.fields, f.name = name ∧ f.weight = weight := by
  have hfind : (∃ f ∈ c.fields, f.name = name ∧ f.weight = weight) ↔
      ∃ f, c.find? name = some f ∧ f.weight = weight := by
    simp only [find?_eq_some_iff hd, and_assoc]
  rw [hfind]
  unfold Catalog.cost
  cases c.find? name <;> simp

omit [Cost W] in
theorem Catalog.cost_eq_unlisted {c : Catalog W} {name : String}
    (h : ∀ f ∈ c.fields, f.name ≠ name) :
    c.cost name = .unlisted c.unlistedWeight c.unlistedAllowed := by
  have hfind : c.find? name = none :=
    List.find?_eq_none.mpr fun f hf => by simpa using h f (List.mem_reverse.mp hf)
  unfold Catalog.cost
  rw [hfind]

omit [Cost W] in
/-- The components under the names of the settings are all that there are. -/
theorem names_perm {es : Ordered (ComponentSettings W)} {p : Profile W}
    (h : ∀ name, (es.find? name).isSome = (p.component? name).isSome) :
    (p.components.items.map Component.name).Perm es.keys := by
  have hnodup : (p.components.items.map Component.name).Nodup :=
    List.pairwise_map.mpr (p.components.sorted.imp fun hlt => String.ne_of_lt hlt)
  refine (List.perm_ext_iff_of_nodup hnodup es.distinct).mpr fun name => ?_
  have hkeys : name ∈ Entries.keys es.entries ↔ (es.find? name).isSome = true :=
    Ordered.contains_iff.symm
  rw [hkeys, h name, List.mem_map]
  constructor
  · rintro ⟨c, hc, rfl⟩
    have hfind : p.component? c.name = some c := Roster.find?_of_mem hc
    rw [hfind]
    rfl
  · intro hsome
    obtain ⟨c, hc⟩ := Option.isSome_iff_exists.mp hsome
    exact ⟨c, List.mem_of_find?_eq_some hc, Roster.name_of_find? hc⟩

/-- **A compiled profile is what its settings declare**, and these are in order. -/
theorem carries_of_compile {s : Settings W} {p : Profile W} (h : Profile.compile s = .ok p) :
    s.InOrder ∧ p.Carries s := by
  have hheeds := Profile.heeds_compile s
  rw [h] at hheeds
  obtain ⟨hnil, fields, components, hfields, hp⟩ := hheeds
  have horder := s.complaints_eq_nil_iff.mp hnil
  have hdistinct := distinct_of_carries hfields horder.distinct
  have hcomponents : ∀ name, Option.Rel (fun s c => Component.Carries c name s)
      (s.components.find? name) (p.component? name) := by
    intro name
    have hname := Profile.component?_of_compile h name
    split at hname
    · next cs hcs =>
      obtain ⟨c, hc, hfind⟩ := hname
      have hcarries := Profile.heeds_compileComponent name cs
      rw [hc] at hcarries
      rw [hcs, hfind]
      exact .some hcarries.2
    · next hnone =>
      rw [hnone, hname]
      exact .none
  refine ⟨horder, ?_⟩
  have hnames := names_perm fun name => isSome_eq_of_rel (hcomponents name)
  subst hp
  exact {
    maxWeight := rfl
    unlistedParams := rfl
    names := hnames
    components := hcomponents
    listed := fun name weight => (Catalog.cost_eq_listed_iff hdistinct).trans
      (exists_carries_iff hfields).symm
    unlisted := fun name hname => by
      refine Catalog.cost_eq_unlisted fun f hf heq => ?_
      obtain ⟨t, ht, htname, -⟩ := (exists_carries_iff hfields).mpr ⟨f, hf, heq, rfl⟩
      exact hname t ht htname
    total := congrArg Cost.sum (filterMap_weight_of_carries hfields).symm }

/-! ## Top theorem -/

/-- **Settings are compiled exactly if they are in order**, into a profile that is what they
declare.  Otherwise the first complaint about them is given back. -/
theorem compile_outcome (s : Settings Float) :
    (∀ w : Float, IsWeight w ↔ 0.0 ≤ w ∧ w.isNaN = false) ∧
    match Profile.compile s with
    | .ok p => s.InOrder ∧ p.Carries s
    | .error e => ¬ s.InOrder ∧ s.complaints.head? = some e := by
  constructor
  · intro w
    have hzero : (0.0 : Float).isNaN = false := by decide +kernel
    rw [isWeight_iff, Number.NotBelow, Number.not_lt_iff, hzero]
    cases w.isNaN <;> simp
  · have hheeds := Profile.heeds_compile s
    cases h : Profile.compile s with
    | ok p => exact carries_of_compile h
    | error e =>
      rw [h] at hheeds
      have hhead : s.complaints.head? = some e := hheeds
      refine ⟨fun horder => ?_, hhead⟩
      rw [s.complaints_eq_nil_iff.mpr horder] at hhead
      cases hhead

end SearchGateway.Policy
