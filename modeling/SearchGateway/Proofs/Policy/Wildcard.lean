import SearchGateway.Proofs.Policy.Compiling
import SearchGateway.Proofs.Policy.Legality

/-!
# Which fields an admitted field list retrieves

A field list retrieves the fields that it names, and with the wildcard all fields of the catalog.
What it names is held against the lists of its parameter.  The wildcard is not: it is a right of
its own that a parameter has or has not, whatever its lists say of the fields behind it.

    ParamSettings.Admits      whether the lists of a parameter let a field through
    Catalog.Retrieves         the fields that a field list retrieves
    admits_iff                what becomes of the lists when a policy is compiled
    decide_retrieves          what an admitted request can retrieve against the lists
-/

namespace SearchGateway.Policy

open FieldList (IsName)

variable {W : Type}

/-! ## Algorithm -/

/-- Whether the lists of a parameter let a field through. -/
def ParamSettings.Admits (s : ParamSettings W) (field : String) : Prop :=
  field ∉ s.deniedFields ∧ ∀ names, s.allowedFields = some names → field ∈ names

/-- The fields that the values of a field list retrieve. -/
def Catalog.Retrieves (c : Catalog W) (values : List String) (field : String) : Prop :=
  (IsName values field ∧ field ≠ star) ∨
    (IsName values star ∧ ∃ f ∈ c.fields, f.name = field)

/-! ## Lemmas -/

/-! ### The lists of a parameter -/

theorem contains_insert_iff {r : Names} {a name : String} :
    (r.insert a).contains name = true ↔ a = name ∨ r.contains name = true := by
  unfold Roster.contains
  rw [Roster.find?_insert]
  by_cases ha : a = name
  · simp [ha]
  · simp [ha]

theorem contains_ofList_iff {names : List String} {name : String} :
    (Roster.ofList names : Names).contains name = true ↔ name ∈ names := by
  have hfold : ∀ (names : List String) (r : Names),
      (names.foldl Roster.insert r).contains name = true ↔
        name ∈ names ∨ r.contains name = true := by
    intro names
    induction names with
    | nil => simp
    | cons a l ih =>
      intro r
      rw [List.foldl_cons, ih, contains_insert_iff, List.mem_cons, eq_comm (a := name),
        or_left_comm, or_assoc]
  exact (hfold names Roster.empty).trans (or_iff_left Bool.false_ne_true)

/-- The lists of compiled settings let through what those of the settings do. -/
theorem admits_iff {s : ParamSettings W} {field : String} : s.Admits field ↔
    field ∉ (Roster.ofList s.deniedFields : Names).items ∧
      ∀ names, s.allowedFields.map (Roster.ofList : List String → Names) = some names →
        field ∈ names.items := by
  unfold ParamSettings.Admits
  simp only [Option.map_eq_some_iff, forall_exists_index, and_imp, forall_apply_eq_imp_iff₂,
    ← contains_iff, contains_ofList_iff]

/-- A compiled field list has the lists of its settings. -/
theorem kind_of_fields [Cost W] {component : String} {i : Nat} {s : ParamSettings W}
    {param : Param W} (h : Profile.compileParam component i s = .ok param)
    (hfields : s.kind = some "fields") : param.kind =
      .fields ⟨s.allowedFields.map Roster.ofList, Roster.ofList s.deniedFields, s.star⟩ := by
  obtain ⟨-, kind, hkind, hof⟩ := Profile.of_compileParam h
  obtain rfl : "fields" = kind := Option.some.inj (hfields.symm.trans hkind)
  exact (Option.some.inj hof).symm

/-! ### What a legal field list names -/

/-- All values of a parameter that takes them are looked at. -/
theorem Param.considered_of_legal {p : Param W} {catalog : Catalog W} {values : List String}
    (h : p.Legal catalog values) : (if p.multiValue then values else values.take 1) = values := by
  split
  · rfl
  · next hsingle => exact List.take_of_length_le (h.1.resolve_left hsingle)

theorem permits_star_iff {rule : FieldRule} {catalog : Catalog W} :
    rule.Permits catalog star ↔ rule.star = true := by
  unfold FieldRule.Permits
  rw [if_pos (show star = "*" from rfl)]

theorem permits_iff_of_ne {rule : FieldRule} {catalog : Catalog W} {field : String}
    (h : field ≠ star) : rule.Permits catalog field ↔ field ∉ rule.denied.items ∧
      (∀ names, rule.allowed = some names → field ∈ names.items) ∧
      ((∃ f ∈ catalog.fields, f.name = field) ∨ catalog.unlistedAllowed = true) := by
  unfold FieldRule.Permits
  rw [if_neg (show field ≠ "*" from h)]

/-- A field list that a parameter takes names no field against its lists, and gives the wildcard
only where there is a right to it. -/
theorem admits_of_legal {p : Param W} {catalog : Catalog W} {values : List String}
    {s : ParamSettings W} (h : p.Legal catalog values) (hkind : p.kind =
      .fields ⟨s.allowedFields.map Roster.ofList, Roster.ofList s.deniedFields, s.star⟩) :
    (∀ field, IsName values field → field ≠ star → s.Admits field) ∧
      (IsName values star → s.star = true) := by
  have hpermits := h.2
  rw [hkind, Param.considered_of_legal h] at hpermits
  constructor
  · intro field hfield hne
    obtain ⟨hdenied, hallowed, -⟩ := (permits_iff_of_ne hne).mp (hpermits field hfield)
    exact admits_iff.mpr ⟨hdenied, hallowed⟩
  · exact fun hstar => permits_star_iff.mp (hpermits star hstar)

/-- Where the named fields are admitted, it is the wildcard that retrieves the others. -/
theorem retrieves_and_not_admits_iff {catalog : Catalog W} {values : List String}
    {s : ParamSettings W} (h : ∀ field, IsName values field → field ≠ star → s.Admits field)
    (field : String) : catalog.Retrieves values field ∧ ¬ s.Admits field ↔
      IsName values star ∧ (∃ f ∈ catalog.fields, f.name = field) ∧ ¬ s.Admits field := by
  constructor
  · rintro ⟨⟨hnamed, hne⟩ | ⟨hstar, hlisted⟩, hexcluded⟩
    · exact absurd (h field hnamed hne) hexcluded
    · exact ⟨hstar, hlisted, hexcluded⟩
  · rintro ⟨hstar, hlisted, hexcluded⟩
    exact ⟨.inr ⟨hstar, hlisted⟩, hexcluded⟩

/-- A parameter of an admitted request takes its values. -/
theorem legal_of_allowed [Cost W] {p : Profile W} {c : Component W} {handler name : String}
    {params : Params} {limit : Option W} {values : List String} {param : Param W}
    (hc : p.component? handler = some c) (ha : (p.decide handler params limit).allowed = true)
    (hvalues : params.find? name = some values) (hparam : c.param? name = some param) :
    param.Legal p.catalog values := by
  obtain ⟨hlegal, -⟩ := (Profile.allowed_decide_iff hc limit params).mp ha
  exact Classical.byContradiction fun h =>
    hlegal (.inr (.inr ⟨name, values, param, hvalues, hparam, .inr h⟩))

/-- A handler of an admitted request has settings of its own. -/
theorem exists_settings_of_allowed [Cost W] {s : Settings W} {p : Profile W}
    (hp : Profile.compile s = .ok p) {handler : String} {params : Params} {limit : Option W}
    (ha : (p.decide handler params limit).allowed = true) :
    ∃ cs, s.components.find? handler = some cs := by
  have hc := Profile.component?_of_compile hp handler
  cases hcs : s.components.find? handler with
  | some cs => exact ⟨cs, rfl⟩
  | none =>
    rw [hcs] at hc
    unfold Profile.decide at ha
    rw [hc] at ha
    cases ha

/-! ## Top theorem -/

/-- **Only the wildcard retrieves fields against the lists of a parameter.**  Whatever an admitted
request names in a field list, be it in one value or several, its lists let through, and it gives
the wildcard only where there is a right to it.  What it then retrieves against the lists are the
fields of the catalog that they exclude. -/
theorem decide_retrieves [Cost W] {s : Settings W} {p : Profile W}
    (hp : Profile.compile s = .ok p) {handler : String} {params : Params} {limit : Option W}
    (ha : (p.decide handler params limit).allowed = true) :
    ∃ cs, s.components.find? handler = some cs ∧
      ∀ ps ∈ cs.params, ps.kind = some "fields" → ∀ name values, ps.name = some name →
        params.find? name = some values →
        (∀ field, IsName values field → field ≠ star → ps.Admits field) ∧
        (IsName values star → ps.star = true) ∧
        ∀ field, p.catalog.Retrieves values field ∧ ¬ ps.Admits field ↔
          IsName values star ∧ (∃ f ∈ p.catalog.fields, f.name = field) ∧ ¬ ps.Admits field := by
  obtain ⟨cs, hcs⟩ := exists_settings_of_allowed hp ha
  obtain ⟨c, hc, hparams⟩ := Profile.param?_of_compile hp hcs
  refine ⟨cs, hcs, fun ps hps hfields name values hname hvalues => ?_⟩
  obtain ⟨i, param, hcompile, hparam⟩ := hparams ps hps
  obtain rfl : param.name = name :=
    Option.some.inj ((Profile.of_compileParam hcompile).1.symm.trans hname)
  have hlegal := legal_of_allowed hc ha hvalues hparam
  obtain ⟨hnamed, hstar⟩ := admits_of_legal hlegal (kind_of_fields hcompile hfields)
  exact ⟨hnamed, hstar, retrieves_and_not_admits_iff hnamed⟩

/-! ## A policy with a secret -/

/-- A field list that may not name a secret, but has a right to the wildcard. -/
def openList : ParamSettings Float :=
  { ParamSettings.default with
    name := some "fl", kind := some "fields", deniedFields := ["secret"], star := true }

/-- A policy with that list, and the secret in its catalog. -/
def secretive : Settings Float where
  maxWeight := 1000.0
  unlistedFields := .default
  unlistedParams := .default
  fields := [⟨some "title", some 1.0⟩, ⟨some "secret", some 1.0⟩]
  components := Ordered.empty.insert "select" { ComponentSettings.default with params := [openList] }

/-- A request for a title and everything else. -/
def everything : Params := Params.ofPairs [("fl", "title,*")]

/-- Whether a compiled profile admits a request and lists a field. -/
def Profile.admitsListing (handler : String) (params : Params) (field : String) :
    Except (CompileError Float) (Profile Float) → Bool
  | .ok p => (p.decide handler params none).allowed && p.catalog.fields.any (·.name == field)
  | .error _ => false

theorem exists_secretive : ∃ p, Profile.compile secretive = .ok p ∧
    (p.decide "select" everything none).allowed = true ∧
    ∃ f ∈ p.catalog.fields, f.name = "secret" := by
  have h : Profile.admitsListing "select" everything "secret" (Profile.compile secretive) = true := by
    decide +kernel
  cases hp : Profile.compile secretive with
  | error e =>
    rw [hp] at h
    cases h
  | ok p =>
    rw [hp] at h
    unfold Profile.admitsListing at h
    simp only [Bool.and_eq_true, List.any_eq_true, beq_iff_eq] at h
    exact ⟨p, rfl, h⟩

theorem isName_everything : IsName ["title,*"] "title" ∧ IsName ["title,*"] star :=
  ⟨FieldList.mem_split_iff.mp (by decide), FieldList.mem_split_iff.mp (by decide)⟩

/-- The title is retrieved by right, the secret against the list. -/
theorem decide_retrieves_secretive : ∃ p, Profile.compile secretive = .ok p ∧
    (p.decide "select" everything none).allowed = true ∧ openList.Admits "title" ∧
    openList.star = true ∧ p.catalog.Retrieves ["title,*"] "secret" ∧
    ¬ openList.Admits "secret" := by
  obtain ⟨p, hp, ha, hlisted⟩ := exists_secretive
  obtain ⟨cs, hcs, hall⟩ := decide_retrieves hp ha
  obtain rfl : { ComponentSettings.default with params := [openList] } = cs := Option.some.inj hcs
  obtain ⟨hnamed, hstar, hretrieved⟩ := hall openList List.mem_cons_self rfl "fl" ["title,*"] rfl rfl
  have hexcluded : ¬ openList.Admits "secret" := fun h => h.1 List.mem_cons_self
  obtain ⟨htitle, hwildcard⟩ := isName_everything
  exact ⟨p, hp, ha, hnamed "title" htitle (by decide), hstar hwildcard,
    (hretrieved "secret").mpr ⟨hwildcard, hlisted, hexcluded⟩⟩

/-- A field list of an admitted request can retrieve what its parameter denies. -/
theorem not_forall_retrieved_admitted : ¬ ∀ (s : Settings Float) (p : Profile Float)
    (handler : String) (params : Params) (cs : ComponentSettings Float) (ps : ParamSettings Float)
    (name : String) (values : List String) (field : String), Profile.compile s = .ok p →
    (p.decide handler params none).allowed = true → s.components.find? handler = some cs →
    ps ∈ cs.params → ps.kind = some "fields" → ps.name = some name →
    params.find? name = some values → p.catalog.Retrieves values field → ps.Admits field := by
  intro hall
  obtain ⟨p, hp, ha, hlisted⟩ := exists_secretive
  have hadmits := hall secretive p "select" everything _ openList "fl" ["title,*"] "secret" hp ha
    rfl List.mem_cons_self rfl rfl rfl (.inr ⟨isName_everything.2, hlisted⟩)
  exact hadmits.1 List.mem_cons_self

end SearchGateway.Policy
