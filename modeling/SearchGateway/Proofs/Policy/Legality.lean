import SearchGateway.Policy.Decision
import SearchGateway.Proofs.Number.Integers
import SearchGateway.Proofs.Params.Pairs
import SearchGateway.Proofs.Policy.FieldList

/-!
# Which requests are legal

What a policy lets a request give is told here without any reasons: which values a parameter
takes, by kind, and what is wrong with a request as a whole.  A decision gives reasons exactly
where something is wrong.

    Param.Legal p catalog values        the values that a parameter takes
    Profile.Offends p c params          something in the request breaks a rule
    decide_rejection                    why a request is refused, whatever the request
-/

namespace SearchGateway.Policy

variable {W : Type}

/-! ## Rules -/

/-- Whether a field may be named. -/
def FieldRule.Permits (rule : FieldRule) (catalog : Catalog W) (field : String) : Prop :=
  if field = "*" then rule.star = true
  else field ∉ rule.denied.items ∧ (∀ names, rule.allowed = some names → field ∈ names.items) ∧
    ((∃ f ∈ catalog.fields, f.name = field) ∨ catalog.unlistedAllowed = true)

/-- A text is short enough, or there are few enough of them. -/
def FitsLength (multiValue : Bool) (limit : Nat) (values : List String) : Prop :=
  if multiValue then values.length ≤ limit else ∀ raw ∈ values.head?, raw.length ≤ limit

/-- A whole number of 64 bits that is not above a limit, blanks around it ignored. -/
def IsIntegerWithin (limit : Option Int) (raw : String) : Prop :=
  ∃ v, Number.IsInteger (Text.trimChars raw.toList) v ∧ -2 ^ 63 ≤ v ∧ v < 2 ^ 63 ∧
    ∀ max, limit = some max → v ≤ max

/-- The words of a switch. -/
def switchWords : List String := ["true", "on", "yes", "1", "false", "off", "no", "0"]

/-- A word of a switch, in any case, blanks around it ignored. -/
def IsSwitch (raw : String) : Prop :=
  String.ofList ((Text.trimChars raw.toList).map Char.toLower) ∈ switchWords

/-- The values that a parameter takes.  A parameter of one value looks at the first alone. -/
def Param.Legal (p : Param W) (catalog : Catalog W) (values : List String) : Prop :=
  (p.multiValue = true ∨ values.length ≤ 1) ∧
    let values := if p.multiValue then values else values.take 1
    match p.kind with
    | .text limit => ∀ max, limit = some max → FitsLength p.multiValue max values
    | .integer limit => ∀ raw ∈ values, IsIntegerWithin limit raw
    | .boolean => ∃ raw, values.head? = some raw ∧ IsSwitch raw
    | .fields rule => ∀ t, FieldList.IsName values t → rule.Permits catalog t

/-- Something in a request breaks a rule: the handler is closed, a parameter is not declared
where it has to be, or a declared one is closed or does not take its values. -/
def Profile.Offends (p : Profile W) (c : Component W) (params : Params) : Prop :=
  c.allowed = false ∨
  (∃ name ∈ params.keys, c.param? name = none ∧ p.unlistedParams.allowed = false) ∨
  ∃ name values param, params.find? name = some values ∧ c.param? name = some param ∧
    (param.allowed = false ∨ ¬ param.Legal p.catalog values)

/-! ## Lemmas -/

/-! ### Values -/

theorem contains_iff {names : Names} {name : String} :
    names.contains name = true ↔ name ∈ names.items := by
  unfold Roster.contains
  constructor
  · intro h
    obtain ⟨x, hx⟩ := Option.isSome_iff_exists.mp h
    have hname : x = name := Roster.name_of_find? hx
    exact hname ▸ List.mem_of_find?_eq_some hx
  · intro h
    have hfind : names.find? name = some name := Roster.find?_of_mem h
    rw [hfind]
    rfl

theorem isAllowed_cost_iff {catalog : Catalog W} {field : String} :
    (catalog.cost field).isAllowed = true ↔
      (∃ f ∈ catalog.fields, f.name = field) ∨ catalog.unlistedAllowed = true := by
  have hfind : (catalog.find? field).isSome = true ↔ ∃ f ∈ catalog.fields, f.name = field := by
    unfold Catalog.find?
    rw [List.find?_isSome]
    simp
  unfold Catalog.cost
  rw [← hfind]
  cases catalog.find? field with
  | none => simp [FieldCost.isAllowed]
  | some f => simp [FieldCost.isAllowed]

/-- The words that set a switch, or that clear it. -/
def wordsOf (flag : Bool) : List String :=
  if flag then ["true", "on", "yes", "1"] else ["false", "off", "no", "0"]

theorem readSwitch_eq_some_iff {raw : String} {flag : Bool} :
    readSwitch raw = some flag ↔
      String.ofList ((Text.trimChars raw.toList).map Char.toLower) ∈ wordsOf flag := by
  unfold readSwitch
  generalize String.ofList ((Text.trimChars raw.toList).map Char.toLower) = word
  show (if word ∈ wordsOf true then some true
    else if word ∈ wordsOf false then some false else none) = some flag ↔ _
  have hdisjoint : ∀ w ∈ wordsOf true, w ∉ wordsOf false := by decide
  by_cases hon : word ∈ wordsOf true
  · have hoff := hdisjoint word hon
    cases flag <;> simp [hon, hoff]
  · by_cases hoff : word ∈ wordsOf false
    · cases flag <;> simp [hon, hoff]
    · cases flag <;> simp [hon, hoff]

theorem readSwitch_isSome_iff {raw : String} : (readSwitch raw).isSome = true ↔ IsSwitch raw := by
  have hwords : switchWords = wordsOf true ++ wordsOf false := rfl
  unfold IsSwitch
  rw [Option.isSome_iff_exists, hwords, List.mem_append]
  simp only [readSwitch_eq_some_iff, Bool.exists_bool]
  exact or_comm

namespace Param

variable {p : Param W} {catalog : Catalog W}

theorem fieldReasons_eq_nil_iff {rule : FieldRule} {field : String} :
    p.fieldReasons rule catalog field = [] ↔ rule.Permits catalog field := by
  unfold fieldReasons FieldRule.Permits star
  by_cases hstar : field = "*"
  · rw [if_pos hstar, if_pos hstar]
    cases rule.star <;> simp
  · rw [if_neg hstar, if_neg hstar, ← contains_iff, ← isAllowed_cost_iff]
    cases hdenied : rule.denied.contains field with
    | true => simp
    | false =>
      have hallowed : (rule.allowed.map fun names => !names.contains field).getD false = false ↔
          ∀ names, rule.allowed = some names → field ∈ names.items := by
        cases rule.allowed with
        | none => simp
        | some names => simp [contains_iff]
      rw [← hallowed]
      cases (rule.allowed.map fun names => !names.contains field).getD false <;>
        cases (catalog.cost field).isAllowed <;> simp

theorem integerReasons_eq_nil_iff {limit : Option Int} {raw : String} :
    p.integerReasons limit raw = [] ↔ IsIntegerWithin limit raw := by
  have hread : ∀ v, readInteger raw = some v ↔
      Number.IsInteger (Text.trimChars raw.toList) v ∧ -2 ^ 63 ≤ v ∧ v < 2 ^ 63 :=
    fun v => Number.int64?_eq_some_iff
  have hwithin : IsIntegerWithin limit raw ↔
      ∃ v, readInteger raw = some v ∧ ∀ max, limit = some max → v ≤ max := by
    unfold IsIntegerWithin
    simp only [hread, and_assoc]
  rw [hwithin]
  unfold integerReasons
  cases readInteger raw with
  | none => simp
  | some v =>
    cases limit with
    | none => simp
    | some max => simp

/-- A limit on a text is kept where nothing is said against it. -/
theorem textReasons_eq_nil_iff {limit : Nat} {values : List String} :
    p.textLength values ≤ limit ↔ FitsLength p.multiValue limit values := by
  unfold textLength FitsLength
  cases p.multiValue with
  | true => simp
  | false => cases values <;> simp

theorem kindReasons_eq_nil_iff {values : List String} :
    p.kindReasons catalog values = [] ↔
      match p.kind with
      | .text limit => ∀ max, limit = some max → FitsLength p.multiValue max values
      | .integer limit => ∀ raw ∈ values, IsIntegerWithin limit raw
      | .boolean => ∃ raw, values.head? = some raw ∧ IsSwitch raw
      | .fields rule => ∀ t, FieldList.IsName values t → rule.Permits catalog t := by
  unfold kindReasons
  cases p.kind with
  | text limit =>
    cases limit with
    | none => simp
    | some max => simp [← textReasons_eq_nil_iff]
  | integer limit => simp only [List.flatMap_eq_nil_iff, integerReasons_eq_nil_iff]
  | boolean =>
    cases values with
    | nil =>
      have hnone : (readSwitch "").isSome = false := by decide
      simp [hnone]
    | cons raw r =>
      have hsome : (∃ x, (raw :: r).head? = some x ∧ IsSwitch x) ↔
          (readSwitch raw).isSome = true := by simp [readSwitch_isSome_iff]
      rw [hsome]
      cases hread : (readSwitch raw).isSome <;> simp [hread]
  | fields rule =>
    simp only [List.flatMap_eq_nil_iff, fieldReasons_eq_nil_iff, FieldList.mem_split_iff]

/-- **Nothing is said against values exactly if the parameter takes them.** -/
theorem reasons_eq_nil_iff {values : List String} :
    p.reasons catalog values = [] ↔ p.Legal catalog values := by
  unfold reasons Legal
  rw [List.append_eq_nil_iff, kindReasons_eq_nil_iff]
  refine and_congr ?_ Iff.rfl
  cases p.multiValue with
  | true => simp
  | false => simp

end Param

/-! ### Requests -/

namespace Profile

variable {p : Profile W} {c : Component W}

theorem paramReasons_eq_nil_iff {name : String} {values : List String} :
    p.paramReasons c name values = [] ↔
      match c.param? name with
      | some param => param.allowed = true ∧ param.Legal p.catalog values
      | none => p.unlistedParams.allowed = true := by
  unfold paramReasons
  cases c.param? name with
  | some param =>
    simp only [List.append_eq_nil_iff, Param.reasons_eq_nil_iff]
    cases param.allowed <;> simp
  | none => cases p.unlistedParams.allowed <;> simp

/-- **A request gives no reasons exactly if nothing in it breaks a rule.** -/
theorem reasons_eq_nil_iff {handler : String} {params : Params} :
    p.reasons c handler params = [] ↔ ¬ p.Offends c params := by
  have hparams : (∀ e ∈ params.entries, p.paramReasons c e.1 e.2 = []) ↔
      ¬ ((∃ name ∈ params.keys, c.param? name = none ∧ p.unlistedParams.allowed = false) ∨
        ∃ name values param, params.find? name = some values ∧ c.param? name = some param ∧
          (param.allowed = false ∨ ¬ param.Legal p.catalog values)) := by
    simp only [paramReasons_eq_nil_iff]
    constructor
    · rintro hall (⟨name, hname, hnone, hunlisted⟩ | ⟨name, values, param, hvalues, hparam, hbad⟩)
      · obtain ⟨e, he, rfl⟩ := List.mem_map.mp hname
        have h := hall e he
        rw [hnone] at h
        rw [h] at hunlisted
        cases hunlisted
      · have h := hall (name, values) (Ordered.mem_entries_iff.mpr hvalues)
        rw [hparam] at h
        rcases hbad with hclosed | hillegal
        · rw [h.1] at hclosed
          cases hclosed
        · exact hillegal h.2
    · intro hgood e he
      have hvalues : params.find? e.1 = some e.2 := Ordered.mem_entries_iff.mp he
      cases hparam : c.param? e.1 with
      | none =>
        refine Decidable.byContradiction fun h => hgood (.inl ⟨e.1, List.mem_map_of_mem he, hparam, ?_⟩)
        exact Bool.eq_false_iff.mpr h
      | some param =>
        constructor
        · refine Decidable.byContradiction fun h =>
            hgood (.inr ⟨e.1, e.2, param, hvalues, hparam, .inl ?_⟩)
          exact Bool.eq_false_iff.mpr h
        · exact Classical.byContradiction fun h =>
            hgood (.inr ⟨e.1, e.2, param, hvalues, hparam, .inr h⟩)
  unfold reasons Offends
  rw [List.append_eq_nil_iff, List.flatMap_eq_nil_iff, not_or]
  refine and_congr ?_ hparams
  cases c.allowed <;> simp

/-- A request is admitted if it breaks no rule and is not above the limit. -/
theorem allowed_decide_iff [Cost W] {handler : String} (hc : p.component? handler = some c)
    (limit : Option W) (R : Params) : (p.decide handler R limit).allowed = true ↔
      ¬ p.Offends c R ∧ Cost.exceeds (p.weigh c R) (limit.getD p.maxWeight) = false := by
  have hreasons : p.reasons c handler R = [] ↔ ¬ p.Offends c R := reasons_eq_nil_iff
  rw [← hreasons]
  unfold decide Decision.allowed
  simp only [hc]
  by_cases hnil : p.reasons c handler R = []
  · cases hexceeds : Cost.exceeds (p.weigh c R) (limit.getD p.maxWeight) <;> simp [hnil]
  · simp [hnil]

end Profile

/-! ## Top theorem -/

/-- **Why a request is refused.**  Without a component for its handler it is unknown; else it is
illegal exactly if something in it breaks a rule; else it is overweight exactly if it weighs
more than the limit; else it is not refused. -/
theorem decide_rejection [Cost W] (p : Profile W) (handler : String) (params : Params)
    (limit : Option W) :
    let d := p.decide handler params limit
    d.maxWeight = limit.getD p.maxWeight ∧
    match p.component? handler with
    | none => d.rejection = some .unknownHandler
    | some c =>
      d.rejection ≠ some .unknownHandler ∧
      (d.rejection = some .illegalInput ↔ p.Offends c params) ∧
      (d.reasons ≠ [] ↔ p.Offends c params) ∧
      (d.rejection = some .overweight ↔
        ¬ p.Offends c params ∧ Cost.exceeds d.weight d.maxWeight = true) ∧
      (d.rejection = none ↔
        ¬ p.Offends c params ∧ Cost.exceeds d.weight d.maxWeight = false) := by
  intro d
  have hd : d = p.decide handler params limit := rfl
  unfold Profile.decide at hd
  cases hc : p.component? handler with
  | none =>
    rw [hc] at hd
    rw [hd]
    exact ⟨rfl, rfl⟩
  | some c =>
    rw [hc] at hd
    simp only at hd ⊢
    have hreasons : p.reasons c handler params = [] ↔ ¬ p.Offends c params :=
      Profile.reasons_eq_nil_iff
    rw [hd]
    by_cases hoffends : p.Offends c params
    · have hne : p.reasons c handler params ≠ [] := fun h => hreasons.mp h hoffends
      simp [hne, hoffends]
    · have hnil : p.reasons c handler params = [] := hreasons.mpr hoffends
      cases hexceeds : Cost.exceeds (p.weigh c params) (limit.getD p.maxWeight) <;>
        simp [hnil, hoffends]

end SearchGateway.Policy
