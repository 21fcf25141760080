import Mathlib.Data.List.Basic
import SearchGateway.Proofs.Number.Packing
import SearchGateway.Proofs.Policy.Naming
import SearchGateway.Proofs.Policy.Scanning

/-!
# What the wildcard costs

The price of the wildcard is added up once, when a policy is compiled, from the weights of all
fields in the order of the settings.  The price of a list of names is added up for each request,
from what each name costs by itself.  Where the list gives all names in the order of the settings
the two go through the same weights in the same order, so they are the same double, and not only
about the same number.

    Settings.fieldNames        the names of the fields, in the order of the settings
    Spells names text          a value that gives these names in this order
    weight_read_fields         what a field list costs for one value
    map_fieldWeight            what the listed names cost, one by one
    star_costs_all             the wildcard costs what naming every field costs
-/

namespace SearchGateway.Policy

open FieldList (IsPlain IsPadding Gap joined tokens)

/-! ## Naming every field -/

/-- The names of the fields, in the order of the settings. -/
def Settings.fieldNames {W : Type} (s : Settings W) : List String := s.fields.filterMap (·.name)

/-- A value that gives names in an order.  A name may come again behind its first place, and there
may be more commas and blanks than needed, also before the first and behind the last name. -/
def Spells (names : List String) (text : String) : Prop :=
  ∃ before words gaps after, IsPadding before ∧ IsPadding after ∧ words.eraseDups = names ∧
    text = before ++ joined gaps words ++ after

/-! ## Lemmas -/

/-! ### Values -/

/-- A value is read as the names that it gives. -/
theorem split_of_spells {names : List String} {text : String} (h : Spells names text)
    (hplain : ∀ t ∈ names, IsPlain t) : FieldList.split [text] = names := by
  obtain ⟨before, words, gaps, after, hbefore, hafter, rfl, rfl⟩ := h
  have hwords : ∀ t ∈ words, IsPlain t := fun t ht => hplain t (List.mem_eraseDups.mpr ht)
  rw [FieldList.split_eq_eraseDups, List.flatMap_singleton, FieldList.tokens_append_padding hafter,
    FieldList.tokens_padding_append hbefore, FieldList.tokens_joined hwords]

/-- A comma is a gap. -/
def comma : Gap where
  text := ","
  padding := by decide
  nonempty := by decide

theorem joined_comma (names : List String) :
    joined (fun _ => comma) names = ",".intercalate names := by
  induction names with
  | nil => rfl
  | cons t r ih =>
    cases r with
    | nil => rw [joined, String.intercalate_singleton]
    | cons u r =>
      rw [joined, ih, String.intercalate_cons_cons]
      rfl

/-- Names with commas between them are such a value. -/
theorem spells_intercalate {names : List String} (h : names.Nodup) :
    Spells names (",".intercalate names) := by
  refine ⟨"", names, fun _ => comma, "", by decide, by decide, FieldList.eraseDups_of_nodup h, ?_⟩
  rw [joined_comma, String.empty_append, String.append_empty]

/-! ### Weights -/

section

variable {W : Type} [Cost W]

/-- What a field list costs for one value: its constant, and its factor for the names. -/
theorem weight_read_fields {param : Param W} {rule : FieldRule} (hkind : param.kind = .fields rule)
    (catalog : Catalog W) (text : String) : param.weight catalog (param.read [text]) =
      Cost.affine param.constant param.factor
        (Cost.sum ((FieldList.split [text]).map (Param.fieldWeight catalog))) := by
  have hconsidered : param.considered [text] = [text] := by
    unfold Param.considered
    split <;> rfl
  unfold Param.weight Param.read
  simp only [hkind, hconsidered]
  rfl

/-- The listed names cost one by one what the fields weigh. -/
theorem map_fieldWeight {s : Settings W} {p : Profile W} (horder : s.InOrder)
    (hcarries : p.Carries s) (hstar : ∀ t ∈ s.fieldNames, t ≠ star) :
    s.fieldNames.map (Param.fieldWeight p.catalog) = s.fields.filterMap (·.weight) := by
  have hweight : ∀ f ∈ s.fields, f.name.map (Param.fieldWeight p.catalog) = f.weight := by
    intro f hf
    obtain ⟨name, hname⟩ := (horder.fields f hf).named
    obtain ⟨weight, hweight, -⟩ := (horder.fields f hf).weighted
    have hne : name ≠ star := hstar name (List.mem_filterMap.mpr ⟨f, hf, hname⟩)
    have hcost : p.catalog.cost name = .listed weight :=
      (hcarries.listed name weight).mpr ⟨f, hf, hname, hweight⟩
    rw [hname, hweight, Option.map_some, Param.fieldWeight, if_neg hne, hcost]
    rfl
  unfold Settings.fieldNames
  rw [List.map_filterMap]
  exact List.filterMap_congr hweight

/-- Of settings in order each field has a name of its own. -/
theorem nodup_fieldNames {s : Settings W} (horder : s.InOrder) : s.fieldNames.Nodup := by
  unfold Settings.fieldNames
  refine List.pairwise_filterMap.mpr (horder.distinct.imp ?_)
  intro f g hne name hname name' hname' heq
  exact hne (hname.trans (heq ▸ hname'.symm))

end

/-- One double by itself adds up to itself. -/
theorem sum_singleton (w : Float) : Cost.sum [w] = w := Number.negZero_add w

/-! ## Top theorem -/

/-- **The wildcard costs what naming every listed field costs**, to the last bit, whatever the
weights are: with the names joined by commas in the order of the settings, and also where a name
comes again or commas and blanks are put in. -/
theorem star_costs_all {s : Settings Float} {p : Profile Float} (hp : Profile.compile s = .ok p)
    (hplain : ∀ t ∈ s.fieldNames, IsPlain t ∧ t ≠ star) {param : Param Float} {rule : FieldRule}
    (hkind : param.kind = .fields rule) :
    param.weight p.catalog (param.read [star]) =
        param.weight p.catalog (param.read [",".intercalate s.fieldNames]) ∧
      ∀ text, Spells s.fieldNames text →
        param.weight p.catalog (param.read [star]) =
          param.weight p.catalog (param.read [text]) := by
  obtain ⟨horder, hcarries⟩ := carries_of_compile hp
  have hspelled : ∀ text, Spells s.fieldNames text →
      param.weight p.catalog (param.read [star]) =
        param.weight p.catalog (param.read [text]) := by
    intro text htext
    have hnames : FieldList.split [text] = s.fieldNames :=
      split_of_spells htext fun t ht => (hplain t ht).1
    have hstar : FieldList.split [star] = [star] := by decide
    have htotal : Param.fieldWeight p.catalog star = p.catalog.total := if_pos rfl
    rw [weight_read_fields hkind, weight_read_fields hkind, hnames, hstar, List.map_singleton,
      htotal, sum_singleton, hcarries.total,
      map_fieldWeight horder hcarries fun t ht => (hplain t ht).2]
  exact ⟨hspelled _ (spells_intercalate (nodup_fieldNames horder)), hspelled⟩

/-! ## A policy whose sums are rounded -/

/-- Three fields whose weights add up to more in this order than in the other. -/
def rounding : Settings Float where
  maxWeight := 1000.0
  unlistedFields := .default
  unlistedParams := .default
  fields := [⟨some "b", some 0.1⟩, ⟨some "a", some 0.2⟩, ⟨some "c", some 0.3⟩]
  components := Ordered.empty

/-- A field list with a right to the wildcard. -/
def starred : Param Float := ⟨"fl", true, 2.0, 0.5, false, .fields ⟨none, Roster.empty, true⟩⟩

theorem spells_rounding : Spells rounding.fieldNames "\tb, a,b,c," := by
  refine ⟨"\t", ["b", "a", "b", "c"], fun i => if i = 0 then ⟨", ", by decide, by decide⟩ else comma,
    ",", by decide, by decide, by decide, by decide⟩

/-- The names in their order, and once more with a tab, a blank and a repetition. -/
theorem star_costs_all_rounding : ∃ p, Profile.compile rounding = .ok p ∧
    starred.weight p.catalog (starred.read ["*"]) =
      starred.weight p.catalog (starred.read ["b,a,c"]) ∧
    starred.weight p.catalog (starred.read ["*"]) =
      starred.weight p.catalog (starred.read ["\tb, a,b,c,"]) := by
  have hok : (Profile.compile rounding).isOk = true := by decide +kernel
  cases hp : Profile.compile rounding with
  | error e =>
    rw [hp] at hok
    cases hok
  | ok p =>
    have hkind : starred.kind = .fields ⟨none, Roster.empty, true⟩ := rfl
    obtain ⟨hjoined, hspelled⟩ := star_costs_all hp (by decide) hkind
    exact ⟨p, rfl, hjoined, hspelled _ spells_rounding⟩

end SearchGateway.Policy
