import Mathlib.Data.List.Forall2
import SearchGateway.Access.Redaction
import SearchGateway.Proofs.Json.RoundTrip

/-!
# What redaction takes out of a response

A response is a tree.  Redaction takes out the tagged strings among its elements and members, at
any depth, and leaves everything else where it is.  The count it keeps on the way is the number of
those strings, and without any the response is refused.

    IsTagged v                a string with the marker at its start
    Redacted v w              what is left of a value
    redacted_redactValue      by induction on the value
    Redacted.untagged         no tagged string is left, at any depth
    redact_json               the response as a text
-/

namespace SearchGateway.Access

open Json (Value)

/-! ## Algorithm -/

/-- A string that carries the marker in front of a clause. -/
def IsTagged (v : Value) : Prop := ∃ clause, v = .text (tag clause)

theorem isTagged_iff {s : String} : isTagged s = true ↔ ∃ clause, s = tag clause := by
  constructor
  · intro h
    unfold isTagged at h
    obtain ⟨rest, hrest⟩ := Option.isSome_iff_exists.mp h
    refine ⟨String.ofList rest, String.toList_inj.mp ?_⟩
    rw [Text.eq_append_of_after? hrest, tag, String.toList_append, String.toList_ofList]
  · rintro ⟨clause, rfl⟩
    exact isTagged_tag clause

theorem isTaggedValue_iff {v : Value} : isTaggedValue v = true ↔ IsTagged v := by
  cases v with
  | text s =>
    show isTagged s = true ↔ _
    rw [isTagged_iff]
    constructor
    · rintro ⟨clause, rfl⟩
      exact ⟨clause, rfl⟩
    · rintro ⟨clause, h⟩
      cases h
      exact ⟨clause, rfl⟩
  | null | bool | number | array | object =>
    constructor
    · intro h
      cases h
    · rintro ⟨clause, h⟩
      cases h

instance : DecidablePred IsTagged := fun _ => decidable_of_iff _ isTaggedValue_iff

/-- What is left of a value: an array keeps its untagged elements in order, an object its members
with untagged values, in order and under their names, and each is what is left of the one it was. -/
inductive Redacted : Value → Value → Prop
  | null : Redacted .null .null
  | bool {b : Bool} : Redacted (.bool b) (.bool b)
  | number {n : Json.Number} : Redacted (.number n) (.number n)
  | text {s : String} : Redacted (.text s) (.text s)
  | array {items left : List Value}
      (inner : List.Forall₂ Redacted (items.filter (¬ IsTagged ·)) left) :
      Redacted (.array items) (.array left)
  | object {members left : List (String × Value)}
      (names : (members.filter (¬ IsTagged ·.2)).map Prod.fst = left.map Prod.fst)
      (inner : List.Forall₂ Redacted ((members.filter (¬ IsTagged ·.2)).map Prod.snd)
        (left.map Prod.snd)) :
      Redacted (.object members) (.object left)

/-! ## Lemmas -/

theorem parts_of_isTagged {v : Value} (h : IsTagged v) : v.parts = [] := by
  obtain ⟨clause, rfl⟩ := h
  rfl

theorem redactItems_eq (items : List Value) :
    redactItems items =
      ((items.filter (¬ IsTagged ·)).map fun v => (redactValue v).1,
        (items.map fun v => if IsTagged v then 1 else (redactValue v).2).sum) := by
  induction items with
  | nil => rfl
  | cons v r ih =>
    rw [redactItems, List.filter_cons, List.map_cons, List.sum_cons, ih]
    by_cases hv : IsTagged v
    · simp [hv, isTaggedValue_iff.mpr hv]
      omega
    · have hnot : isTaggedValue v ≠ true := fun h => hv (isTaggedValue_iff.mp h)
      simp [hv, hnot]

theorem redactMembers_eq (members : List (String × Value)) :
    redactMembers members =
      ((members.filter (¬ IsTagged ·.2)).map fun m => (m.1, (redactValue m.2).1),
        (members.map fun m => if IsTagged m.2 then 1 else (redactValue m.2).2).sum) := by
  induction members with
  | nil => rfl
  | cons m r ih =>
    obtain ⟨k, v⟩ := m
    rw [redactMembers, List.filter_cons, List.map_cons, List.sum_cons, ih]
    by_cases hv : IsTagged v
    · simp [hv, isTaggedValue_iff.mpr hv]
      omega
    · have hnot : isTaggedValue v ≠ true := fun h => hv (isTaggedValue_iff.mp h)
      simp [hv, hnot]

theorem redactValue_array (items : List Value) :
    redactValue (.array items) = (.array (redactItems items).1, (redactItems items).2) := by
  rw [redactValue]

theorem redactValue_object (members : List (String × Value)) :
    redactValue (.object members) =
      (.object (redactMembers members).1, (redactMembers members).2) := by
  rw [redactValue]

/-- Redaction leaves what is left. -/
theorem redacted_redactValue (v : Value) : Redacted v (redactValue v).1 := by
  induction v using Value.induction with
  | null => exact .null
  | bool b => exact .bool
  | number n => exact .number
  | text s => exact .text
  | array items ih =>
    rw [redactValue_array, redactItems_eq]
    refine .array ?_
    rw [List.forall₂_map_right_iff, List.forall₂_same]
    exact fun v hv => ih v (List.mem_filter.mp hv).1
  | object members ih =>
    rw [redactValue_object, redactMembers_eq]
    refine .object ?_ ?_
    · rw [List.map_map]
      rfl
    · rw [List.map_map, List.forall₂_map_left_iff, List.forall₂_map_right_iff, List.forall₂_same]
      exact fun m hm => ih m (List.mem_filter.mp hm).1

/-- The count is the number of tagged strings among the parts. -/
theorem count_redactValue (v : Value) : (redactValue v).2 = v.parts.countP (IsTagged ·) := by
  -- a tagged string counts itself and has no parts, and all else counts its parts alone
  have hone : ∀ w : Value, (redactValue w).2 = w.parts.countP (IsTagged ·) →
      (if IsTagged w then 1 else (redactValue w).2) = (w :: w.parts).countP (IsTagged ·) := by
    intro w hw
    by_cases h : IsTagged w
    · rw [if_pos h, parts_of_isTagged h]
      simp [h]
    · rw [if_neg h, hw]
      simp [h]
  induction v using Value.induction with
  | null | bool | number | text => rfl
  | array items ih =>
    rw [redactValue_array, redactItems_eq, Json.Value.parts_array, List.countP_flatMap]
    exact congrArg List.sum (List.map_congr_left fun v hv => hone v (ih v hv))
  | object members ih =>
    rw [redactValue_object, redactMembers_eq, Json.Value.parts_object, List.countP_flatMap]
    exact congrArg List.sum (List.map_congr_left fun m hm => hone m.2 (ih m hm))

namespace Redacted

theorem exists_of_mem_right {α β : Type} {R : α → β → Prop} {as : List α} {bs : List β}
    (h : List.Forall₂ R as bs) {b : β} (hb : b ∈ bs) : ∃ a ∈ as, R a b := by
  induction h with
  | nil => cases hb
  | cons hab _ ih =>
    rcases List.mem_cons.mp hb with rfl | hb
    · exact ⟨_, List.mem_cons_self, hab⟩
    · obtain ⟨a, ha, hr⟩ := ih hb
      exact ⟨a, List.mem_cons_of_mem _ ha, hr⟩

theorem isTagged_iff {v w : Value} (h : Redacted v w) : IsTagged w ↔ IsTagged v := by
  cases h with
  | null | bool | number | text => exact Iff.rfl
  | array | object =>
    constructor <;> rintro ⟨clause, h⟩ <;> cases h

/-- An element that is left of an array is left of an untagged one. -/
theorem exists_element {items left : List Value} (h : Redacted (.array items) (.array left))
    {w : Value} (hw : w ∈ left) : ∃ v ∈ items, ¬ IsTagged v ∧ Redacted v w := by
  cases h with
  | array inner =>
    obtain ⟨v, hv, hvw⟩ := exists_of_mem_right inner hw
    obtain ⟨hmem, hnot⟩ := List.mem_filter.mp hv
    exact ⟨v, hmem, of_decide_eq_true hnot, hvw⟩

theorem exists_member {members left : List (String × Value)}
    (h : Redacted (.object members) (.object left)) {m : String × Value} (hm : m ∈ left) :
    ∃ v ∈ members, ¬ IsTagged v.2 ∧ Redacted v.2 m.2 := by
  cases h with
  | object names inner =>
    obtain ⟨v, hv, hvw⟩ := exists_of_mem_right inner (List.mem_map_of_mem hm)
    obtain ⟨m', hm', rfl⟩ := List.mem_map.mp hv
    obtain ⟨hmem, hnot⟩ := List.mem_filter.mp hm'
    exact ⟨m', hmem, of_decide_eq_true hnot, hvw⟩

/-- **No tagged string is left**, at any depth. -/
theorem untagged {v w : Value} (h : Redacted v w) : ∀ u ∈ w.parts, ¬ IsTagged u := by
  induction v using Value.induction generalizing w with
  | null | bool | number | text =>
    cases h
    intro u hu
    cases hu
  | array items ih =>
    cases h with
    | @array _ left inner =>
      intro u hu
      rw [Json.Value.parts_array] at hu
      obtain ⟨w, hw, hu⟩ := List.mem_flatMap.mp hu
      obtain ⟨v, hv, hnot, hvw⟩ := (Redacted.array inner).exists_element hw
      rcases List.mem_cons.mp hu with rfl | hu
      · exact fun htagged => hnot (hvw.isTagged_iff.mp htagged)
      · exact ih v hv hvw u hu
  | object members ih =>
    cases h with
    | @object _ left names inner =>
      intro u hu
      rw [Json.Value.parts_object] at hu
      obtain ⟨m, hm, hu⟩ := List.mem_flatMap.mp hu
      obtain ⟨v, hv, hnot, hvw⟩ := (Redacted.object names inner).exists_member hm
      rcases List.mem_cons.mp hu with rfl | hu
      · exact fun htagged => hnot (hvw.isTagged_iff.mp htagged)
      · exact ih v hv hvw u hu

/-- What is left nests no deeper, and names no member twice. -/
theorem fits {v w : Value} {room : Nat} (h : Redacted v w) (hfits : v.Fits room) :
    w.Fits room := by
  induction v using Value.induction generalizing w room with
  | null | bool | number | text =>
    cases h
    exact hfits
  | array items ih =>
    cases h with
    | @array _ left inner =>
      cases hfits with
      | array hitems =>
        refine .array fun w hw => ?_
        obtain ⟨v, hv, -, hvw⟩ := (Redacted.array inner).exists_element hw
        exact ih v hv hvw (hitems v hv)
  | object members ih =>
    cases h with
    | @object _ left names inner =>
      cases hfits with
      | object distinct hmembers =>
        refine .object ?_ fun m hm => ?_
        · rw [← names]
          exact distinct.sublist (List.filter_sublist.map _)
        · obtain ⟨v, hv, -, hvw⟩ := (Redacted.object names inner).exists_member hm
          exact ih v hv hvw (hmembers v hv)

/-- The numbers that are left stood there before. -/
theorem number_mem {v w : Value} (h : Redacted v w) {n : Json.Number}
    (hn : .number n ∈ w :: w.parts) : .number n ∈ v :: v.parts := by
  induction v using Value.induction generalizing w with
  | null | bool | number | text =>
    cases h
    exact hn
  | array items ih =>
    cases h with
    | @array _ left inner =>
      rw [Json.Value.parts_array] at hn ⊢
      rcases List.mem_cons.mp hn with hn | hn
      · cases hn
      · obtain ⟨w, hw, hn⟩ := List.mem_flatMap.mp hn
        obtain ⟨v, hv, -, hvw⟩ := (Redacted.array inner).exists_element hw
        exact List.mem_cons_of_mem _ (List.mem_flatMap.mpr ⟨v, hv, ih v hv hvw hn⟩)
  | object members ih =>
    cases h with
    | @object _ left names inner =>
      rw [Json.Value.parts_object] at hn ⊢
      rcases List.mem_cons.mp hn with hn | hn
      · cases hn
      · obtain ⟨m, hm, hn⟩ := List.mem_flatMap.mp hn
        obtain ⟨v, hv, -, hvw⟩ := (Redacted.object names inner).exists_member hm
        exact List.mem_cons_of_mem _ (List.mem_flatMap.mpr ⟨v, hv, ih v hv hvw hn⟩)

end Redacted

/-! ### The response as a text -/

theorem redactJson_of_untagged {body : String} {v : Value} (hv : Value.read body = .ok v)
    (h : ∀ w ∈ v.parts, ¬ IsTagged w) : redactJson body = .error .noMarker := by
  have hcount : (redactValue v).2 = 0 := by
    rw [count_redactValue, List.countP_eq_zero]
    exact fun w hw => by simpa using h w hw
  simp only [redactJson, hv]
  rw [← Prod.mk.eta (p := redactValue v), hcount]

theorem redactJson_of_tagged {body : String} {v : Value} (hv : Value.read body = .ok v)
    (h : ∃ w ∈ v.parts, IsTagged w) : redactJson body = .ok (redactValue v).1.print := by
  have hpos : 0 < (redactValue v).2 := by
    rw [count_redactValue, List.countP_pos_iff]
    obtain ⟨w, hw, htagged⟩ := h
    exact ⟨w, hw, by simpa using htagged⟩
  obtain ⟨n, hn⟩ := Nat.exists_eq_add_one_of_ne_zero hpos.ne'
  simp only [redactJson, hv]
  rw [← Prod.mk.eta (p := redactValue v), hn]

theorem exists_redactJson_iff {body : String} {v : Value} (hv : Value.read body = .ok v) :
    (∃ out, redactJson body = .ok out) ↔ ∃ w ∈ v.parts, IsTagged w := by
  constructor
  · rintro ⟨out, hout⟩
    by_contra hnone
    rw [redactJson_of_untagged hv fun w hw htagged => hnone ⟨w, hw, htagged⟩] at hout
    cases hout
  · exact fun h => ⟨_, redactJson_of_tagged hv h⟩

/-! ## Top theorem -/

/-- **Redaction takes out every tagged string and nothing else.**  A body that is not a document
is refused as such.  Of a document, the tagged strings among its elements and members, at any
depth, are counted; without any, and so also when the document is one tagged string, the marker
is missing.  Else what is printed is what is left, in which no tagged string stands; and as far as
its doubles read back it reads back as a whole, and a second redaction finds no marker. -/
theorem redact_json (body : String) :
    match Value.read body with
    | .error e => redact .json body = .error (.notJson e.message)
    | .ok v =>
      (redactValue v).2 = v.parts.countP (IsTagged ·) ∧
      ((∃ out, redact .json body = .ok out) ↔ ∃ w ∈ v.parts, IsTagged w) ∧
      ((∀ w ∈ v.parts, ¬ IsTagged w) → redact .json body = .error .noMarker) ∧
      (IsTagged v → redact .json body = .error .noMarker) ∧
      ∀ out, redact .json body = .ok out →
        ∃ left, Redacted v left ∧ out = left.print ∧ (∀ w ∈ left.parts, ¬ IsTagged w) ∧
          ((∀ x, .number (.float x) ∈ v :: v.parts → Json.ReadsBack x) →
            Value.read out = .ok left ∧ redact .json out = .error .noMarker) := by
  cases hv : Value.read body with
  | error e =>
    show redactJson body = _
    unfold redactJson
    rw [hv]
  | ok v =>
    have hmissing : (∀ w ∈ v.parts, ¬ IsTagged w) → redact .json body = .error .noMarker :=
      redactJson_of_untagged hv
    have hiff : (∃ out, redact .json body = .ok out) ↔ ∃ w ∈ v.parts, IsTagged w :=
      exists_redactJson_iff hv
    refine ⟨count_redactValue v, hiff, hmissing, fun htagged => hmissing fun w hw => ?_,
      fun out hout => ?_⟩
    · rw [parts_of_isTagged htagged] at hw
      cases hw
    · have hleft := redacted_redactValue v
      have heq : out = (redactValue v).1.print := by
        have hprint : redact .json body = .ok (redactValue v).1.print :=
          redactJson_of_tagged hv (hiff.mp ⟨out, hout⟩)
        rw [hprint] at hout
        cases hout
        rfl
      refine ⟨_, hleft, heq, hleft.untagged, fun hdoubles => ?_⟩
      have hread : Value.read out = .ok (redactValue v).1 := by
        rw [heq]
        exact Json.Value.read_print (hleft.fits (Json.Value.fits_of_read hv))
          fun x hx => hdoubles x (hleft.number_mem hx)
      exact ⟨hread, redactJson_of_untagged hread hleft.untagged⟩

/-- A response that repeats a caller's filter beside the gateway's, and a double. -/
def repeatedFilters : Value :=
  .object [("fq", .array [.text "type:book", .text (tag "licence:a")]),
    ("boost", .number (.float 0.5))]

theorem fits_repeatedFilters : repeatedFilters.Fits Json.maxDepth := by
  refine .object (by decide) fun m hm => ?_
  simp only [List.mem_cons, List.not_mem_nil, or_false] at hm
  rcases hm with rfl | rfl
  · refine .array fun v hv => ?_
    simp only [List.mem_cons, List.not_mem_nil, or_false] at hv
    rcases hv with rfl | rfl <;> exact .text
  · exact .float

theorem parts_repeatedFilters :
    repeatedFilters.parts = [.array [.text "type:book", .text (tag "licence:a")],
      .text "type:book", .text (tag "licence:a"), .number (.float 0.5)] := rfl

theorem redact_json_repeatedFilters :
    ∃ out, redact .json repeatedFilters.print = .ok out ∧ redact .json out = .error .noMarker := by
  have hdoubles : ∀ x, .number (.float x) ∈ repeatedFilters :: repeatedFilters.parts →
      Json.ReadsBack x := by
    intro x hx
    rw [parts_repeatedFilters] at hx
    have heq : x = 0.5 := by simpa [repeatedFilters] using hx
    rw [heq]
    unfold Json.ReadsBack
    rfl
  have hread : Value.read repeatedFilters.print = .ok repeatedFilters :=
    Json.Value.read_print fits_repeatedFilters hdoubles
  -- the text itself does not matter any more
  generalize repeatedFilters.print = body at hread ⊢
  have h := redact_json body
  rw [hread] at h
  obtain ⟨-, hiff, -, -, hout⟩ := h
  have hmem : Value.text (tag "licence:a") ∈ repeatedFilters.parts := by
    rw [parts_repeatedFilters]
    simp
  obtain ⟨out, hok⟩ := hiff.mpr ⟨_, hmem, _, rfl⟩
  obtain ⟨left, -, -, -, hround⟩ := hout out hok
  exact ⟨out, hok, (hround hdoubles).2⟩

end SearchGateway.Access
