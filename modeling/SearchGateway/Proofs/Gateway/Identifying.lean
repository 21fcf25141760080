import Mathlib.Data.List.Forall2
import Mathlib.Data.String.Basic
import SearchGateway.Gateway.Identity
import SearchGateway.Proofs.Text.Pieces
import SearchGateway.Proofs.Text.Trimming

/-!
# Whom the headers name

Of a caller there is known the user, as its header has it, the groups between the commas of
theirs, and of the addresses the first.  Blanks around any of these are no part of it, and a
user or a group of blanks alone is none.  With addresses that is not so.  The header has to have
something else than blanks in it, but that may be a comma: where only blanks stand before the
first one, the caller has an address, and it is empty.

    HasEntries headers name entries   what stands between the commas of a header
    Identifies s headers c            all that headers say of a caller
    map_trimChars_pieces              blanks around a list are blanks around its entries
    callerOf_identifies               the caller is the one of whom headers say that
-/

namespace SearchGateway.Gateway

open Text (Divides Trims pieces trimChars)

/-! ## Callers -/

/-- Not empty, and without a blank at either end. -/
structure IsBare (s : String) : Prop where
  nonempty : s ≠ ""
  first : ∀ c ∈ s.toList.head?, Text.isBlank c = false
  last : ∀ c ∈ s.toList.getLast?, Text.isBlank c = false

/-- Blanks alone, or nothing. -/
def AllBlank (cs : List Char) : Prop := ∀ c ∈ cs, Text.isBlank c = true

instance (cs : List Char) : Decidable (AllBlank cs) :=
  List.decidableBAll (fun c => Text.isBlank c = true) cs

/-- What stands between the commas of a header.  One that is not there has no entries, and one
that cannot be read neither. -/
def HasEntries (headers : List Header) (name : String) (entries : List (List Char)) : Prop :=
  match headerValue? headers name with
  | none => entries = []
  | some value => Divides ',' value.toList entries

/-- What headers say of a caller. -/
structure Identifies (s : Config.Server) (headers : List Header) (c : Access.Caller) : Prop where
  user : ∀ u, c.user = some u ↔
    ∃ value, headerValue? headers s.userHeader = some value ∧ Trims value.toList u.toList ∧ u ≠ ""
  groups : ∃ entries, HasEntries headers s.groupsHeader entries ∧
    List.Forall₂ (fun e g => Trims e g.toList) (entries.filter (¬ AllBlank ·)) c.groups
  address : ∀ a, c.address = some a ↔
    ∃ e r, HasEntries headers forwardedHeader (e :: r) ∧ Trims e a.toList ∧
      (¬ AllBlank e ∨ r ≠ [])

/-! ## Lemmas -/

/-! ### Lists between commas -/

theorem ne_comma_of_isBlank {c : Char} (h : Text.isBlank c = true) : (c == ',') = false := by
  refine Bool.eq_false_iff.mpr fun hc => ?_
  rw [beq_iff_eq.mp hc] at h
  exact absurd h (by decide)

theorem map_trimChars_pieces_append_left {before : List Char} (h : AllBlank before)
    (cs : List Char) :
    (pieces (· == ',') (before ++ cs)).map trimChars = (pieces (· == ',') cs).map trimChars := by
  have hnone : ∀ {p : List Char}, (∀ c ∈ p, (c == ',') = false) →
      ∀ c ∈ before ++ p, (c == ',') = false := fun hp c hc =>
    (List.mem_append.mp hc).elim (fun hc => ne_comma_of_isBlank (h c hc)) (hp c)
  rcases Text.pieces_cases (· == ',') cs with ⟨hcs, hpieces⟩ | ⟨p, s, r, rfl, hp, hs, hpieces⟩
  · rw [Text.pieces_of_none (hnone hcs), hpieces, List.map_singleton, List.map_singleton,
      Text.trimChars_append_left h]
  · rw [← List.append_assoc, Text.pieces_append_cons (hnone hp) hs, hpieces, List.map_cons,
      List.map_cons, Text.trimChars_append_left h]

theorem map_trimChars_pieces_append_right {after : List Char} (h : AllBlank after)
    (cs : List Char) :
    (pieces (· == ',') (cs ++ after)).map trimChars = (pieces (· == ',') cs).map trimChars := by
  induction hn : cs.length using Nat.strongRecOn generalizing cs with
  | _ n ih =>
    rcases Text.pieces_cases (· == ',') cs with ⟨hcs, hpieces⟩ | ⟨p, s, r, rfl, hp, hs, hpieces⟩
    · have hnone : ∀ c ∈ cs ++ after, (c == ',') = false := fun c hc =>
        (List.mem_append.mp hc).elim (hcs c) fun hc => ne_comma_of_isBlank (h c hc)
      rw [Text.pieces_of_none hnone, hpieces, List.map_singleton, List.map_singleton,
        Text.trimChars_append_right h]
    · have hlength : r.length < n := by
        rw [← hn, List.length_append, List.length_cons]
        omega
      rw [List.append_assoc, List.cons_append, Text.pieces_append_cons hp hs, hpieces,
        List.map_cons, List.map_cons, ih r.length hlength r rfl]

/-- Blanks around a list stand around its first entry and its last. -/
theorem map_trimChars_pieces (cs : List Char) :
    (pieces (· == ',') (trimChars cs)).map trimChars = (pieces (· == ',') cs).map trimChars := by
  obtain ⟨before, after, heq, hbefore, hafter⟩ := (Text.trims_trimChars cs).parts
  conv_rhs => rw [heq]
  rw [map_trimChars_pieces_append_left hbefore, map_trimChars_pieces_append_right hafter]

theorem allBlank_iff {cs e : List Char} {r : List (List Char)}
    (h : pieces (· == ',') cs = e :: r) : AllBlank cs ↔ AllBlank e ∧ r = [] := by
  rcases Text.pieces_cases (· == ',') cs with ⟨-, hpieces⟩ | ⟨p, s, q, rfl, -, hs, hpieces⟩
  · obtain ⟨rfl, rfl⟩ := List.cons.inj (hpieces.symm.trans h)
    exact (and_iff_left rfl).symm
  · obtain ⟨-, rfl⟩ := List.cons.inj (hpieces.symm.trans h)
    constructor
    · intro hall
      rw [ne_comma_of_isBlank (hall s (by simp))] at hs
      cases hs
    · exact fun hand => absurd hand.2 (Text.pieces_ne_nil _ q)

/-! ### What is read from a header -/

theorem hasEntries_iff {headers : List Header} {name : String} {entries : List (List Char)} :
    HasEntries headers name entries ↔
      ((headerValue? headers name).map fun v => pieces (· == ',') v.toList).getD [] = entries := by
  unfold HasEntries
  cases headerValue? headers name with
  | none => exact eq_comm
  | some v => exact Text.divides_iff

theorem HasEntries.unique {headers : List Header} {name : String} {es es' : List (List Char)}
    (h : HasEntries headers name es) (h' : HasEntries headers name es') : es = es' :=
  (hasEntries_iff.mp h).symm.trans (hasEntries_iff.mp h')

theorem trimmedValue?_eq_some_iff {headers : List Header} {name : String} {t : List Char} :
    trimmedValue? headers name = some t ↔
      ∃ value, headerValue? headers name = some value ∧ Trims value.toList t ∧ t ≠ [] := by
  unfold trimmedValue?
  simp only [Option.filter_eq_some_iff, Option.map_eq_some_iff, Text.trimChars_eq_iff,
    decide_eq_true_eq]
  constructor
  · rintro ⟨⟨v, hv, ht⟩, hne⟩
    exact ⟨v, hv, ht, hne⟩
  · rintro ⟨v, hv, ht, hne⟩
    exact ⟨⟨v, hv, ht⟩, hne⟩

/-- The groups of a list are its entries without blanks around them, but not the blank ones. -/
theorem groupsOf_eq (cs : List Char) : groupsOf cs =
    ((pieces (· == ',') cs).filter (¬ AllBlank ·)).map fun e => String.ofList (trimChars e) := by
  have hblank : (fun e => decide (e ≠ [])) ∘ trimChars = fun e => decide (¬ AllBlank e) := by
    funext e
    exact decide_eq_decide.mpr (not_congr Text.trimChars_eq_nil_iff)
  unfold groupsOf
  rw [List.filter_map, hblank, List.map_map]
  rfl

theorem groups_callerOf (s : Config.Server) (headers : List Header) : (callerOf s headers).groups =
    ((headerValue? headers s.groupsHeader).map fun v => groupsOf v.toList).getD [] := by
  unfold callerOf trimmedValue?
  cases headerValue? headers s.groupsHeader with
  | none => rfl
  | some v =>
    have htrim : groupsOf (trimChars v.toList) = groupsOf v.toList := by
      unfold groupsOf
      rw [map_trimChars_pieces]
    by_cases hv : trimChars v.toList = []
    · -- a header of blanks is dropped as a whole, and has no groups
      rw [hv] at htrim
      rw [Option.map_some, Option.filter_some_neg (by simpa using hv)]
      exact htrim
    · rw [Option.map_some, Option.filter_some_pos (by simpa using hv)]
      exact htrim

/-- What is read as the first address is the first entry without the blanks around it. -/
theorem addressOf_trimChars {cs e : List Char} {r : List (List Char)}
    (h : pieces (· == ',') cs = e :: r) :
    addressOf (trimChars cs) = String.ofList (trimChars e) := by
  have hwhile : (fun c => decide (c ≠ ',')) = fun c => !(c == ',') := by
    funext c
    exact decide_not
  have hhead := congrArg List.head? (map_trimChars_pieces cs)
  rw [List.head?_map, Text.head?_pieces, h] at hhead
  unfold addressOf
  rw [hwhile]
  exact congrArg String.ofList (Option.some.inj hhead)

/-! ### Callers -/

theorem trims_ofList_iff {e : List Char} {a : String} :
    String.ofList (trimChars e) = a ↔ Trims e a.toList := by
  rw [String.ofList_eq, Text.trimChars_eq_iff]

theorem address_callerOf_iff {s : Config.Server} {headers : List Header} {a : String} :
    (callerOf s headers).address = some a ↔
      ∃ e r, HasEntries headers forwardedHeader (e :: r) ∧ Trims e a.toList ∧
        (¬ AllBlank e ∨ r ≠ []) := by
  unfold callerOf
  simp only [Option.map_eq_some_iff, trimmedValue?_eq_some_iff]
  unfold HasEntries
  cases headerValue? headers forwardedHeader with
  | none => simp
  | some v =>
    obtain ⟨e, r, hpieces⟩ := List.exists_cons_of_ne_nil (Text.pieces_ne_nil (· == ',') v.toList)
    have hblank : trimChars v.toList ≠ [] ↔ ¬ AllBlank e ∨ r ≠ [] := by
      rw [Ne, Text.trimChars_eq_nil_iff, ← not_and_or]
      exact not_congr (allBlank_iff hpieces)
    constructor
    · rintro ⟨t, ⟨v', hv, htrims, hne⟩, rfl⟩
      obtain rfl : v = v' := Option.some.inj hv
      obtain rfl := Text.trimChars_eq_iff.mpr htrims
      refine ⟨e, r, Text.divides_iff.mpr hpieces, trims_ofList_iff.mp ?_, hblank.mp hne⟩
      exact (addressOf_trimChars hpieces).symm
    · rintro ⟨e', r', hdivides, htrims, hor⟩
      obtain ⟨rfl, rfl⟩ := List.cons.inj (hpieces.symm.trans (Text.divides_iff.mp hdivides))
      refine ⟨trimChars v.toList, ⟨v, rfl, Text.trims_trimChars _, hblank.mpr hor⟩, ?_⟩
      rw [addressOf_trimChars hpieces, trims_ofList_iff.mpr htrims]

theorem identifies_callerOf (s : Config.Server) (headers : List Header) :
    Identifies s headers (callerOf s headers) where
  user u := by
    unfold callerOf
    simp only [Option.map_eq_some_iff, trimmedValue?_eq_some_iff, String.ofList_eq]
    constructor
    · rintro ⟨t, ⟨v, hv, htrims, hne⟩, rfl⟩
      exact ⟨v, hv, htrims, fun hu => hne (String.toList_eq_nil_iff.mpr hu)⟩
    · rintro ⟨v, hv, htrims, hne⟩
      exact ⟨u.toList, ⟨v, hv, htrims, fun hu => hne (String.toList_eq_nil_iff.mp hu)⟩, rfl⟩
  groups := by
    refine ⟨_, hasEntries_iff.mpr rfl, ?_⟩
    rw [groups_callerOf]
    cases headerValue? headers s.groupsHeader with
    | none => exact .nil
    | some v =>
      rw [Option.map_some, Option.getD_some, Option.map_some, Option.getD_some, groupsOf_eq,
        List.forall₂_map_right_iff, List.forall₂_same]
      exact fun e _ => trims_ofList_iff.mp rfl
  address _ := address_callerOf_iff

/-- Headers say all of one caller. -/
theorem Identifies.unique {s : Config.Server} {headers : List Header} {c c' : Access.Caller}
    (h : Identifies s headers c) (h' : Identifies s headers c') : c = c' := by
  obtain ⟨user, groups, address⟩ := c
  obtain ⟨user', groups', address'⟩ := c'
  obtain rfl : user = user' := Option.ext fun u => (h.user u).trans (h'.user u).symm
  obtain rfl : address = address' := Option.ext fun a => (h.address a).trans (h'.address a).symm
  obtain ⟨entries, hentries, hgroups⟩ := h.groups
  obtain ⟨entries', hentries', hgroups'⟩ := h'.groups
  obtain rfl : entries = entries' := hentries.unique hentries'
  have hone : Relator.RightUnique fun (e : List Char) (g : String) => Trims e g.toList :=
    fun e g g' hg hg' => (trims_ofList_iff.mpr hg).symm.trans (trims_ofList_iff.mpr hg')
  obtain rfl : groups = groups' := hone.forall₂ hgroups hgroups'
  rfl

theorem trims_empty_iff {e : List Char} : Trims e "".toList ↔ AllBlank e := by
  rw [← Text.trimChars_eq_iff]
  exact Text.trimChars_eq_nil_iff

theorem isBare_of_trims {e : List Char} {g : String} (h : Trims e g.toList) (hg : g ≠ "") :
    IsBare g :=
  ⟨hg, h.first, h.last⟩

theorem isBare_of_not_allBlank {e : List Char} {g : String} (he : ¬ AllBlank e)
    (h : Trims e g.toList) : IsBare g := by
  refine isBare_of_trims h fun hg => ?_
  subst hg
  exact he (trims_empty_iff.mp h)

theorem Identifies.isBare_of_mem_groups {s : Config.Server} {headers : List Header}
    {c : Access.Caller} (h : Identifies s headers c) : ∀ g ∈ c.groups, IsBare g := by
  obtain ⟨entries, -, hgroups⟩ := h.groups
  have hfilter : ∀ e ∈ entries.filter (¬ AllBlank ·), ¬ AllBlank e :=
    fun e he => of_decide_eq_true (List.mem_filter.mp he).2
  have hbare : List.Forall₂ (fun g e => IsBare g ∧ Trims e g.toList) c.groups
      (entries.filter (¬ AllBlank ·)) :=
    (((List.forall₂_and_left _ _).mpr ⟨hfilter, hgroups⟩).imp fun e g hand =>
      ⟨isBare_of_not_allBlank hand.1 hand.2, hand.2⟩).flip
  exact ((List.forall₂_and_left _ _).mp hbare).1

/-! ## Top theorem -/

/-- **Headers name one caller.**  The user and the groups are never blank and have no blanks
around them, and no entry between the commas is lost or joined to another.  The address is the
first entry without the blanks around it.  It is missing where the whole header is blank, and
empty where a blank entry is followed by another. -/
theorem callerOf_identifies (s : Config.Server) (headers : List Header) :
    (∀ c, callerOf s headers = c ↔ Identifies s headers c) ∧
      (∀ u ∈ (callerOf s headers).user, IsBare u) ∧
      (∀ g ∈ (callerOf s headers).groups, IsBare g) ∧
      (∀ a ∈ (callerOf s headers).address, IsBare a ∨ a = "") ∧
      ((callerOf s headers).address = some "" ↔
        ∃ e r, HasEntries headers forwardedHeader (e :: r) ∧ AllBlank e ∧ r ≠ []) := by
  have hid := identifies_callerOf s headers
  refine ⟨fun c => ⟨fun h => h ▸ hid, hid.unique⟩, fun u hu => ?_,
    hid.isBare_of_mem_groups, fun a ha => ?_, ?_⟩
  · obtain ⟨v, -, htrims, hne⟩ := (hid.user u).mp hu
    exact isBare_of_trims htrims hne
  · obtain ⟨e, r, -, htrims, -⟩ := (hid.address a).mp ha
    exact or_iff_not_imp_right.mpr (isBare_of_trims htrims)
  · rw [hid.address]
    constructor
    · rintro ⟨e, r, hentries, htrims, hor⟩
      have hblank := trims_empty_iff.mp htrims
      exact ⟨e, r, hentries, hblank, hor.resolve_left fun hnot => hnot hblank⟩
    · rintro ⟨e, r, hentries, hblank, hr⟩
      exact ⟨e, r, hentries, trims_empty_iff.mpr hblank, .inr hr⟩

/-- An address can be blank: before the first comma there is nothing, and behind it an entry. -/
theorem not_forall_address_bare : ¬ ∀ (s : Config.Server) (headers : List Header),
    ∀ a ∈ (callerOf s headers).address, IsBare a := by
  intro h
  have hempty : "" ∈ (callerOf .default [⟨"x-forwarded-for", ", b"⟩]).address := by decide
  exact (h _ _ "" hempty).nonempty rfl

end SearchGateway.Gateway
