import SearchGateway.Number.Reading

/-!
# Doubles that are not below zero

Sums and products of doubles that are not below zero are not below zero either, and it can be
told exactly when they are not a number: a sum if one of its parts is, a product also where
zero meets infinity.

    not_lt_iff           what a failed comparison says
    isNaN_add, isNaN_mul
    notBelow_add, notBelow_mul

The sign is read off the unpacked form.  Packing rounds what does not fit, and may so turn a
finite number into zero or infinity, but it keeps signs and makes nothing not a number.
-/

namespace SearchGateway.Number

open Float.Model (UnpackedFloat Format)
open Float.Model.UnpackedFloat (Sign packComponents unpackSign unpackExponent unpackMantissa)

/-! ## Unpacked numbers -/

/-- Whether an unpacked number is below zero. -/
def isBelow : UnpackedFloat → Bool
  | .infinity .negative => true
  | .finite .negative .. => true
  | _ => false

/-- Whether it is zero, with either sign. -/
def isZero : UnpackedFloat → Bool
  | .zero _ => true
  | _ => false

/-! ### Packing -/

theorem unpackSign_packComponents {spec : Format} (s : Sign) (e : BitVec spec.exponentBits)
    (m : BitVec spec.mantissaBitsWithoutImplicit) :
    unpackSign (packComponents spec s e m) = s.toBitVec := by
  apply BitVec.eq_of_getLsbD_eq
  intro i hi
  obtain rfl : i = 0 := by omega
  delta unpackSign packComponents
  simp [BitVec.getLsbD_append, BitVec.getElem_append]

theorem ofBitVec_toBitVec (s : Sign) : Sign.ofBitVec s.toBitVec = s := by
  cases s <;> rfl

/-- With an exponent of all ones there is infinity, or what is not a number. -/
theorem unpack_of_ones {spec : Format} {b : BitVec spec.numBits} (he : unpackExponent b = -1#_) :
    UnpackedFloat.unpack spec b =
      if unpackMantissa b = 0#_ then .infinity (Sign.ofBitVec (unpackSign b))
      else .notANumber := by
  unfold UnpackedFloat.unpack
  exact if_pos he

/-- With any other exponent there is a number. -/
theorem unpack_of_not_ones {spec : Format} {b : BitVec spec.numBits}
    (he : unpackExponent b ≠ -1#_) :
    UnpackedFloat.unpack spec b = .zero (Sign.ofBitVec (unpackSign b)) ∨
      ∃ n x h, UnpackedFloat.unpack spec b = .finite (Sign.ofBitVec (unpackSign b)) n x h := by
  unfold UnpackedFloat.unpack
  by_cases hz : unpackExponent b = 0#_
  · by_cases hm : unpackMantissa b = 0#_
    · exact .inl ((if_neg he).trans ((if_pos hz).trans (dif_pos hm)))
    · have hpos : 0 < (unpackMantissa b).toNat := by
        simpa [BitVec.toNat_pos, BitVec.pos_iff_ne_zero] using hm
      exact .inr ⟨_, _, hpos, (if_neg he).trans ((if_pos hz).trans (dif_neg hm))⟩
  · have hpos : 0 < (1#1 ++ unpackMantissa b).toNat := by simp
    exact .inr ⟨_, _, hpos, (if_neg he).trans (if_neg hz)⟩

/-- What is packed with such an exponent is a number of the sign that it is packed with. -/
theorem unpack_packComponents {spec : Format} (s : Sign) {e : BitVec spec.exponentBits}
    (m : BitVec spec.mantissaBitsWithoutImplicit) (he : e ≠ -1#_) :
    UnpackedFloat.unpack spec (packComponents spec s e m) = .zero s ∨
      ∃ n x h, UnpackedFloat.unpack spec (packComponents spec s e m) = .finite s n x h := by
  have h := unpack_of_not_ones (b := packComponents spec s e m)
    (by rw [UnpackedFloat.unpackExponent_packComponents]; exact he)
  rw [unpackSign_packComponents, ofBitVec_toBitVec] at h
  exact h

theorem zero_ne_ones (spec : Format) : (0 : BitVec spec.exponentBits) ≠ -1#_ := by
  intro h
  have hn := congrArg BitVec.toNat h
  rw [BitVec.neg_one_eq_allOnes, BitVec.toNat_allOnes] at hn
  have hz : (0 : BitVec spec.exponentBits).toNat = 0 := BitVec.toNat_zero
  have hp := Nat.one_lt_two_pow (Nat.ne_of_gt spec.he)
  omega

/-- A number is packed as infinity, or with an exponent that is not all ones. -/
theorem pack_finite (spec : Format) (s : Sign) (m : Nat) (e : Int) (h : 0 < m) :
    UnpackedFloat.pack spec (.finite s m e h) = UnpackedFloat.packedInfinity spec s ∨
      ∃ x n, x ≠ -1#_ ∧ UnpackedFloat.pack spec (.finite s m e h) = packComponents spec s x n := by
  unfold UnpackedFloat.pack
  by_cases hbig : 2 ^ spec.exponentBits ≤
      (e + spec.exponentBias + spec.mantissaBitsWithoutImplicit).toNat + 1
  · exact .inl (if_pos hbig)
  · by_cases hm : m.log2 + 1 = spec.mantissaBits
    · refine .inr ⟨_, _, ?_, (if_neg hbig).trans (if_pos hm)⟩
      intro he
      have hn := congrArg BitVec.toNat he
      rw [BitVec.neg_one_eq_allOnes, BitVec.toNat_allOnes, BitVec.toNat_ofNat,
        Nat.mod_eq_of_lt (by omega)] at hn
      omega
    · exact .inr ⟨_, _, zero_ne_ones spec, (if_neg hbig).trans (if_neg hm)⟩

theorem unpack_packedInfinity (spec : Format) (s : Sign) :
    UnpackedFloat.unpack spec (UnpackedFloat.packedInfinity spec s) = .infinity s := by
  have he : unpackExponent (UnpackedFloat.packedInfinity spec s) = -1#_ :=
    UnpackedFloat.unpackExponent_packComponents
  have hm : unpackMantissa (UnpackedFloat.packedInfinity spec s) = 0#_ :=
    UnpackedFloat.unpackMantissa_packComponents
  have hs : unpackSign (UnpackedFloat.packedInfinity spec s) = s.toBitVec :=
    unpackSign_packComponents s _ _
  rw [unpack_of_ones he, if_pos hm, hs, ofBitVec_toBitVec]

/-- Packing keeps the sign of a number, though not its size. -/
theorem unpack_pack_finite (spec : Format) (s : Sign) (m : Nat) (e : Int) (h : 0 < m) :
    let u := UnpackedFloat.unpack spec (UnpackedFloat.pack spec (.finite s m e h))
    u = .infinity s ∨ u = .zero s ∨ ∃ n x hn, u = .finite s n x hn := by
  intro u
  rcases pack_finite spec s m e h with hp | ⟨x, n, hx, hp⟩
  · left
    exact (congrArg (UnpackedFloat.unpack spec) hp).trans (unpack_packedInfinity spec s)
  · right
    have hu : u = UnpackedFloat.unpack spec (packComponents spec s x n) :=
      congrArg (UnpackedFloat.unpack spec) hp
    rw [hu]
    exact unpack_packComponents s n hx

/-- A double as it was before it was packed, as far as that can still be told. -/
abbrev repacked (u : UnpackedFloat) : UnpackedFloat :=
  UnpackedFloat.unpack Format.binary64 (UnpackedFloat.pack Format.binary64 u)

/-- Packing neither makes nor unmakes what is not a number. -/
theorem isNaN_repacked (u : UnpackedFloat) : (repacked u).isNaN = u.isNaN := by
  cases u with
  | notANumber => rfl
  | infinity s => cases s <;> rfl
  | zero s => cases s <;> rfl
  | finite s m e h =>
    rcases unpack_pack_finite Format.binary64 s m e h with hu | hu | ⟨n, x, hn, hu⟩
    · rw [repacked, hu]
      rfl
    · rw [repacked, hu]
      rfl
    · rw [repacked, hu]
      rfl

/-- Packing puts nothing below zero. -/
theorem isBelow_repacked {u : UnpackedFloat} (hu : isBelow u = false) :
    isBelow (repacked u) = false := by
  cases u with
  | notANumber => rfl
  | infinity s =>
    cases s with
    | negative => cases hu
    | positive => rfl
  | zero s => cases s <;> rfl
  | finite s m e h =>
    cases s with
    | negative => cases hu
    | positive =>
      rcases unpack_pack_finite Format.binary64 .positive m e h with
        hu | hu | ⟨n, x, hn, hu⟩
      · rw [repacked, hu]
        rfl
      · rw [repacked, hu]
        rfl
      · rw [repacked, hu]
        rfl

/-! ### Rounding -/

/-- What is rounded is left with its sign. -/
theorem roundWithAccuracy_cases (spec : Format) (s : Sign) (m : Nat) (e : Int)
    (a : UnpackedFloat.Accuracy) :
    UnpackedFloat.roundWithAccuracy spec s m e a = .zero s ∨
      ∃ n x h, UnpackedFloat.roundWithAccuracy spec s m e a = .finite s n x h := by
  -- the mantissa and the exponent that rounding leaves
  have hleft : ∀ (n : Nat) (x : Int) (u : UnpackedFloat),
      u = (if h : n = 0 then .zero s else .finite s n x (Nat.pos_of_ne_zero h)) →
      u = .zero s ∨ ∃ n x h, u = .finite s n x h := by
    rintro n x u rfl
    by_cases hn : n = 0
    · exact .inl (dif_pos hn)
    · exact .inr ⟨n, x, Nat.pos_of_ne_zero hn, dif_neg hn⟩
  exact hleft _ _ _ rfl

/-- Rounding a positive number does not put it below zero, nor make it anything but a number. -/
theorem roundWithAccuracy_positive (spec : Format) (m : Nat) (e : Int)
    (a : UnpackedFloat.Accuracy) :
    isBelow (UnpackedFloat.roundWithAccuracy spec .positive m e a) = false ∧
      (UnpackedFloat.roundWithAccuracy spec .positive m e a).isNaN = false := by
  rcases roundWithAccuracy_cases spec .positive m e a with hr | ⟨n, x, h, hr⟩
  · rw [hr]
    exact ⟨rfl, rfl⟩
  · rw [hr]
    exact ⟨rfl, rfl⟩

theorem normalize_nonneg (spec : Format) {m : Int} (hm : 0 ≤ m) (e : Int) :
    isBelow (UnpackedFloat.normalize spec m e .positive) = false ∧
      (UnpackedFloat.normalize spec m e .positive).isNaN = false := by
  unfold UnpackedFloat.normalize
  split
  · next h =>
    rw [Int.compare_eq_lt] at h
    omega
  · exact ⟨rfl, rfl⟩
  · exact roundWithAccuracy_positive spec _ _ _

/-! ### Sums and products -/

theorem cases_of_not_below {u : UnpackedFloat} (hu : isBelow u = false) :
    u = .notANumber ∨ u = .infinity .positive ∨ (∃ s, u = .zero s) ∨
      ∃ m e h, u = .finite .positive m e h := by
  cases u with
  | notANumber => exact .inl rfl
  | infinity s =>
    cases s with
    | negative => cases hu
    | positive => exact .inr (.inl rfl)
  | zero s => exact .inr (.inr (.inl ⟨s, rfl⟩))
  | finite s m e h =>
    cases s with
    | negative => cases hu
    | positive => exact .inr (.inr (.inr ⟨m, e, h, rfl⟩))

/-- A sum is not a number only if a part is not, and is not below zero. -/
theorem add_of_not_below (spec : Format) {u v : UnpackedFloat} (hu : isBelow u = false)
    (hv : isBelow v = false) :
    isBelow (UnpackedFloat.add spec u v) = false ∧
      (UnpackedFloat.add spec u v).isNaN = (u.isNaN || v.isNaN) := by
  rcases cases_of_not_below hu with rfl | rfl | ⟨s, rfl⟩ | ⟨m, e, h, rfl⟩
  · exact ⟨rfl, rfl⟩
  · rcases cases_of_not_below hv with rfl | rfl | ⟨s', rfl⟩ | ⟨m', e', h', rfl⟩
    all_goals exact ⟨rfl, rfl⟩
  · rcases cases_of_not_below hv with rfl | rfl | ⟨s', rfl⟩ | ⟨m', e', h', rfl⟩
    · exact ⟨rfl, rfl⟩
    · exact ⟨rfl, rfl⟩
    · cases s <;> cases s' <;> exact ⟨rfl, rfl⟩
    · exact ⟨rfl, rfl⟩
  · rcases cases_of_not_below hv with rfl | rfl | ⟨s', rfl⟩ | ⟨m', e', h', rfl⟩
    · exact ⟨rfl, rfl⟩
    · exact ⟨rfl, rfl⟩
    · exact ⟨rfl, rfl⟩
    · exact normalize_nonneg spec (Int.add_nonneg (Int.natCast_nonneg _) (Int.natCast_nonneg _)) _

/-- A product is not a number only if a factor is not, or where zero meets infinity. -/
theorem mul_of_not_below (spec : Format) {u v : UnpackedFloat} (hu : isBelow u = false)
    (hv : isBelow v = false) :
    isBelow (UnpackedFloat.mul spec u v) = false ∧
      (UnpackedFloat.mul spec u v).isNaN =
        (u.isNaN || v.isNaN || isZero u && v.isInf || u.isInf && isZero v) := by
  rcases cases_of_not_below hu with rfl | rfl | ⟨s, rfl⟩ | ⟨m, e, h, rfl⟩
  · exact ⟨rfl, rfl⟩
  · rcases cases_of_not_below hv with rfl | rfl | ⟨s', rfl⟩ | ⟨m', e', h', rfl⟩
    all_goals exact ⟨rfl, rfl⟩
  · rcases cases_of_not_below hv with rfl | rfl | ⟨s', rfl⟩ | ⟨m', e', h', rfl⟩
    all_goals exact ⟨rfl, rfl⟩
  · rcases cases_of_not_below hv with rfl | rfl | ⟨s', rfl⟩ | ⟨m', e', h', rfl⟩
    · exact ⟨rfl, rfl⟩
    · exact ⟨rfl, rfl⟩
    · exact ⟨rfl, rfl⟩
    · exact roundWithAccuracy_positive spec _ _ _

/-! ### Comparing -/

/-- Numbers of one sign compare by exponent first, either way round. -/
theorem swap_compare_then (e e' : Int) (m m' : Nat) :
    ((compare e e').then (compare m m')).swap = (compare e' e).then (compare m' m) := by
  rw [Ordering.swap_then, Int.compare_swap, Nat.compare_swap]

theorem compare_symm (u v : UnpackedFloat) : v.compare u = (u.compare v).map Ordering.swap := by
  rcases u with ⟨_ | _⟩ | _ | ⟨_⟩ | ⟨_ | _, m, e, h⟩
  case finite.negative =>
    rcases v with ⟨_ | _⟩ | _ | ⟨_⟩ | ⟨_ | _, m', e', h'⟩
    case finite.negative =>
      exact congrArg (fun o => some o.swap) (swap_compare_then e e' m m').symm
    all_goals rfl
  case finite.positive =>
    rcases v with ⟨_ | _⟩ | _ | ⟨_⟩ | ⟨_ | _, m', e', h'⟩
    case finite.positive => exact congrArg some (swap_compare_then e e' m m').symm
    all_goals rfl
  all_goals rcases v with ⟨_ | _⟩ | _ | ⟨_⟩ | ⟨_ | _, m', e', h'⟩ <;> rfl

/-- Only what is not a number cannot be compared. -/
theorem compare_eq_none_iff (u v : UnpackedFloat) :
    u.compare v = none ↔ u.isNaN = true ∨ v.isNaN = true := by
  constructor
  · intro hc
    rcases u with ⟨_ | _⟩ | _ | ⟨_⟩ | ⟨_ | _, m, e, h⟩
    case notANumber => exact .inl rfl
    all_goals
      rcases v with ⟨_ | _⟩ | _ | ⟨_⟩ | ⟨_ | _, m', e', h'⟩
      case notANumber => exact .inr rfl
      all_goals cases hc
  · rintro (hu | hv)
    · cases u <;> first | rfl | cases hu
    · cases v with
      | notANumber => rcases u with ⟨_ | _⟩ | _ | ⟨_⟩ | ⟨_ | _, m, e, h⟩ <;> rfl
      | _ => cases hv

/-- What is not below another number is not above it, unless one of them is not a number. -/
theorem lt_eq_false_iff (u v : UnpackedFloat) :
    v.lt u = false ↔ u.le v = true ∨ u.isNaN = true ∨ v.isNaN = true := by
  unfold UnpackedFloat.lt UnpackedFloat.le
  rw [compare_symm, ← compare_eq_none_iff]
  cases u.compare v with
  | none => exact ⟨fun _ => .inr rfl, fun _ => rfl⟩
  | some o => cases o <;> decide

theorem compare_zero (u : UnpackedFloat) : u.lt (.zero .positive) = isBelow u := by
  rcases u with ⟨_ | _⟩ | _ | ⟨_⟩ | ⟨_ | _, m, e, h⟩ <;> rfl

theorem beq_zero (u : UnpackedFloat) : u.beq (.zero .positive) = isZero u := by
  rcases u with ⟨_ | _⟩ | _ | ⟨_⟩ | ⟨_ | _, m, e, h⟩ <;> rfl

/-! ## Doubles -/

theorem lt_iff (a b : Float) : a < b ↔ a.toModel.unpack.lt b.toModel.unpack = true := by
  show decide (a.toModel.unpack.lt b.toModel.unpack = true) = true ↔ _
  exact decide_eq_true_iff

theorem le_iff (a b : Float) : a ≤ b ↔ a.toModel.unpack.le b.toModel.unpack = true := by
  show decide (a.toModel.unpack.le b.toModel.unpack = true) = true ↔ _
  exact decide_eq_true_iff

/-- **Asking whether one number is below another is not the same as asking whether it is not at
least the other**: the answers differ for what is not a number, and for nothing else. -/
theorem not_lt_iff (a b : Float) : ¬ b < a ↔ a ≤ b ∨ a.isNaN = true ∨ b.isNaN = true := by
  rw [lt_iff, le_iff, Bool.not_eq_true]
  exact lt_eq_false_iff a.toModel.unpack b.toModel.unpack

/-- Whether a double is zero or above, or not a number. -/
def NotBelow (a : Float) : Prop := ¬ a < 0.0

theorem notBelow_iff {a : Float} : NotBelow a ↔ isBelow a.toModel.unpack = false := by
  have hz : (0.0 : Float).toModel.unpack = .zero .positive := rfl
  unfold NotBelow
  rw [lt_iff, hz, compare_zero, Bool.not_eq_true]

theorem beq_zero_iff (a : Float) : (a == 0.0) = isZero a.toModel.unpack := by
  have hz : (0.0 : Float).toModel.unpack = .zero .positive := rfl
  show a.toModel.unpack.beq (0.0 : Float).toModel.unpack = _
  rw [hz, beq_zero]

section

variable {a b : Float}

theorem notBelow_add (ha : NotBelow a) (hb : NotBelow b) : NotBelow (a + b) := by
  rw [notBelow_iff] at ha hb ⊢
  exact isBelow_repacked (add_of_not_below Format.binary64 ha hb).1

/-- A sum is not a number exactly if a part is not. -/
theorem isNaN_add (ha : NotBelow a) (hb : NotBelow b) :
    (a + b).isNaN = (a.isNaN || b.isNaN) := by
  rw [notBelow_iff] at ha hb
  exact (isNaN_repacked _).trans (add_of_not_below Format.binary64 ha hb).2

theorem notBelow_mul (ha : NotBelow a) (hb : NotBelow b) : NotBelow (a * b) := by
  rw [notBelow_iff] at ha hb ⊢
  exact isBelow_repacked (mul_of_not_below Format.binary64 ha hb).1

/-- A product is not a number exactly if a factor is not, or where zero meets infinity. -/
theorem isNaN_mul (ha : NotBelow a) (hb : NotBelow b) :
    (a * b).isNaN = (a.isNaN || b.isNaN || a == 0.0 && b.isInf || a.isInf && b == 0.0) := by
  rw [beq_zero_iff, beq_zero_iff]
  rw [notBelow_iff] at ha hb
  exact (isNaN_repacked _).trans (mul_of_not_below Format.binary64 ha hb).2

/-- A whole number of 64 bits is a number. -/
theorem floatOfInt_of_nonneg {n : Int} (hn : 0 ≤ n) :
    NotBelow (floatOfInt n) ∧ (floatOfInt n).isNaN = false := by
  unfold floatOfInt
  rw [if_neg (by omega), notBelow_iff]
  have h := normalize_nonneg Format.binary64
    (Int.natCast_nonneg (UInt64.ofNat n.natAbs).toNat) 0
  exact ⟨isBelow_repacked h.1, (isNaN_repacked _).trans h.2⟩

end

end SearchGateway.Number
