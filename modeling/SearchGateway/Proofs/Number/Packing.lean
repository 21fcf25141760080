import Mathlib.Algebra.Group.Nat.Defs
import SearchGateway.Proofs.Number.Doubles

/-!
# Doubles and their parts

A word of a float format has three parts: a sign, an exponent and a mantissa.  What a word says
as a number tells all three, unless it says that it is no number, and for that there is only one
valid word.  So a valid word is unpacked and packed again without a change, and adding what
changes nothing to a double leaves each of its bits as it is.

    packComponents_unpack    a word is its parts
    pack_unpack              a valid word is what it says, packed
    negZero_add              minus zero is the double that adding does not change
-/

namespace SearchGateway.Number

open Float.Model (UnpackedFloat Format)
open Float.Model.UnpackedFloat (Sign packComponents unpackSign unpackExponent unpackMantissa)

/-! ## Words -/

theorem toBitVec_ofBitVec (v : BitVec 1) : (Sign.ofBitVec v).toBitVec = v := by
  revert v
  decide

/-- A word is put together from its sign, its exponent and its mantissa. -/
theorem packComponents_unpack {spec : Format} (b : BitVec spec.numBits) :
    packComponents spec (Sign.ofBitVec (unpackSign b)) (unpackExponent b) (unpackMantissa b) =
      b := by
  apply BitVec.eq_of_getLsbD_eq
  intro i hi
  have hm := spec.hm
  have he := spec.he
  have hbits : i < 1 + spec.exponentBits + spec.mantissaBitsWithoutImplicit := hi
  delta packComponents
  rw [toBitVec_ofBitVec]
  delta unpackSign unpackExponent unpackMantissa
  simp only [BitVec.getLsbD_append, BitVec.getLsbD_cast, BitVec.getLsbD_extractLsb]
  split
  · rw [decide_eq_true (by omega), Bool.true_and, Nat.zero_add]
  · split
    · rw [decide_eq_true (by omega), Bool.true_and, Nat.add_sub_cancel' (by omega)]
    · rw [decide_eq_true (by omega), Bool.true_and]
      congr 1
      omega

section

variable {spec : Format} {b : BitVec spec.numBits}

theorem toNat_unpackExponent_lt (h : unpackExponent b ≠ -1#_) :
    (unpackExponent b).toNat + 1 < 2 ^ spec.exponentBits := by
  have hlt := (unpackExponent b).isLt
  have hne : (unpackExponent b).toNat ≠ 2 ^ spec.exponentBits - 1 := by
    intro heq
    refine h (BitVec.eq_of_toNat_eq ?_)
    rw [BitVec.neg_one_eq_allOnes, BitVec.toNat_allOnes, heq]
  omega

/-- A number too small for a leading one is packed with the exponent zero. -/
theorem pack_subnormal (hspec : 1 < spec.exponentBits) {s : Sign} {e : Int}
    (he : e = 1 - (spec.exponentBias + spec.mantissaBitsWithoutImplicit))
    {m : BitVec spec.mantissaBitsWithoutImplicit} (hm : 0 < m.toNat) :
    UnpackedFloat.pack spec (.finite s m.toNat e hm) = packComponents spec s 0 m := by
  have hbias : (e + spec.exponentBias + spec.mantissaBitsWithoutImplicit).toNat = 1 := by omega
  have hfits : ¬ 2 ^ spec.exponentBits ≤ 1 + 1 := by
    have hpow := Nat.pow_lt_pow_right (show 1 < 2 by omega) hspec
    omega
  have hlog : ¬ m.toNat.log2 + 1 = spec.mantissaBits := by
    have hlt : m.toNat.log2 < spec.mantissaBitsWithoutImplicit :=
      (Nat.log2_lt (Nat.ne_of_gt hm)).mpr m.isLt
    show ¬ m.toNat.log2 + 1 = 1 + spec.mantissaBitsWithoutImplicit
    omega
  unfold UnpackedFloat.pack
  dsimp only
  rw [hbias, if_neg hfits, if_neg hlog, BitVec.ofNat_toNat, BitVec.setWidth_eq]
  rfl

/-- A number with a leading one is packed with its own exponent. -/
theorem pack_normal {s : Sign} {e : BitVec spec.exponentBits}
    {m : BitVec spec.mantissaBitsWithoutImplicit} (he : e.toNat + 1 < 2 ^ spec.exponentBits)
    (hm : 0 < (1#1 ++ m).toNat) :
    UnpackedFloat.pack spec (.finite s (1#1 ++ m).toNat
      (e.toNat - (spec.exponentBias + spec.mantissaBitsWithoutImplicit)) hm) =
      packComponents spec s e m := by
  have hbias : ((e.toNat - (spec.exponentBias + spec.mantissaBitsWithoutImplicit) : Int) +
      spec.exponentBias + spec.mantissaBitsWithoutImplicit).toNat = e.toNat := by omega
  have hlead : (1#1 ++ m).toNat = 2 ^ spec.mantissaBitsWithoutImplicit + m.toNat := by
    rw [BitVec.toNat_append, ← Nat.shiftLeft_add_eq_or_of_lt m.isLt]
    simp [Nat.shiftLeft_eq]
  have hlt := m.isLt
  have hlog : (1#1 ++ m).toNat.log2 + 1 = spec.mantissaBits := by
    show _ = 1 + spec.mantissaBitsWithoutImplicit
    have hlog2 : (1#1 ++ m).toNat.log2 = spec.mantissaBitsWithoutImplicit := by
      rw [Nat.log2_eq_iff (Nat.ne_of_gt hm), hlead]
      omega
    omega
  have hmant : BitVec.ofNat spec.mantissaBitsWithoutImplicit (1#1 ++ m).toNat = m := by
    apply BitVec.eq_of_toNat_eq
    rw [BitVec.toNat_ofNat, hlead, Nat.add_mod_left, Nat.mod_eq_of_lt hlt]
  unfold UnpackedFloat.pack
  dsimp only
  rw [hbias, if_neg (by omega), if_pos hlog, BitVec.ofNat_toNat, BitVec.setWidth_eq, hmant]

/-- **What was packed is unpacked and packed again without a change.** -/
theorem pack_unpack (hspec : 1 < spec.exponentBits) (hb : spec.Valid b) :
    UnpackedFloat.pack spec (UnpackedFloat.unpack spec b) = b := by
  have hwhole := packComponents_unpack b
  unfold UnpackedFloat.unpack
  dsimp only
  by_cases hones : unpackExponent b = -1#_
  · rw [if_pos hones]
    by_cases hm : unpackMantissa b = 0#_
    · rw [if_pos hm]
      rw [hones, hm] at hwhole
      exact hwhole
    · rw [if_neg hm]
      exact (hb.eq_packedNaN hones hm).symm
  · rw [if_neg hones]
    by_cases hzero : unpackExponent b = 0#_
    · rw [if_pos hzero]
      rw [hzero] at hwhole
      by_cases hm : unpackMantissa b = 0#_
      · rw [dif_pos hm]
        rw [hm] at hwhole
        exact hwhole
      · rw [dif_neg hm]
        refine (pack_subnormal hspec ?_ _).trans hwhole
        rw [hzero, BitVec.toNat_zero]
        omega
    · rw [if_neg hzero]
      exact (pack_normal (toNat_unpackExponent_lt hones) _).trans hwhole

end

/-! ## Doubles -/

/-- A zero with the sign minus goes out of a sum without a trace. -/
theorem zero_negative_add (spec : Format) (u : UnpackedFloat) :
    UnpackedFloat.add spec (.zero .negative) u = u := by
  rcases u with s | _ | s | ⟨s, m, e, h⟩
  · rfl
  · rfl
  · cases s <;> rfl
  · rfl

/-- **Adding to minus zero changes no bit of a double**, be it a zero, infinite or not a number. -/
theorem negZero_add (x : Float) : -0.0 + x = x := by
  have hzero : (-0.0 : Float).toModel.unpack = .zero .negative := rfl
  have hadd : (-0.0 : Float).toModel.add x.toModel = x.toModel := by
    unfold Float.Model.add
    rw [hzero, zero_negative_add]
    obtain ⟨⟨bits, hvalid⟩⟩ := x
    have hpack : UnpackedFloat.pack Format.binary64
        (UnpackedFloat.unpack Format.binary64 bits.toBitVec) = bits.toBitVec :=
      pack_unpack (by decide) hvalid
    unfold Float.Model.pack
    rw [Float.Model.mk.injEq]
    exact congrArg UInt64.ofBitVec hpack
  show Float.ofModel ((-0.0 : Float).toModel.add x.toModel) = x
  rw [hadd]

end SearchGateway.Number
