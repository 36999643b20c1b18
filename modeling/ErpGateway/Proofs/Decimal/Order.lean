import ErpGateway.Decimal.Signed
import Mathlib.Algebra.Order.Ring.Int
import Mathlib.Order.Compare
import Mathlib.Tactic.Common

/-! The order of finite floats is that of integers which their bits give. -/

namespace ErpGateway.Decimal

open Float.Model (UnpackedFloat Format)
open Float.Model.UnpackedFloat (Sign unpackMantissa unpackExponent unpackSign)

def signOf (x : Float) : Sign :=
  if isNegative x then .negative else .positive

def magnitude (x : Float) : Nat :=
  x.toBits.toNat % twoTo 63

def ordinal (x : Float) : Int :=
  if isNegative x then -(magnitude x : Int) else magnitude x

section Fields

variable (x : Float)

lemma twoTo_52 : twoTo 52 = 4503599627370496 := rfl

lemma twoTo_63 : twoTo 63 = 9223372036854775808 := rfl

lemma toNat_unpackMantissa :
    (@unpackMantissa Format.binary64 x.toModel.toBits.toBitVec).toNat = fractionBits x := by
  simp only [unpackMantissa, BitVec.toNat_cast, BitVec.extractLsb_toNat]
  rfl

lemma toNat_unpackExponent :
    (@unpackExponent Format.binary64 x.toModel.toBits.toBitVec).toNat = exponentBits x := by
  simp only [unpackExponent, BitVec.toNat_cast, BitVec.extractLsb_toNat, Nat.shiftRight_eq_div_pow]
  rfl

lemma ofBitVec_unpackSign :
    Sign.ofBitVec (@unpackSign Format.binary64 x.toModel.toBits.toBitVec) = signOf x := by
  have hlt : x.toBits.toNat < 18446744073709551616 := x.toBits.toNat_lt
  have hbit : (@unpackSign Format.binary64 x.toModel.toBits.toBitVec).toNat =
      x.toBits.toNat / 9223372036854775808 % 2 := by
    delta unpackSign
    simp only [BitVec.toNat_cast, BitVec.extractLsb_toNat, Nat.shiftRight_eq_div_pow]
    rfl
  have hzero : @unpackSign Format.binary64 x.toModel.toBits.toBitVec = 0#1 ↔
      ¬ isNegative x = true := by
    rw [← BitVec.toNat_inj, hbit, isNegative, decide_eq_true_eq, ge_iff_le, UInt64.le_iff_toNat_le]
    change _ = 0 ↔ ¬ 9223372036854775808 ≤ x.toBits.toNat
    omega
  rw [Sign.ofBitVec, signOf]
  simp only [hzero, ite_not]

lemma magnitude_eq : magnitude x = exponentBits x * twoTo 52 + fractionBits x := by
  rw [magnitude, exponentBits, fractionBits, twoTo_52, twoTo_63]
  omega

lemma fractionBits_lt : fractionBits x < twoTo 52 :=
  Nat.mod_lt _ (twoTo_pos 52)

lemma toNat_one_append {w : Nat} (v : BitVec w) : (1#1 ++ v).toNat = 2 ^ w + v.toNat := by
  rw [BitVec.toNat_append, ← Nat.shiftLeft_add_eq_or_of_lt v.isLt]
  simp [Nat.shiftLeft_eq]

end Fields

section Finite

variable {x y : Float}

lemma finite_congr {s : Sign} {m m' : Nat} {e e' : Int} {hm : 0 < m} {hm' : 0 < m'} (h : m = m')
    (he : e = e') : UnpackedFloat.finite s m e hm = .finite s m' e' hm' := by
  subst h he
  rfl

lemma exponentBits_lt (hx : x.isFinite = true) : exponentBits x < 2047 := by
  have hlt : exponentBits x < 2048 := Nat.mod_lt _ (by decide)
  have hne : exponentBits x ≠ 2047 := by
    intro hlast
    have hbits : @unpackExponent Format.binary64 x.toModel.toBits.toBitVec = -1#_ := by
      rw [← BitVec.toNat_inj, toNat_unpackExponent, hlast]
      rfl
    have hunpack : x.toModel.unpack = _ := if_pos hbits
    change x.toModel.unpack.isFinite = true at hx
    rw [hunpack] at hx
    split at hx <;> cases hx
  omega

lemma unpack_of_isFinite (hx : x.isFinite = true) :
    (significand x = 0 ∧ x.toModel.unpack = .zero (signOf x)) ∨
      ∃ h, x.toModel.unpack = .finite (signOf x) (significand x) (exponent x) h := by
  have hfraction := toNat_unpackMantissa x
  have hexponent := toNat_unpackExponent x
  have hlast : @unpackExponent Format.binary64 x.toModel.toBits.toBitVec ≠ -1#_ := by
    rw [ne_eq, ← BitVec.toNat_inj, hexponent]
    exact (exponentBits_lt hx).ne
  rw [← ofBitVec_unpackSign, significand, exponent]
  by_cases hsmall : exponentBits x = 0
  · -- there is no implicit bit where the exponent is least
    rw [if_pos hsmall, if_pos hsmall]
    have hzero : @unpackExponent Format.binary64 x.toModel.toBits.toBitVec = 0#_ := by
      rwa [← BitVec.toNat_inj, hexponent]
    by_cases hnone : @unpackMantissa Format.binary64 x.toModel.toBits.toBitVec = 0#_
    · refine .inl ⟨?_, (if_neg hlast).trans ((if_pos hzero).trans (dif_pos hnone))⟩
      rwa [← BitVec.toNat_inj, hfraction] at hnone
    · refine .inr ⟨?_, (if_neg hlast).trans ((if_pos hzero).trans ((dif_neg hnone).trans ?_))⟩
      · rw [← BitVec.toNat_inj, hfraction] at hnone
        exact Nat.pos_of_ne_zero hnone
      · refine finite_congr hfraction ?_
        rw [hexponent, hsmall]
        rfl
  · have hnonzero : @unpackExponent Format.binary64 x.toModel.toBits.toBitVec ≠ 0#_ := by
      rwa [ne_eq, ← BitVec.toNat_inj, hexponent]
    have himplicit := toNat_one_append (@unpackMantissa Format.binary64 x.toModel.toBits.toBitVec)
    rw [hfraction] at himplicit
    rw [if_neg hsmall, if_neg hsmall]
    refine .inr ⟨Nat.add_pos_left (twoTo_pos 52) _, (if_neg hlast).trans ((if_neg hnonzero).trans ?_)⟩
    refine finite_congr himplicit ?_
    rw [hexponent]
    rfl

lemma compare_parts (x y : Float) :
    (compare (exponent x) (exponent y)).then (compare (significand x) (significand y)) =
      compare (magnitude x) (magnitude y) := by
  have hlt : ∀ x y, magnitude x < magnitude y →
      exponent x < exponent y ∨ exponent x = exponent y ∧ significand x < significand y := by
    intro x y h
    have hx := fractionBits_lt x
    have hy := fractionBits_lt y
    rw [magnitude_eq, magnitude_eq] at h
    rw [exponent, exponent, significand, significand]
    rw [twoTo_52] at *
    split <;> split <;> omega
  rcases Nat.lt_trichotomy (magnitude x) (magnitude y) with h | h | h
  · rw [compare_lt_iff_lt.mpr h, Ordering.then_eq_lt, compare_lt_iff_lt, compare_lt_iff_lt,
      compare_eq_iff_eq]
    exact hlt x y h
  · have hparts : exponentBits x = exponentBits y ∧ fractionBits x = fractionBits y := by
      have hx := fractionBits_lt x
      have hy := fractionBits_lt y
      rw [magnitude_eq, magnitude_eq] at h
      rw [twoTo_52] at *
      omega
    rw [compare_eq_iff_eq.mpr h, Ordering.then_eq_eq, compare_eq_iff_eq, compare_eq_iff_eq, exponent,
      exponent, significand, significand, hparts.1, hparts.2]
    exact ⟨rfl, rfl⟩
  · rw [compare_gt_iff_gt.mpr h, Ordering.then_eq_gt, compare_gt_iff_gt, compare_gt_iff_gt,
      compare_eq_iff_eq]
    exact (hlt y x h).imp_right fun h => ⟨h.1.symm, h.2⟩

lemma magnitude_pos_iff : 0 < magnitude x ↔ 0 < significand x := by
  rw [magnitude_eq, significand, twoTo_52]
  split <;> omega

lemma ordinal_of_zero (h : significand x = 0) : ordinal x = 0 := by
  have hmagnitude : magnitude x = 0 := by
    have hpos := magnitude_pos_iff (x := x)
    omega
  rw [ordinal, hmagnitude]
  split <;> rfl

lemma compare_natCast (m n : Nat) : compare (m : Int) n = compare m n := by
  simp [compare, compareOfLessAndEq]

lemma compare_neg_natCast (m n : Nat) : compare (-(m : Int)) (-n) = (compare m n).swap := by
  rcases Nat.lt_trichotomy m n with h | h | h
  · rw [compare_lt_iff_lt.mpr h]
    exact compare_gt_iff_gt.mpr (by omega)
  · rw [compare_eq_iff_eq.mpr h, h]
    exact compare_eq_iff_eq.mpr rfl
  · rw [compare_gt_iff_gt.mpr h]
    exact compare_lt_iff_lt.mpr (by omega)

lemma compare_unpack (hx : x.isFinite = true) (hy : y.isFinite = true) :
    x.toModel.unpack.compare y.toModel.unpack = some (compare (ordinal x) (ordinal y)) := by
  have hparts := compare_parts x y
  rcases unpack_of_isFinite hx with ⟨hxzero, hux⟩ | ⟨hxpos, hux⟩ <;>
    rcases unpack_of_isFinite hy with ⟨hyzero, huy⟩ | ⟨hypos, huy⟩ <;> rw [hux, huy]
  · -- both zeros are the same number
    rw [ordinal_of_zero hxzero, ordinal_of_zero hyzero]
    rfl
  · rw [ordinal_of_zero hxzero]
    unfold ordinal signOf
    rw [← magnitude_pos_iff] at hypos
    cases isNegative y
    · exact congrArg some (compare_lt_iff_lt.mpr (by simpa using hypos)).symm
    · exact congrArg some (compare_gt_iff_gt.mpr (by simpa using hypos)).symm
  · rw [ordinal_of_zero hyzero]
    unfold ordinal signOf
    rw [← magnitude_pos_iff] at hxpos
    cases isNegative x
    · exact congrArg some (compare_gt_iff_gt.mpr (by simpa using hxpos)).symm
    · exact congrArg some (compare_lt_iff_lt.mpr (by simpa using hxpos)).symm
  · unfold ordinal signOf
    rw [← magnitude_pos_iff] at hxpos hypos
    cases isNegative x <;> cases isNegative y
    · exact congrArg some (hparts.trans (compare_natCast _ _).symm)
    · exact congrArg some (compare_gt_iff_gt.mpr (by simp; omega)).symm
    · exact congrArg some (compare_lt_iff_lt.mpr (by simp; omega)).symm
    · exact congrArg some ((congrArg Ordering.swap hparts).trans (compare_neg_natCast _ _).symm)

lemma lt_iff_ordinal (hx : x.isFinite = true) (hy : y.isFinite = true) :
    x < y ↔ ordinal x < ordinal y := by
  change decide ((x.toModel.unpack.compare y.toModel.unpack == some .lt) = true) = true ↔ _
  rw [decide_eq_true_iff, compare_unpack hx hy, beq_iff_eq, Option.some_inj,
    compare_lt_iff_lt]

lemma beq_iff_ordinal (hx : x.isFinite = true) (hy : y.isFinite = true) :
    (x == y) = true ↔ ordinal x = ordinal y := by
  change (x.toModel.unpack.compare y.toModel.unpack == some .eq) = true ↔ _
  rw [compare_unpack hx hy, beq_iff_eq, Option.some_inj, compare_eq_iff_eq]

lemma magnitude_lt (hx : x.isFinite = true) : magnitude x < 2047 * twoTo 52 := by
  have hexponent := exponentBits_lt hx
  have hfraction := fractionBits_lt x
  rw [magnitude_eq]
  rw [twoTo_52] at *
  omega

end Finite

structure Signed.IsFinite (s : Signed) : Prop where
  isFinite : s.value.isFinite = true
  negative : s.negative = isNegative s.value

lemma Signed.isFinite_ofFloat {x : Float} (hx : x.isFinite = true) : (ofFloat x).IsFinite :=
  ⟨hx, rfl⟩

lemma Signed.IsFinite.orderKey_eq {s : Signed} (hs : s.IsFinite) :
    s.orderKey =
      if isNegative s.value then -(magnitude s.value : Int) - 1 else (magnitude s.value : Int) := by
  rw [orderKey, hs.negative]
  rfl

/-- The total order of floats tells zeros apart and is that of their numbers otherwise. -/
lemma Signed.ordinal_le {s t : Signed} (hs : s.IsFinite) (ht : t.IsFinite)
    (h : s.orderKey ≤ t.orderKey) : ordinal s.value ≤ ordinal t.value := by
  rw [hs.orderKey_eq, ht.orderKey_eq] at h
  rw [ordinal, ordinal]
  split_ifs at h ⊢ <;> omega

end ErpGateway.Decimal
