import Mathlib
import StoryGraph.Property.Table

/-!
Floats that are no numbers, by the model of floats that the standard library gives. Main statements: the float of
a decimal number is a number, and so is a product or a quotient of a number with a float that is finite and not
zero.
-/

namespace StoryGraph

namespace Binary

open Float.Model (UnpackedFloat Format)
open Float.Model.UnpackedFloat

/-- Finite, and not zero. -/
def isProper : UnpackedFloat → Bool
  | .finite .. => true
  | .zero _ | .infinity _ | .notANumber => false

/-- Finite, and of size two or more if the mantissa has full length. -/
def isLarge : UnpackedFloat → Bool
  | .finite _ _ e _ => -51 ≤ e
  | .zero _ | .infinity _ | .notANumber => false

theorem isProper_of_isLarge {u : UnpackedFloat} (h : isLarge u = true) : isProper u = true := by
  cases u with
  | finite => rfl
  | zero | infinity | notANumber => cases h

theorem exists_of_isLarge {u : UnpackedFloat} (h : isLarge u = true) :
    ∃ s m e hm, u = .finite s m e hm ∧ -51 ≤ e := by
  cases u with
  | finite s m e hm => exact ⟨s, m, e, hm, rfl, of_decide_eq_true h⟩
  | zero | infinity | notANumber => cases h

theorem isNaN_eq_false_iff {u : UnpackedFloat} : u.isNaN = false ↔ u ≠ .notANumber := by
  cases u <;> simp [isNaN]

/-! Packing. -/

/-- Packing makes no number of what is none, and the other way round. -/
theorem unpack_pack_ne {spec : Format} {u : UnpackedFloat} (h : u ≠ .notANumber) :
    unpack spec (pack spec u) ≠ .notANumber := by
  -- The exponent of all ones is left to infinity, whose mantissa is zero.
  have ones : unpackExponent (pack spec u) = (-1#_) → unpackMantissa (pack spec u) = 0#_ := by
    fun_cases pack spec u with
    | case1 => exact absurd rfl h
    | case2 => simp [packedInfinity]
    | case3 => simp [packedZero]
    | case4 => simp [packedInfinity]
    | case5 s m e hm actualMantissaBits biasedExponent fits normal =>
      intro exponent
      have below : biasedExponent < 2 ^ spec.exponentBits - 1 := by omega
      have same : biasedExponent % 2 ^ spec.exponentBits = 2 ^ spec.exponentBits - 1 := by
        simpa [BitVec.neg_one_eq_allOnes, ← BitVec.toNat_inj] using exponent
      rw [Nat.mod_eq_of_lt (by omega)] at same
      omega
    | case6 => simp [Nat.pos_iff_ne_zero.1 spec.he]
  rw [unpack]
  split
  case isTrue exponent =>
    rw [if_pos (ones exponent)]
    simp
  case isFalse =>
    split
    · split <;> simp
    · simp

theorem isNaN_ofModel_pack {u : UnpackedFloat} (h : u ≠ .notANumber) :
    (Float.ofModel (.pack u)).isNaN = false := by
  rw [Float.isNaN, Float.Model.isNaN, isNaN_eq_false_iff, Float.Model.unpack, Float.Model.pack]
  exact unpack_pack_ne h

/-- A mantissa of full length is kept with its exponent, if that fits. -/
theorem unpack_pack_full {s : Sign} {m : Nat} {e : Int} (hm : 0 < m) (full : m.log2 = 52) (least : -1074 ≤ e)
    (most : e ≤ 971) : unpack .binary64 (pack .binary64 (.finite s m e hm)) = .finite s m e hm := by
  have biased : (e + (Format.binary64.exponentBias : Int) + (52 : Nat)).toNat = (e + 1075).toNat := by
    show (e + 1023 + 52).toNat = _
    omega
  have exponent : (BitVec.ofNat 11 (e + 1075).toNat).toNat = (e + 1075).toNat := by
    rw [BitVec.toNat_ofNat, Nat.mod_eq_of_lt (by omega)]
  simp only [pack, full, biased]
  rw [if_neg (by omega), if_pos (by decide)]
  have ones : BitVec.ofNat 11 (e + 1075).toNat ≠ -1#11 := by
    intro same
    rw [same] at exponent
    simp at exponent
    omega
  have zero : BitVec.ofNat 11 (e + 1075).toNat ≠ 0#11 := by
    intro same
    rw [same] at exponent
    simp at exponent
    omega
  have sign : Sign.ofBitVec s.toBitVec = s := Sign.ofBitVec_toBitVec s
  have mantissa : (1#1 ++ BitVec.ofNat 52 m).toNat = m := by
    have nonzero : m ≠ 0 := by omega
    have least := (Nat.le_log2 (k := 52) nonzero).1 (by omega)
    have most := (Nat.log2_lt (k := 53) nonzero).1 (by omega)
    rw [BitVec.toNat_append, ← Nat.shiftLeft_add_eq_or_of_lt (BitVec.isLt _), BitVec.toNat_ofNat]
    show 2 ^ 52 + m % 2 ^ 52 = m
    omega
  simp only [unpack, unpackExponent_packComponents, unpackMantissa_packComponents, unpackSign_packComponents, sign]
  rw [if_neg ones, if_neg zero]
  simp only [mantissa, exponent]
  congr 1
  show ((e + 1075).toNat : Int) - (1023 + 52) = e
  omega

theorem isLarge_unpack_pack {s : Sign} {m : Nat} {e : Int} (hm : 0 < m) (full : m.log2 = 52) (least : -51 ≤ e)
    (most : e ≤ 971) : isLarge (unpack .binary64 (pack .binary64 (.finite s m e hm))) = true := by
  rw [unpack_pack_full hm full (by omega) most]
  exact decide_eq_true least

/-! Rounding. -/

theorem roundWithAccuracy_ne (spec : Format) (sign : Sign) (m : Nat) (e : Int) (a : Accuracy) :
    roundWithAccuracy spec sign m e a ≠ .notANumber := by
  simp only [roundWithAccuracy]
  split <;> simp

theorem normalize_ne (spec : Format) (m e : Int) (zeroSign : Sign) :
    Float.Model.UnpackedFloat.normalize spec m e zeroSign ≠ .notANumber := by
  simp only [Float.Model.UnpackedFloat.normalize, Float.Model.UnpackedFloat.round]
  split
  · exact roundWithAccuracy_ne _ _ _ _ _
  · simp
  · exact roundWithAccuracy_ne _ _ _ _ _

theorem mantissa_shiftRight (em : ExtendedMantissa) (n : Nat) : (em >>> n).mantissa = em.mantissa / 2 ^ n := by
  show (n.repeat ExtendedMantissa.shiftRightOne em).mantissa = _
  induction n with
  | zero => simp [Nat.repeat]
  | succ n ih => rw [Nat.repeat, ExtendedMantissa.shiftRightOne, ih, Nat.div_div_eq_div_mul, Nat.pow_succ]

theorem roundedMantissa_mem (em : ExtendedMantissa) :
    em.mantissa ≤ em.roundedMantissa ∧ em.roundedMantissa ≤ em.mantissa + 1 := by
  obtain ⟨m, roundBit, stickyBit⟩ := em
  cases roundBit <;> cases stickyBit <;>
    simp only [ExtendedMantissa.roundedMantissa, ExtendedMantissa.accuracy, Accuracy.roundToNearestEven] <;> omega

theorem shiftToTargetExponent_eq {m : Nat} {e : Int} (long : 52 ≤ m.log2) (least : -1074 ≤ e) (a : Accuracy) :
    shiftToTargetExponent .binary64 m e a =
      (ExtendedMantissa.ofMantissaAndAccuracy m a >>> (m.log2 - 52), e + (m.log2 - 52 : Nat)) := by
  have shift : (Format.binary64.targetExponent (Float.Model.totalExponent m e) - e).toNat = m.log2 - 52 := by
    simp only [Format.targetExponent, Format.minExponent, Format.mantissaBits, Float.Model.totalExponent]
    omega
  simp only [shiftToTargetExponent, shiftToExponent, shift]

/-- Of a mantissa that is long enough, the leading bits are kept. -/
theorem shiftToTargetExponent_long {m : Nat} {e : Int} (long : 52 ≤ m.log2) (least : -1074 ≤ e) (a : Accuracy) :
    ∃ em, shiftToTargetExponent .binary64 m e a = (em, e + (m.log2 - 52)) ∧ 2 ^ 52 ≤ em.mantissa ∧
      em.mantissa < 2 ^ 53 := by
  have mantissa : (ExtendedMantissa.ofMantissaAndAccuracy m a).mantissa = m := by
    cases a with
    | exact => rfl
    | inexact o => cases o <;> rfl
  have nonzero : m ≠ 0 := by
    intro zero
    simp [zero] at long
  rw [shiftToTargetExponent_eq long least]
  refine ⟨_, Prod.ext rfl (by omega), ?_, ?_⟩
  · rw [mantissa_shiftRight, mantissa, Nat.le_div_iff_mul_le (Nat.two_pow_pos _), ← Nat.pow_add,
      Nat.add_sub_cancel' long]
    exact Nat.log2_self_le nonzero
  · have total : 53 + (m.log2 - 52) = m.log2 + 1 := by omega
    rw [mantissa_shiftRight, mantissa, Nat.div_lt_iff_lt_mul (Nat.two_pow_pos _), ← Nat.pow_add, total]
    exact Nat.lt_log2_self

/-- A mantissa that is long enough is rounded to one of full length. Rounding up may add one to the exponent. -/
theorem roundWithAccuracy_long {m : Nat} {e : Int} (long : 52 ≤ m.log2) (least : -1074 ≤ e) (s : Sign)
    (a : Accuracy) :
    ∃ m' e' hm, roundWithAccuracy .binary64 s m e a = .finite s m' e' hm ∧ m'.log2 = 52 ∧ e + m.log2 - 52 ≤ e' ∧
      e' ≤ e + m.log2 - 51 := by
  obtain ⟨em, shifted, lower, upper⟩ := shiftToTargetExponent_long long least a
  obtain ⟨above, below⟩ := roundedMantissa_mem em
  have nonzero : em.roundedMantissa ≠ 0 := by omega
  have long' : 52 ≤ em.roundedMantissa.log2 := (Nat.le_log2 nonzero).2 (by omega)
  have short : em.roundedMantissa.log2 < 54 := (Nat.log2_lt nonzero).2 (by omega)
  obtain ⟨em', shifted', lower', upper'⟩ :=
    shiftToTargetExponent_long long' (by omega : -1074 ≤ e + ((m.log2 : Int) - 52)) .exact
  have nonzero' : em'.mantissa ≠ 0 := by omega
  simp only [roundWithAccuracy, shifted, shifted', dif_neg nonzero']
  exact ⟨_, _, Nat.pos_of_ne_zero nonzero', rfl, (Nat.log2_eq_iff nonzero').2 ⟨lower', upper'⟩, by omega, by omega⟩

/-! Operations. -/

theorem mul_ne {spec : Format} {u v : UnpackedFloat} (hu : u ≠ .notANumber) (hv : isProper v = true) :
    mul spec u v ≠ .notANumber := by
  cases v with
  | notANumber | infinity s | zero s => cases hv
  | finite s m e hm =>
    cases u with
    | notANumber => exact absurd rfl hu
    | infinity s' | zero s' => simp [mul]
    | finite s' m' e' hm' => exact roundWithAccuracy_ne _ _ _ _ _

theorem div_ne {spec : Format} {u v : UnpackedFloat} (hu : u ≠ .notANumber) (hv : isProper v = true) :
    div spec u v ≠ .notANumber := by
  cases v with
  | notANumber | infinity s | zero s => cases hv
  | finite s m e hm =>
    cases u with
    | notANumber => exact absurd rfl hu
    | infinity s' | zero s' => simp [div]
    | finite s' m' e' hm' => exact roundWithAccuracy_ne _ _ _ _ _

theorem ne_of_lt {u v : UnpackedFloat} (h : u.lt v = true) : v ≠ .notANumber := by
  intro none
  rw [none] at h
  cases u <;> cases h

theorem isNaN_mul {x y : Float} (hx : x.isNaN = false) (hy : isProper y.toModel.unpack = true) :
    (x * y).isNaN = false :=
  isNaN_ofModel_pack (mul_ne (isNaN_eq_false_iff.1 hx) hy)

theorem isNaN_div {x y : Float} (hx : x.isNaN = false) (hy : isProper y.toModel.unpack = true) :
    (x / y).isNaN = false :=
  isNaN_ofModel_pack (div_ne (isNaN_eq_false_iff.1 hx) hy)

theorem isNaN_neg {x : Float} (h : x.isNaN = false) : (-x).isNaN = false := by
  refine isNaN_ofModel_pack ?_
  have number := isNaN_eq_false_iff.1 h
  cases u : x.toModel.unpack with
  | notANumber => exact absurd u number
  | infinity | zero | finite => simp [neg]

/-! Decimal numbers. -/

theorem ofScientific_ne (spec : Format) (m : Nat) (e : Int) : ofScientific spec m e ≠ .notANumber := by
  simp only [ofScientific]
  split
  · simp
  · split
    · simp
    · split
      · simp
      · split
        · exact roundWithAccuracy_ne _ _ _ _ _
        · exact roundWithAccuracy_ne _ _ _ _ _

theorem isProper_exactlyRepresentablePowersOfTen :
    ∀ e : Fin 23, isProper (Float.exactlyRepresentablePowersOfTen[e]).toModel.unpack = true := by
  decide

theorem isNaN_toFloat (n : UInt64) : n.toFloat.isNaN = false := isNaN_ofModel_pack (normalize_ne _ _ _ _)

theorem isNaN_ofScientific (m : Nat) (s : Bool) (e : Nat) : (Float.ofScientific m s e).isNaN = false := by
  unfold Float.ofScientific
  split
  case isTrue exact =>
    have power := isProper_exactlyRepresentablePowersOfTen ⟨e, by omega⟩
    split
    · exact isNaN_div (isNaN_toFloat _) power
    · exact isNaN_mul (isNaN_toFloat _) power
  case isFalse => exact isNaN_ofModel_pack (ofScientific_ne _ _ _)

theorem isNaN_ofNat (n : Nat) : (Float.ofNat n).isNaN = false := isNaN_ofScientific n false 0

theorem isNaN_ofInt (i : Int) : (Float.ofInt i).isNaN = false := by
  cases i with
  | ofNat n => exact isNaN_ofNat n
  | negSucc n => exact isNaN_neg (isNaN_ofNat (n + 1))

theorem isLarge_ofScientific {k : Nat} (least : 1 ≤ k) (most : k ≤ 307) :
    isLarge (Float.Model.ofScientific 1 (k : Int)).unpack = true := by
  have ten : 10 ^ 1 ≤ 10 ^ k := Nat.pow_le_pow_right (by decide) least
  have range : 10 ^ k < 2 ^ 1023 := Nat.lt_of_le_of_lt (Nat.pow_le_pow_right (by decide) most) (by decide +kernel)
  have short : (2 ^ 53 * 10 ^ k).log2 ≤ 1075 := by
    refine Nat.lt_succ_iff.1 ((Nat.log2_lt (by omega)).2 ?_)
    omega
  have long : 55 ≤ (2 ^ 53 * 10 ^ k).log2 := (Nat.le_log2 (by omega)).2 (by omega)
  obtain ⟨m, e, hm, rounded, full, lower, upper⟩ :=
    roundWithAccuracy_long (by omega : 52 ≤ (2 ^ 53 * 10 ^ k).log2) (by decide : -1074 ≤ (-53 : Int)) .positive .exact
  have size : ofScientific .binary64 1 k = .finite .positive m e hm := by
    rw [ofScientific, dif_neg (by decide), if_neg, if_neg, if_pos (by omega), mul, ← rounded]
    · rfl
    · show ¬ (k : Int) < -(2048 + 0)
      omega
    · show ¬ 2048 < (k : Int)
      omega
  rw [Float.Model.ofScientific, size]
  exact isLarge_unpack_pack hm full (by omega) (by omega)

theorem isLarge_powerOfTen {k : Nat} (least : 1 ≤ k) (most : k ≤ 308) :
    isLarge (Float.ofScientific 1 false k).toModel.unpack = true := by
  have small : ∀ k : Fin 23, k ≠ 0 → isLarge (Float.ofScientific 1 false k).toModel.unpack = true := by
    decide
  by_cases exact : k ≤ 22
  · exact small ⟨k, by omega⟩ (by simp [Fin.ext_iff]; omega)
  · by_cases last : k = 308
    · subst last
      decide +kernel
    · unfold Float.ofScientific
      rw [dif_neg (by omega)]
      exact isLarge_ofScientific least (by omega)

/-- The powers of ten in the range of floats are neither zero nor infinite. -/
theorem isProper_powerOfTen {k : Nat} (h : k ≤ 308) :
    isProper (Float.ofScientific 1 false k).toModel.unpack = true := by
  by_cases one : k = 0
  · subst one
    decide
  · exact isProper_of_isLarge (isLarge_powerOfTen (by omega) h)

theorem isNaN_of_isFinite {x : Float} (h : x.isFinite = true) : x.isNaN = false := by
  simp only [Float.isNaN, Float.Model.isNaN, Float.isFinite, Float.Model.isFinite] at *
  cases u : x.toModel.unpack with
  | notANumber | infinity =>
    rw [u] at h
    cases h
  | zero | finite => rfl

theorem isFinite_of_isNaN_of_isInf {x : Float} (nan : x.isNaN = false) (inf : x.isInf = false) : x.isFinite = true := by
  simp only [Float.isNaN, Float.Model.isNaN, Float.isInf, Float.Model.isInf, Float.isFinite, Float.Model.isFinite] at *
  cases u : x.toModel.unpack with
  | notANumber | infinity => simp_all [isNaN, isInf]
  | zero | finite => rfl

end Binary

theorem Property.isNaN_notNegative (x : Float) : (Property.notNegative x).isNaN = false := by
  rw [notNegative]
  split
  case isTrue above =>
    have compared : Float.Model.lt (0.0 : Float).toModel x.toModel = true := of_decide_eq_true above
    exact Binary.isNaN_eq_false_iff.2 (Binary.ne_of_lt compared)
  case isFalse => exact Binary.isNaN_ofNat 0

end StoryGraph
