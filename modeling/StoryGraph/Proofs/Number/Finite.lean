import StoryGraph.Proofs.Number.NotNumber

/-!
Floats that are finite. Main statements: a whole number of 64 bits becomes a finite float, and a finite float stays
finite when it is divided by a power of ten.
-/

namespace StoryGraph

namespace Binary

open Float.Model (UnpackedFloat Format totalExponent)
open Float.Model.UnpackedFloat

/-- Zero, or finite with an exponent of at most `c`. -/
def Within (c : Int) : UnpackedFloat → Prop
  | .finite _ _ e _ => e ≤ c
  | .zero _ => True
  | .infinity _ | .notANumber => False

theorem Within.isFinite {c : Int} {u : UnpackedFloat} (h : Within c u) : u.isFinite = true := by
  cases u with
  | finite | zero => rfl
  | infinity | notANumber => cases h

/-! Binary logarithms. -/

theorem log2_le_of_lt {m k : Nat} (h : m < 2 ^ (k + 1)) : m.log2 ≤ k := by
  by_cases zero : m = 0
  · simp [zero]
  · exact Nat.lt_succ_iff.1 ((Nat.log2_lt zero).2 h)

theorem log2_mono {m n : Nat} (h : m ≤ n) : m.log2 ≤ n.log2 :=
  log2_le_of_lt (Nat.lt_of_le_of_lt h Nat.lt_log2_self)

theorem log2_succ_le (m : Nat) : (m + 1).log2 ≤ m.log2 + 1 := by
  apply log2_le_of_lt
  have above : m < 2 ^ (m.log2 + 1) := Nat.lt_log2_self
  rw [Nat.pow_succ]
  omega

theorem log2_mul_le (m n : Nat) : (m * n).log2 ≤ m.log2 + n.log2 + 1 := by
  apply log2_le_of_lt
  calc m * n < 2 ^ (m.log2 + 1) * 2 ^ (n.log2 + 1) := Nat.mul_lt_mul'' Nat.lt_log2_self Nat.lt_log2_self
    _ = 2 ^ (m.log2 + n.log2 + 1 + 1) := by rw [← Nat.pow_add]; congr 1; omega

theorem log2_shiftLeft_le (m k : Nat) : (m <<< k).log2 ≤ m.log2 + k := by
  apply log2_le_of_lt
  rw [Nat.shiftLeft_eq, Nat.add_right_comm, Nat.pow_add]
  exact Nat.mul_lt_mul_of_pos_right Nat.lt_log2_self (Nat.two_pow_pos k)

theorem log2_div_le (m : Nat) {n : Nat} (hn : n ≠ 0) : (m / n).log2 ≤ m.log2 - n.log2 := by
  by_cases zero : m / n = 0
  · simp [zero]
  · have larger := log2_mono (Nat.div_ne_zero_iff.1 zero).2
    apply log2_le_of_lt
    rw [Nat.div_lt_iff_lt_mul (Nat.pos_of_ne_zero hn)]
    calc m < 2 ^ (m.log2 + 1) := Nat.lt_log2_self
      _ = 2 ^ (m.log2 - n.log2 + 1) * 2 ^ n.log2 := by rw [← Nat.pow_add]; congr 1; omega
      _ ≤ 2 ^ (m.log2 - n.log2 + 1) * n := Nat.mul_le_mul_left _ (Nat.log2_self_le hn)

/-! Rounding and packing. -/

/-- Shifting moves the exponent up to the target at most, and the leading bit not at all while a bit is left. -/
theorem shiftToTargetExponent_within (m : Nat) (e : Int) (a : Accuracy) :
    ∃ em e', shiftToTargetExponent .binary64 m e a = (em, e') ∧
      e' = max e (max (totalExponent m e - 53) (-1074)) ∧
      totalExponent em.mantissa e' ≤ max (totalExponent m e) (e' + 1) := by
  have mantissa : (ExtendedMantissa.ofMantissaAndAccuracy m a).mantissa = m := by
    cases a with
    | exact => rfl
    | inexact o => cases o <;> rfl
  refine ⟨_, _, rfl, ?_, ?_⟩
  · simp only [Format.targetExponent, Format.minExponent, Format.mantissaBits]
    omega
  · have shorter := log2_div_le m
      (Nat.ne_of_gt (Nat.two_pow_pos (Format.binary64.targetExponent (totalExponent m e) - e).toNat))
    rw [Nat.log2_two_pow] at shorter
    simp only [mantissa_shiftRight, mantissa, totalExponent] at shorter ⊢
    omega

/-- Rounding up may add one to the leading bit. -/
theorem within_roundWithAccuracy {m : Nat} {e c : Int} (exponent : e ≤ c) (total : totalExponent m e ≤ c + 52)
    (least : -1074 ≤ c) (s : Sign) (a : Accuracy) : Within c (roundWithAccuracy .binary64 s m e a) := by
  obtain ⟨em, e', shifted, moved, kept⟩ := shiftToTargetExponent_within m e a
  have rounded := log2_mono (roundedMantissa_mem em).2
  have carried := log2_succ_le em.mantissa
  obtain ⟨em', e'', shifted', moved', -⟩ := shiftToTargetExponent_within em.roundedMantissa e' .exact
  -- The second shift makes up for a bit that rounding has carried over.
  simp only [roundWithAccuracy, shifted, shifted']
  split
  · trivial
  · simp only [Within, totalExponent] at *
    omega

theorem toNat_ones : (-BitVec.ofNat Format.binary64.exponentBits 1).toNat = 2047 := by decide

/-- The exponent of what is unpacked, by the bits that hold it. -/
theorem within_unpack {b : BitVec (Format.numBits .binary64)} {k : Nat} (bits : (unpackExponent b).toNat ≤ k)
    (most : k ≤ 2046) : Within (max ((k : Int) - 1075) (-1074)) (unpack .binary64 b) := by
  rw [unpack]
  split
  case isTrue ones =>
    rw [ones] at bits
    have all := toNat_ones
    omega
  case isFalse =>
    split
    case isTrue zero =>
      split
      · trivial
      · show ((unpackExponent b).toNat : Int) - (1023 + 52) + 1 ≤ _
        simp [zero]
    case isFalse =>
      show ((unpackExponent b).toNat : Int) - (1023 + 52) ≤ _
      omega

/-- What is unpacked has a mantissa of full length, or the least exponent. -/
theorem log2_unpack {b : BitVec (Format.numBits .binary64)} {s : Sign} {m : Nat} {e : Int} {hm : 0 < m}
    (h : unpack .binary64 b = .finite s m e hm) : m.log2 ≤ 52 ∧ (m.log2 = 52 ∨ e = -1074) := by
  rw [unpack] at h
  split at h
  · split at h <;> cases h
  · split at h
    case isTrue zero =>
      split at h
      · cases h
      · cases h
        refine ⟨log2_le_of_lt (Nat.lt_trans (BitVec.isLt _) (by decide)), .inr ?_⟩
        rw [zero]
        rfl
    case isFalse =>
      cases h
      have above : 2 ^ 52 ≤ (1#1 ++ unpackMantissa b).toNat := by
        rw [BitVec.toNat_append]
        exact Nat.left_le_or
      have below := (1#1 ++ unpackMantissa b).isLt
      have full : (1#1 ++ unpackMantissa b).toNat.log2 = 52 := (Nat.log2_eq_iff (by omega)).2 ⟨above, below⟩
      exact ⟨by omega, .inl full⟩

theorem within_unpack_pack {u : UnpackedFloat} {c : Int} (h : Within c u) (least : -1074 ≤ c) (most : c ≤ 971) :
    Within c (unpack .binary64 (pack .binary64 u)) := by
  have bits : (unpackExponent (pack .binary64 u)).toNat ≤ (c + 1075).toNat := by
    fun_cases pack .binary64 u with
    | case1 | case2 => cases h
    | case3 => simp [packedZero]
    | case4 s m e hm biased above =>
      have : e ≤ c := h
      have : (2 : Nat) ^ 11 ≤ (e + (1023 : Nat) + (52 : Nat)).toNat + 1 := above
      omega
    | case5 s m e hm bits biased above normal =>
      have : e ≤ c := h
      have : (biased : Nat) = (e + (1023 : Nat) + (52 : Nat)).toNat := rfl
      rw [unpackExponent_packComponents, BitVec.toNat_ofNat]
      exact Nat.le_trans (Nat.mod_le _ _) (by omega)
    | case6 => simp
  have kept := within_unpack bits (by omega)
  have same : max (((c + 1075).toNat : Int) - 1075) (-1074) = c := by omega
  rwa [same] at kept

/-! Operations. -/

/-- A finite float is zero, or it has a short mantissa and an exponent in range. -/
theorem unpacked_of_isFinite {x : Float} (h : x.isFinite = true) :
    (∃ s, x.toModel.unpack = .zero s) ∨
      ∃ s m e hm, x.toModel.unpack = .finite s m e hm ∧ m.log2 ≤ 52 ∧ e ≤ 971 := by
  have bits : (@unpackExponent .binary64 x.toModel.toBits.toBitVec).toNat ≤ 2046 := by
    by_contra above
    have ones : @unpackExponent .binary64 x.toModel.toBits.toBitVec = -1#_ := by
      have below := (@unpackExponent .binary64 x.toModel.toBits.toBitVec).isLt
      rw [← BitVec.toNat_inj, toNat_ones]
      have : 2 ^ Format.binary64.exponentBits = 2048 := rfl
      omega
    simp only [Float.isFinite, Float.Model.isFinite, Float.Model.unpack, unpack, ones, if_true] at h
    split at h <;> cases h
  have range : Within 971 x.toModel.unpack := within_unpack bits (Nat.le_refl _)
  cases unpacked : x.toModel.unpack with
  | notANumber | infinity =>
    rw [unpacked] at range
    cases range
  | zero s => exact .inl ⟨s, rfl⟩
  | finite s m e hm =>
    rw [unpacked] at range
    exact .inr ⟨s, m, e, hm, rfl, (log2_unpack unpacked).1, range⟩

theorem isFinite_ofModel_pack {u : UnpackedFloat} {c : Int} (h : Within c u) (least : -1074 ≤ c) (most : c ≤ 971) :
    (Float.ofModel (.pack u)).isFinite = true :=
  (within_unpack_pack h least most).isFinite

theorem isFinite_neg {x : Float} (h : x.isFinite = true) : (-x).isFinite = true := by
  refine isFinite_ofModel_pack (c := 971) ?_ (by decide) (by decide)
  obtain ⟨s, unpacked⟩ | ⟨s, m, e, hm, unpacked, -, range⟩ := unpacked_of_isFinite h
  · rw [unpacked]
    trivial
  · rw [unpacked]
    exact range

/-- A divisor of size two or more takes away the bit that rounding may add. -/
theorem divCore_range {m m' : Nat} {e e' : Int} (short : m.log2 ≤ 52) (full : m'.log2 = 52) (most : e ≤ 971)
    (large : -51 ≤ e') : (divCore .binary64 m e m' e').2.1 ≤ 971 ∧
      totalExponent (divCore .binary64 m e m' e').1 (divCore .binary64 m e m' e').2.1 ≤ 1023 := by
  have nonzero : m' ≠ 0 := by
    intro zero
    simp [zero] at full
  have quotient := fun k => log2_div_le (m <<< k) nonzero
  have shifted := log2_shiftLeft_le m
  simp only [divCore, Format.targetExponent, Format.minExponent, Format.mantissaBits, totalExponent]
  generalize amount : (e - e' - min (e - e') (max (((m.log2 : Int) + 1 + e - (m'.log2 + 1 + e')) - (1 + 52 : Nat))
    (3 - 2 ^ (11 - 1) - (1 + 52 : Nat)))).toNat = k
  have bits := quotient k
  have bits' := shifted k
  omega

theorem isFinite_div {x y : Float} (hx : x.isFinite = true) (hy : isLarge y.toModel.unpack = true) :
    (x / y).isFinite = true := by
  refine isFinite_ofModel_pack (c := 971) ?_ (by decide) (by decide)
  obtain ⟨s', m', e', hm', divisor, large⟩ := exists_of_isLarge hy
  have full : m'.log2 = 52 := (log2_unpack divisor).2.resolve_right (by omega)
  obtain ⟨s, dividend⟩ | ⟨s, m, e, hm, dividend, short, range⟩ := unpacked_of_isFinite hx
  · rw [dividend, divisor]
    trivial
  · rw [dividend, divisor]
    obtain ⟨exponent, total⟩ := divCore_range short full range large
    exact within_roundWithAccuracy exponent total (by decide) _ _

/-! Whole numbers. -/

theorem within_round {n : Nat} (h : n < 2 ^ 64) (s : Sign) :
    Within 12 (Float.Model.UnpackedFloat.round .binary64 s n 0) := by
  have short : n.log2 ≤ 63 := log2_le_of_lt h
  have shifted := log2_shiftLeft_le n
  simp only [Float.Model.UnpackedFloat.round, decreaseExponent]
  generalize ((0 : Int) - Format.binary64.targetExponent (totalExponent n 0)).toNat = k
  have bits := shifted k
  refine within_roundWithAccuracy (by omega) ?_ (by decide) _ _
  simp only [totalExponent]
  omega

theorem within_toFloat (n : UInt64) : Within 12 n.toFloat.toModel.unpack := by
  refine within_unpack_pack ?_ (by decide) (by decide)
  show Within 12 (normalize .binary64 (n.toNat : Int) 0 .positive)
  have size : n.toNat < 2 ^ 64 := n.toNat_lt
  rw [Float.Model.UnpackedFloat.normalize]
  split
  · exact within_round (by omega) _
  · trivial
  · exact within_round (by omega) _

theorem within_mul {s s' : Sign} {m m' : Nat} {e e' : Int} {hm : 0 < m} {hm' : 0 < m'}
    (short : m.log2 + m'.log2 ≤ 900) (small : e + e' ≤ 12) :
    Within 971 (mul .binary64 (.finite s m e hm) (.finite s' m' e' hm')) := by
  have product := log2_mul_le m m'
  refine within_roundWithAccuracy (by omega) ?_ (by decide) _ _
  simp only [totalExponent]
  omega

theorem unpack_one : ∃ m hm, (Float.ofBits 0x3FF0000000000000).toModel.unpack = .finite .positive m (-52) hm :=
  ⟨_, _, rfl⟩

theorem isFinite_ofNat {n : Nat} (h : n < 2 ^ 64) : (Float.ofNat n).isFinite = true := by
  show (Float.ofScientific n false 0).isFinite = true
  unfold Float.ofScientific
  split
  -- A number of 53 bits is multiplied by one, as the power of ten that it comes with.
  case isTrue exact =>
    show (n.toUInt64.toFloat * Float.ofBits 0x3FF0000000000000).isFinite = true
    refine isFinite_ofModel_pack (c := 971) ?_ (by decide) (by decide)
    have range := within_toFloat n.toUInt64
    obtain ⟨m', hm', one⟩ := unpack_one
    rw [one]
    cases factor : n.toUInt64.toFloat.toModel.unpack with
    | notANumber | infinity s =>
      rw [factor] at range
      cases range
    | zero s => trivial
    | finite s m e hm =>
      rw [factor] at range
      have small : e ≤ 12 := range
      have short := (log2_unpack factor).1
      have short' := (log2_unpack one).1
      exact within_mul (by omega) (by omega)
  case isFalse above =>
    refine isFinite_ofModel_pack (c := 971) ?_ (by decide) (by decide)
    have nonzero : n ≠ 0 := by omega
    have short : n.log2 ≤ 63 := log2_le_of_lt h
    have shifted := log2_shiftLeft_le n 53
    have same : ofScientific .binary64 n 0 = roundWithAccuracy .binary64 .positive ((n <<< 53) * 1) (-53) .exact := by
      rw [ofScientific, dif_neg nonzero, if_neg (by decide), if_neg, if_pos (by decide), mul]
      · rfl
      · show ¬ (0 : Int) < -(2048 + (n.log2 : Int))
        omega
    show Within 971 (ofScientific .binary64 n 0)
    rw [same, Nat.mul_one]
    -- With a literal exponent the rounding would be evaluated to compare the statements.
    generalize exponent : (-53 : Int) = e
    refine within_roundWithAccuracy (by omega) ?_ (by decide) _ _
    simp only [totalExponent]
    omega

theorem isFinite_ofInt {i : Int} (least : -2 ^ 64 < i) (most : i < 2 ^ 64) : (Float.ofInt i).isFinite = true := by
  cases i with
  | ofNat n => exact isFinite_ofNat (Int.ofNat_lt.1 most)
  | negSucc n =>
    have size : n + 1 < 2 ^ 64 := by omega
    exact isFinite_neg (isFinite_ofNat size)

end Binary

end StoryGraph
