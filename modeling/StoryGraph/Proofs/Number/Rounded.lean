import StoryGraph.Proofs.Number.Finite
import StoryGraph.Proofs.Number.Order

/-!
Whole numbers as floats. Main statement: the float of a whole number stands for the nearest one of 53 bits, so floats
of whole numbers are ordered as those are.
-/

namespace StoryGraph

namespace Binary

open Float.Model (UnpackedFloat Format totalExponent)
open Float.Model.UnpackedFloat

/-- The nearest whole number to a quotient; of two, the even one. -/
def nearestQuotient (m d : Nat) : Nat :=
  if 2 * (m % d) < d then m / d
  else if d < 2 * (m % d) then m / d + 1
  else m / d + m / d % 2

theorem nearestQuotient_mem (m d : Nat) : m / d ≤ nearestQuotient m d ∧ nearestQuotient m d ≤ m / d + 1 := by
  rw [nearestQuotient]
  split
  · omega
  · split <;> omega

theorem nearestQuotient_mono {m n d : Nat} (order : m ≤ n) : nearestQuotient m d ≤ nearestQuotient n d := by
  have parts := Nat.div_add_mod m d
  have parts' := Nat.div_add_mod n d
  cases Nat.lt_or_eq_of_le (Nat.div_le_div_right (c := d) order) with
  | inl less =>
    have above := (nearestQuotient_mem m d).2
    have below := (nearestQuotient_mem n d).1
    omega
  | inr same =>
    have rest : m % d ≤ n % d := by
      rw [same] at parts
      omega
    simp only [nearestQuotient, same]
    split_ifs <;> omega

theorem nearestQuotient_mul (m : Nat) {d c : Nat} (hc : 0 < c) :
    nearestQuotient (m * c) (d * c) = nearestQuotient m d := by
  have scaled (a b : Nat) : a * c < b * c ↔ a < b := Nat.mul_lt_mul_right hc
  simp only [nearestQuotient, Nat.mul_div_mul_right _ _ hc, Nat.mul_mod_mul_right, ← Nat.mul_assoc, scaled]

theorem nearestQuotient_one (m : Nat) : nearestQuotient m 1 = m := by
  simp [nearestQuotient, Nat.mod_one]

/-! Rounding. -/

/-- The two bits that follow the mantissa tell on which side of the half the rest lies. -/
theorem shiftRight_bits (m k : Nat) :
    ((ExtendedMantissa.ofMantissaAndAccuracy m .exact >>> k).roundBit = true ↔ 2 ^ k ≤ 2 * (m % 2 ^ k)) ∧
    ((ExtendedMantissa.ofMantissaAndAccuracy m .exact >>> k).stickyBit = true ↔
      m % 2 ^ k ≠ 0 ∧ 2 * (m % 2 ^ k) ≠ 2 ^ k) := by
  induction k with
  | zero =>
    show (false = true ↔ _) ∧ (false = true ↔ _)
    simp [Nat.mod_one]
  | succ k ih =>
    have step : ExtendedMantissa.ofMantissaAndAccuracy m .exact >>> (k + 1) =
        (ExtendedMantissa.ofMantissaAndAccuracy m .exact >>> k).shiftRightOne := rfl
    have mantissa : (ExtendedMantissa.ofMantissaAndAccuracy m .exact >>> k).mantissa = m / 2 ^ k :=
      mantissa_shiftRight _ k
    have rest : m % (2 ^ k * 2) = m % 2 ^ k + 2 ^ k * (m / 2 ^ k % 2) := Nat.mod_mul
    have below : m % 2 ^ k < 2 ^ k := Nat.mod_lt _ (Nat.two_pow_pos k)
    rw [step]
    simp only [ExtendedMantissa.shiftRightOne, mantissa, bne_iff_ne, Bool.or_eq_true, ih, Nat.pow_succ, rest]
    obtain even | odd := Nat.mod_two_eq_zero_or_one (m / 2 ^ k)
    · rw [even]
      omega
    · rw [odd]
      omega

theorem roundedMantissa_shiftRight (m k : Nat) :
    (ExtendedMantissa.ofMantissaAndAccuracy m .exact >>> k).roundedMantissa = nearestQuotient m (2 ^ k) := by
  have mantissa : (ExtendedMantissa.ofMantissaAndAccuracy m .exact >>> k).mantissa = m / 2 ^ k := mantissa_shiftRight _ k
  have positive := Nat.two_pow_pos k
  obtain ⟨half, rest⟩ := shiftRight_bits m k
  cases shifted : ExtendedMantissa.ofMantissaAndAccuracy m .exact >>> k with
  | mk q roundBit stickyBit =>
    rw [shifted] at mantissa half rest
    rw [nearestQuotient, ← mantissa]
    cases roundBit <;> cases stickyBit <;>
      simp only [ExtendedMantissa.roundedMantissa, ExtendedMantissa.accuracy, Accuracy.roundToNearestEven,
        Bool.false_eq_true, false_iff, true_iff] at half rest ⊢
    · rw [if_pos (by omega)]
    · rw [if_pos (by omega)]
    · rw [if_neg (by omega), if_neg (by omega)]
    · rw [if_neg (by omega), if_pos (by omega)]

/-- A long mantissa is cut to 53 bits, or rounded up to the power of two that comes next. -/
theorem nearestQuotient_range {m : Nat} (long : 52 ≤ m.log2) :
    2 ^ 52 ≤ nearestQuotient m (2 ^ (m.log2 - 52)) ∧ nearestQuotient m (2 ^ (m.log2 - 52)) ≤ 2 ^ 53 := by
  have nonzero : m ≠ 0 := by
    intro zero
    simp [zero] at long
  obtain ⟨lower, upper⟩ := nearestQuotient_mem m (2 ^ (m.log2 - 52))
  have positive := Nat.two_pow_pos (m.log2 - 52)
  constructor
  · refine Nat.le_trans ?_ lower
    rw [Nat.le_div_iff_mul_le positive, ← Nat.pow_add, Nat.add_sub_cancel' long]
    exact Nat.log2_self_le nonzero
  · have total : 53 + (m.log2 - 52) = m.log2 + 1 := by omega
    refine Nat.le_trans upper (Nat.succ_le_of_lt ?_)
    rw [Nat.div_lt_iff_lt_mul positive, ← Nat.pow_add, total]
    exact Nat.lt_log2_self

/-- A mantissa of full length is kept, and the power of two that comes next loses its last bit. -/
theorem carried {r : Nat} (lower : 2 ^ 52 ≤ r) (upper : r ≤ 2 ^ 53) :
    (r / 2 ^ (r.log2 - 52)).log2 = 52 ∧ r / 2 ^ (r.log2 - 52) * 2 ^ (r.log2 - 52) = r ∧ 52 ≤ r.log2 ∧ r.log2 ≤ 53 := by
  by_cases last : r = 2 ^ 53
  · rw [last, Nat.log2_two_pow]
    decide
  · have full : r.log2 = 52 := (Nat.log2_eq_iff (by omega)).2 ⟨lower, by omega⟩
    simp [full]

/-- A mantissa that is long enough is rounded to the nearest one of full length. -/
theorem roundWithAccuracy_nearest {m : Nat} {e : Int} (long : 52 ≤ m.log2) (least : -1074 ≤ e) (s : Sign) :
    ∃ m' e' hm, roundWithAccuracy .binary64 s m e .exact = .finite s m' e' hm ∧ m'.log2 = 52 ∧ e ≤ e' ∧
      e' ≤ e + m.log2 - 51 ∧
      (m' : ℚ) * 2 ^ e' = nearestQuotient m (2 ^ (m.log2 - 52)) * 2 ^ (m.log2 - 52) * 2 ^ e := by
  generalize amount : m.log2 - 52 = k
  have shifted := shiftToTargetExponent_eq long least .exact
  rw [amount] at shifted
  have range := nearestQuotient_range long
  rw [amount] at range
  obtain ⟨lower, upper⟩ := range
  generalize rounded : nearestQuotient m (2 ^ k) = r at lower upper ⊢
  obtain ⟨full, exact, long', short'⟩ := carried lower upper
  have shifted' := shiftToTargetExponent_eq long' (by omega : -1074 ≤ e + (k : Int)) .exact
  have kept : (ExtendedMantissa.ofMantissaAndAccuracy r .exact >>> (r.log2 - 52)).mantissa = r / 2 ^ (r.log2 - 52) :=
    mantissa_shiftRight _ _
  generalize r / 2 ^ (r.log2 - 52) = q at full exact kept
  have nonzero' : q ≠ 0 := by
    intro zero
    simp [zero] at full
  refine ⟨q, e + k + (r.log2 - 52 : Nat), Nat.pos_of_ne_zero nonzero', ?_, full, by omega, by omega, ?_⟩
  · simp only [roundWithAccuracy, shifted, roundedMantissa_shiftRight, rounded, shifted', kept, dif_neg nonzero']
  · have sizes : (q : ℚ) * 2 ^ (r.log2 - 52) = r := by exact_mod_cast exact
    rw [zpow_add₀ two_ne_zero, zpow_add₀ two_ne_zero, zpow_natCast, zpow_natCast, ← sizes]
    ring

/-! The size of what is rounded. -/

/-- Zero, or a mantissa of full length with an exponent in range, of this size. -/
def Stands (q : ℚ) : UnpackedFloat → Prop
  | .zero _ => q = 0
  | .finite s m e _ => m.log2 = 52 ∧ -1074 ≤ e ∧ e ≤ 971 ∧ (s.apply m : ℚ) * 2 ^ e = q
  | .infinity _ | .notANumber => False

theorem size_lt {m m' : Nat} {e e' : Int} (full : m.log2 = 52) (full' : m'.log2 = 52) (less : e < e') :
    (m : ℚ) * 2 ^ e < m' * 2 ^ e' := by
  have nonzero : m' ≠ 0 := by
    intro zero
    simp [zero] at full'
  have short : m < 2 ^ 53 := Nat.lt_of_lt_of_eq Nat.lt_log2_self (by rw [full])
  have long : 2 ^ 52 ≤ m' := (Nat.le_log2 nonzero).1 (by omega)
  calc (m : ℚ) * 2 ^ e < 2 ^ 53 * 2 ^ e := by gcongr; exact_mod_cast short
    _ = 2 ^ 52 * 2 ^ (e + 1) := by rw [zpow_add₀ two_ne_zero]; ring
    _ ≤ m' * 2 ^ e' := by
      gcongr
      · exact_mod_cast long
      · norm_num
      · omega

/-- Mantissas of full length are ordered by the exponent first. -/
theorem compare_full {m m' : Nat} {e e' : Int} (full : m.log2 = 52) (full' : m'.log2 = 52) :
    (compare e e').then (compare m m') = compare ((m : ℚ) * 2 ^ e) (m' * 2 ^ e') := by
  obtain less | rfl | less := lt_trichotomy e e'
  · rw [compare_lt_iff_lt.2 less, compare_lt_iff_lt.2 (size_lt full full' less)]
    rfl
  · have positive : (0 : ℚ) < 2 ^ e := by positivity
    obtain less | rfl | less := lt_trichotomy m m'
    · have size : (m : ℚ) * 2 ^ e < m' * 2 ^ e := by gcongr
      rw [compare_eq_iff_eq.2 rfl, compare_lt_iff_lt.2 less, compare_lt_iff_lt.2 size]
      rfl
    · simp
    · have size : (m' : ℚ) * 2 ^ e < m * 2 ^ e := by gcongr
      rw [compare_eq_iff_eq.2 rfl, compare_gt_iff_gt.2 less, compare_gt_iff_gt.2 size]
      rfl
  · rw [compare_gt_iff_gt.2 less, compare_gt_iff_gt.2 (size_lt full' full less)]
    rfl

theorem compare_neg (q r : ℚ) : compare (-q) (-r) = (compare q r).swap := by
  obtain less | rfl | less := lt_trichotomy q r
  · rw [compare_lt_iff_lt.2 less, compare_gt_iff_gt.2 (neg_lt_neg less)]
    rfl
  · rw [compare_eq_iff_eq.2 rfl, compare_eq_iff_eq.2 rfl]
    rfl
  · rw [compare_gt_iff_gt.2 less, compare_lt_iff_lt.2 (neg_lt_neg less)]
    rfl

theorem compare_of_stands {q r : ℚ} {u v : UnpackedFloat} (hu : Stands q u) (hv : Stands r v) :
    u.compare v = some (compare q r) := by
  have size (m : Nat) (e : Int) (hm : 0 < m) : (0 : ℚ) < m * 2 ^ e := by positivity
  cases u with
  | infinity | notANumber => exact hu.elim
  | zero s =>
    obtain rfl : q = 0 := hu
    cases v with
    | infinity | notANumber => exact hv.elim
    | zero s' =>
      obtain rfl : r = 0 := hv
      rw [compare_eq_iff_eq.2 rfl]
      rfl
    | finite s' m' e' hm' =>
      obtain ⟨-, -, -, rfl⟩ := hv
      have above := size m' e' hm'
      cases s' with
      | positive =>
        rw [compare_lt_iff_lt.2 (by simpa [Sign.apply] using above)]
        rfl
      | negative =>
        rw [compare_gt_iff_gt.2 (by simpa [Sign.apply] using above)]
        rfl
  | finite s m e hm =>
    obtain ⟨full, -, -, rfl⟩ := hu
    have above := size m e hm
    cases v with
    | infinity | notANumber => exact hv.elim
    | zero s' =>
      obtain rfl : r = 0 := hv
      cases s with
      | positive =>
        rw [compare_gt_iff_gt.2 (by simpa [Sign.apply] using above)]
        rfl
      | negative =>
        rw [compare_lt_iff_lt.2 (by simpa [Sign.apply] using above)]
        rfl
    | finite s' m' e' hm' =>
      obtain ⟨full', -, -, rfl⟩ := hv
      have above' := size m' e' hm'
      cases s with
      | positive =>
        cases s' with
        | positive => simpa [UnpackedFloat.compare, Sign.apply] using compare_full full full'
        | negative =>
          rw [compare_gt_iff_gt.2 (by simp only [Sign.apply, Int.cast_neg, Int.cast_natCast]; linarith)]
          rfl
      | negative =>
        cases s' with
        | positive =>
          rw [compare_lt_iff_lt.2 (by simp only [Sign.apply, Int.cast_neg, Int.cast_natCast]; linarith)]
          rfl
        | negative =>
          have lexical : (compare e e').then (compare m m') = _ := compare_full full full'
          simp only [UnpackedFloat.compare, lexical, Sign.apply, Int.cast_neg, Int.cast_natCast, neg_mul, compare_neg]

theorem stands_unpack_pack {q : ℚ} {u : UnpackedFloat} (hu : Stands q u) :
    Stands q (unpack .binary64 (pack .binary64 u)) := by
  cases u with
  | infinity | notANumber => exact hu.elim
  | zero s =>
    have same : unpack .binary64 (pack .binary64 (.zero s)) = .zero s := unpack_packedZero
    rwa [same]
  | finite s m e hm =>
    rwa [unpack_pack_full hm hu.1 hu.2.1 hu.2.2.1]

theorem stands_neg {q : ℚ} {x : Float} (hx : Stands q x.toModel.unpack) : Stands (-q) (-x).toModel.unpack := by
  refine stands_unpack_pack (u := neg x.toModel.unpack) ?_
  cases unpacked : x.toModel.unpack with
  | infinity | notANumber =>
    rw [unpacked] at hx
    exact hx.elim
  | zero s =>
    rw [unpacked] at hx
    obtain rfl : q = 0 := hx
    exact neg_zero
  | finite s m e hm =>
    rw [unpacked] at hx
    obtain ⟨full, least, most, rfl⟩ := hx
    refine ⟨full, least, most, ?_⟩
    cases s with
    | positive =>
      show ((-m : ℤ) : ℚ) * 2 ^ e = -((m : ℤ) * 2 ^ e)
      rw [Int.cast_neg, neg_mul]
    | negative =>
      show ((m : ℤ) : ℚ) * 2 ^ e = -((-m : ℤ) * 2 ^ e)
      rw [Int.cast_neg, neg_mul, neg_neg]

theorem stands_round {m : Nat} {e : Int} (long : 52 ≤ m.log2) (least : -1074 ≤ e) (most : e + m.log2 ≤ 1022) :
    Stands (nearestQuotient m (2 ^ (m.log2 - 52)) * 2 ^ (m.log2 - 52) * 2 ^ e)
      (roundWithAccuracy .binary64 .positive m e .exact) := by
  obtain ⟨m', e', hm, rounded, full, lower, upper, size⟩ := roundWithAccuracy_nearest long least .positive
  rw [rounded]
  refine ⟨full, by omega, by omega, ?_⟩
  rw [← size]
  rfl

theorem roundWithAccuracy_full {s : Sign} {m : Nat} {e : Int} (hm : 0 < m) (full : m.log2 = 52) (least : -1074 ≤ e) :
    roundWithAccuracy .binary64 s m e .exact = .finite s m e hm := by
  have shifted : shiftToTargetExponent .binary64 m e .exact = (⟨m, false, false⟩, e) := by
    rw [shiftToTargetExponent_eq (by omega) least, full]
    simp only [Nat.sub_self, Int.natCast_zero, Int.add_zero]
    rfl
  have kept : (⟨m, false, false⟩ : ExtendedMantissa).roundedMantissa = m := rfl
  simp only [roundWithAccuracy, shifted, kept, dif_neg (Nat.ne_of_gt hm)]

/-! Whole numbers. -/

theorem log2_mul_two_pow {n : Nat} (nonzero : n ≠ 0) (k : Nat) : (n * 2 ^ k).log2 = n.log2 + k := by
  have positive := Nat.two_pow_pos k
  refine (Nat.log2_eq_iff (Nat.mul_ne_zero nonzero (by omega))).2 ⟨?_, ?_⟩
  · rw [Nat.pow_add]
    exact Nat.mul_le_mul_right _ (Nat.log2_self_le nonzero)
  · rw [Nat.add_right_comm, Nat.pow_add]
    exact Nat.mul_lt_mul_of_pos_right Nat.lt_log2_self positive

/-- A whole number of at most 53 bits is a float. -/
theorem unpack_toFloat {n : Nat} (nonzero : n ≠ 0) (short : n < 2 ^ 53) :
    ∃ hm, n.toUInt64.toFloat.toModel.unpack = .finite .positive (n * 2 ^ (52 - n.log2)) (n.log2 - 52) hm := by
  have bits : n.log2 ≤ 52 := log2_le_of_lt short
  have full : (n * 2 ^ (52 - n.log2)).log2 = 52 := by
    rw [log2_mul_two_pow nonzero]
    omega
  have positive : 0 < n * 2 ^ (52 - n.log2) := Nat.mul_pos (by omega) (Nat.two_pow_pos _)
  refine ⟨positive, ?_⟩
  have size : n.toUInt64.toNat = n := by
    show n % 2 ^ 64 = n
    omega
  have rounded : ofUInt64 .binary64 n.toUInt64 =
      .finite .positive (n * 2 ^ (52 - n.log2)) (n.log2 - 52) positive := by
    have shift : ((0 : Int) - Format.binary64.targetExponent (totalExponent n 0)).toNat = 52 - n.log2 := by
      simp only [Format.targetExponent, Format.minExponent, Format.mantissaBits, totalExponent]
      omega
    have above : compare (n : Int) 0 = .gt := compare_gt_iff_gt.2 (by omega)
    have exponent : (0 : Int) - (52 - n.log2 : Nat) = n.log2 - 52 := by omega
    simp only [ofUInt64, ofNat, ofInt, size, Float.Model.UnpackedFloat.normalize, above, Int.toNat_natCast,
      Float.Model.UnpackedFloat.round, decreaseExponent, shift, Nat.shiftLeft_eq, exponent]
    exact roundWithAccuracy_full positive full (by omega)
  show unpack .binary64 (pack .binary64 (ofUInt64 .binary64 n.toUInt64)) = _
  rw [rounded]
  exact unpack_pack_full positive full (by omega) (by omega)

/-- The nearest whole number of at most 53 bits; of two, the one with the even last bit. -/
def rounded (n : Nat) : Nat := nearestQuotient n (2 ^ (n.log2 - 52)) * 2 ^ (n.log2 - 52)

theorem rounded_of_short {n : Nat} (short : n < 2 ^ 53) : rounded n = n := by
  have bits : n.log2 - 52 = 0 := Nat.sub_eq_zero_of_le (log2_le_of_lt short)
  rw [rounded, bits, Nat.pow_zero, nearestQuotient_one, Nat.mul_one]

theorem stands_rounded {n k : Nat} (nonzero : n ≠ 0) (long : 52 ≤ n.log2 + k) (least : k ≤ 1074) (most : n.log2 ≤ 1022) :
    Stands (rounded n) (roundWithAccuracy .binary64 .positive (n * 2 ^ k) (-k) .exact) := by
  have bits := log2_mul_two_pow nonzero k
  have size : (nearestQuotient (n * 2 ^ k) (2 ^ (n.log2 + k - 52)) : ℚ) * 2 ^ (n.log2 + k - 52) * 2 ^ (-k : ℤ) =
      rounded n := by
    have cancels : (2 : ℚ) ^ k * 2 ^ (-k : ℤ) = 1 := by
      rw [zpow_neg, zpow_natCast, mul_inv_cancel₀ (by positivity)]
    by_cases short : n.log2 < 52
    · generalize total : n.log2 + k - 52 = i
      have parts : 52 - n.log2 + i = k := by omega
      have exact : nearestQuotient (n * 2 ^ k) (2 ^ i) = n * 2 ^ (52 - n.log2) := by
        have scaled := nearestQuotient_mul (n * 2 ^ (52 - n.log2)) (d := 1) (Nat.two_pow_pos i)
        rwa [Nat.one_mul, nearestQuotient_one, Nat.mul_assoc, ← Nat.pow_add, parts] at scaled
      rw [exact, rounded_of_short ((Nat.log2_lt nonzero).1 (by omega)), Nat.cast_mul, Nat.cast_pow, Nat.cast_ofNat,
        mul_assoc (n : ℚ), ← pow_add, parts, mul_assoc, cancels, mul_one]
    · have same : n.log2 + k - 52 = n.log2 - 52 + k := by omega
      rw [same, Nat.pow_add, nearestQuotient_mul n (Nat.two_pow_pos k), rounded, pow_add, Nat.cast_mul, Nat.cast_pow,
        Nat.cast_ofNat, ← mul_assoc, mul_assoc (_ * _), cancels, mul_one]
  have stands := stands_round (m := n * 2 ^ k) (e := -k) (by omega) (by omega) (by omega)
  rwa [bits, size] at stands

theorem stands_ofNat {n : Nat} (h : n < 2 ^ 64) : Stands (rounded n) (Float.ofNat n).toModel.unpack := by
  by_cases zero : n = 0
  · subst zero
    exact Nat.cast_zero
  show Stands (rounded n) (Float.ofScientific n false 0).toModel.unpack
  unfold Float.ofScientific
  split
  -- A number of 53 bits is multiplied by one, as the power of ten that it comes with.
  case isTrue exact =>
    obtain ⟨hm, factor⟩ := unpack_toFloat zero exact.1
    have bits : n.log2 ≤ 52 := log2_le_of_lt exact.1
    have one : (Float.ofBits 0x3FF0000000000000).toModel.unpack = .finite .positive (2 ^ 52) (-52) (by decide) := rfl
    show Stands _ (n.toUInt64.toFloat * Float.ofBits 0x3FF0000000000000).toModel.unpack
    refine stands_unpack_pack (u := mul .binary64 n.toUInt64.toFloat.toModel.unpack
      (Float.ofBits 0x3FF0000000000000).toModel.unpack) ?_
    have stands := stands_rounded (k := 104 - n.log2) zero (by omega) (by omega) (by omega)
    have mantissa : n * 2 ^ (104 - n.log2) = n * 2 ^ (52 - n.log2) * 2 ^ 52 := by
      rw [Nat.mul_assoc, ← Nat.pow_add]
      congr 2
      omega
    have exponent : (-(104 - n.log2 : Nat) : ℤ) = n.log2 - 52 + -52 := by omega
    rw [mantissa, exponent] at stands
    rw [factor, one]
    exact stands
  case isFalse above =>
    have long : 53 ≤ n.log2 := (Nat.le_log2 zero).2 (by omega)
    have short : n.log2 ≤ 63 := log2_le_of_lt h
    have same : ofScientific .binary64 n 0 = roundWithAccuracy .binary64 .positive ((n <<< 53) * 1) (-53) .exact := by
      rw [ofScientific, dif_neg zero, if_neg (by decide), if_neg, if_pos (by decide), mul]
      · rfl
      · show ¬ (0 : Int) < -(2048 + (n.log2 : Int))
        omega
    have stands := stands_rounded (k := 53) zero (by omega) (by omega) (by omega)
    refine stands_unpack_pack (u := ofScientific .binary64 n 0) ?_
    rw [same, Nat.mul_one, Nat.shiftLeft_eq]
    exact stands

theorem rounded_range {n : Nat} (nonzero : n ≠ 0) : 2 ^ n.log2 ≤ rounded n ∧ rounded n ≤ 2 ^ (n.log2 + 1) := by
  by_cases short : n < 2 ^ 53
  · rw [rounded_of_short short]
    exact ⟨Nat.log2_self_le nonzero, Nat.le_of_lt Nat.lt_log2_self⟩
  · have long : 53 ≤ n.log2 := (Nat.le_log2 nonzero).2 (by omega)
    obtain ⟨lower, upper⟩ := nearestQuotient_range (by omega : 52 ≤ n.log2)
    have lower' := Nat.mul_le_mul_right (2 ^ (n.log2 - 52)) lower
    have upper' := Nat.mul_le_mul_right (2 ^ (n.log2 - 52)) upper
    have total : 53 + (n.log2 - 52) = n.log2 + 1 := by omega
    rw [← Nat.pow_add, Nat.add_sub_cancel' (by omega)] at lower'
    rw [← Nat.pow_add, total] at upper'
    exact ⟨lower', upper'⟩

theorem rounded_mono {m n : Nat} (order : m ≤ n) : rounded m ≤ rounded n := by
  by_cases zero : m = 0
  · subst zero
    exact Nat.zero_le _
  cases Nat.lt_or_eq_of_le (log2_mono order) with
  | inl less =>
    calc rounded m ≤ 2 ^ (m.log2 + 1) := (rounded_range zero).2
      _ ≤ 2 ^ n.log2 := Nat.pow_le_pow_right (by decide) less
      _ ≤ rounded n := (rounded_range (by omega)).1
  | inr same =>
    rw [rounded, rounded, same]
    exact Nat.mul_le_mul_right _ (nearestQuotient_mono order)

end Binary

namespace Whole

open Binary (Stands)

/-- The nearest integer of at most 53 bits; of two, the one with the even last bit. -/
def rounded (i : Int) : Int := i.sign * Binary.rounded i.natAbs

theorem rounded_natCast (n : Nat) : rounded n = Binary.rounded n := by
  cases n with
  | zero => rfl
  | succ n => rw [rounded, Int.natAbs_natCast, Int.sign_natCast_of_ne_zero (Nat.succ_ne_zero n), Int.one_mul]

theorem rounded_neg (i : Int) : rounded (-i) = -rounded i := by
  rw [rounded, rounded, Int.sign_neg, Int.natAbs_neg, Int.neg_mul]

theorem rounded_of_short {i : Int} (least : -2 ^ 53 ≤ i) (most : i ≤ 2 ^ 53) : rounded i = i := by
  have short {n : Nat} (most : n ≤ 2 ^ 53) : Binary.rounded n = n := by
    cases Nat.lt_or_eq_of_le most with
    | inl less => exact Binary.rounded_of_short less
    | inr same =>
      subst same
      decide
  obtain ⟨n, rfl | rfl⟩ := i.eq_nat_or_neg
  · rw [rounded_natCast, short (by omega)]
  · rw [rounded_neg, rounded_natCast, short (by omega)]

theorem rounded_mono {i j : Int} (order : i ≤ j) : rounded i ≤ rounded j := by
  obtain ⟨m, rfl | rfl⟩ := i.eq_nat_or_neg <;> obtain ⟨n, rfl | rfl⟩ := j.eq_nat_or_neg <;>
    simp only [rounded_neg, rounded_natCast]
  · have less := Binary.rounded_mono (Int.ofNat_le.1 order)
    omega
  · obtain ⟨rfl, rfl⟩ : m = 0 ∧ n = 0 := by omega
    exact Int.le_refl 0
  · omega
  · have less := Binary.rounded_mono (by omega : n ≤ m)
    omega

theorem rounded_eq_zero_iff {i : Int} : rounded i = 0 ↔ i = 0 := by
  constructor
  · intro none_left
    by_contra nonzero
    have positive : 0 < Binary.rounded i.natAbs :=
      Nat.lt_of_lt_of_le (Nat.two_pow_pos _) (Binary.rounded_range (Int.natAbs_ne_zero.2 nonzero)).1
    cases Int.mul_eq_zero.1 none_left with
    | inl sign => exact nonzero (Int.sign_eq_zero_iff_zero.1 sign)
    | inr size => omega
  · rintro rfl
    rfl

theorem stands_ofInt {i : Int} (least : -2 ^ 64 < i) (most : i < 2 ^ 64) :
    Stands (rounded i) (Float.ofInt i).toModel.unpack := by
  cases i with
  | ofNat n =>
    have stands := Binary.stands_ofNat (Int.ofNat_lt.1 most)
    have same : rounded (.ofNat n) = Binary.rounded n := rounded_natCast n
    rw [same]
    exact_mod_cast stands
  | negSucc n =>
    have stands := Binary.stands_neg (Binary.stands_ofNat (by omega : n + 1 < 2 ^ 64))
    have same : rounded (-(n + 1 : Nat)) = -Binary.rounded (n + 1) := by rw [rounded_neg, rounded_natCast]
    rw [Int.negSucc_eq, ← Int.natCast_succ, same]
    exact_mod_cast stands

/-- The floats of two whole numbers are ordered as the nearest integers of 53 bits. -/
theorem compareFloats_toFloat (a b : Int64) :
    Value.compareFloats (toFloat a) (toFloat b) = some (compare (rounded a.toInt) (rounded b.toInt)) := by
  have stands (a : Int64) : Stands (rounded a.toInt) (toFloat a).toModel.unpack := by
    have least := a.le_toInt
    have most := a.toInt_lt
    exact stands_ofInt (by omega) (by omega)
  rw [Value.compareFloats_eq, Binary.compare_of_stands (stands a) (stands b)]
  obtain less | same | less := lt_trichotomy (rounded a.toInt) (rounded b.toInt)
  · rw [compare_lt_iff_lt.2 less, compare_lt_iff_lt.2 (Int.cast_lt.2 less)]
  · rw [same, compare_eq_iff_eq.2 rfl, compare_eq_iff_eq.2 rfl]
  · rw [compare_gt_iff_gt.2 less, compare_gt_iff_gt.2 (Int.cast_lt.2 less)]

end Whole

end StoryGraph
