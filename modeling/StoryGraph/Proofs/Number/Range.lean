import StoryGraph.Number.Whole

/-!
Whole numbers of 64 bits against the integers. Main statement: sums and differences are the exact ones, moved
into the range of 64 bits, so inside the range nothing is lost and beyond it nothing comes out on the other
side.
-/

namespace StoryGraph.Whole

@[simp] theorem toInt_max (a b : Int64) : (max a b).toInt = max a.toInt b.toInt := by
  show (if a ≤ b then b else a).toInt = _
  simp only [Int64.le_iff_toInt_le]
  split <;> omega

@[simp] theorem toInt_min (a b : Int64) : (min a b).toInt = min a.toInt b.toInt := by
  show (if a ≤ b then a else b).toInt = _
  simp only [Int64.le_iff_toInt_le]
  split <;> omega

@[simp] theorem toInt_clampTo (lo hi a : Int64) (order : lo ≤ hi) :
    (clampTo lo hi a order).toInt = max lo.toInt (min a.toInt hi.toInt) := by
  simp [clampTo]

/-- The number of 64 bits that is nearest to an integer. -/
def nearest (i : Int) : Int := max Int64.minValue.toInt (min i Int64.maxValue.toInt)

/-- An integer between two numbers of 64 bits is one itself. -/
theorem nearest_of_between {i : Int} {a b : Int64} (low : a.toInt ≤ i) (high : i ≤ b.toInt) : nearest i = i := by
  have least := a.minValue_le_toInt
  have greatest := b.toInt_le
  rw [nearest]
  omega

theorem le_nearest {i : Int} {a : Int64} (low : a.toInt ≤ i) : a.toInt ≤ nearest i := by
  have greatest := a.toInt_le
  rw [nearest]
  omega

theorem toInt_ofIntClamp (i : Int) : (Int64.ofIntClamp i).toInt = nearest i := by
  have order : Int64.minValue.toInt ≤ Int64.maxValue.toInt := Int64.minValue.toInt_le
  rw [nearest, Int64.ofIntClamp]
  split
  case isTrue low =>
    split
    case isTrue high =>
      rw [Int64.toInt_ofIntLE]
      omega
    case isFalse => omega
  case isFalse => omega

@[simp] theorem toInt_plus (a b : Int64) : (plus a b).toInt = nearest (a.toInt + b.toInt) := toInt_ofIntClamp _

@[simp] theorem toInt_minus (a b : Int64) : (minus a b).toInt = nearest (a.toInt - b.toInt) := toInt_ofIntClamp _

theorem toInt_next (a : Int64) : (plus a 1).toInt = min (a.toInt + 1) Int64.maxValue.toInt := by
  have least := a.minValue_le_toInt
  have order : Int64.minValue.toInt ≤ Int64.maxValue.toInt := Int64.minValue.toInt_le
  have one : (1 : Int64).toInt = 1 := rfl
  rw [toInt_plus, nearest, one]
  omega

/-- A sum that does not break down is the exact one. -/
theorem toInt_of_add {a b sum : Int64} (h : add a b = .ok sum) : sum.toInt = a.toInt + b.toInt := by
  simp only [add] at h
  split at h
  case isTrue range =>
    cases h
    exact Int64.toInt_ofInt_of_le range.1 (Int.lt_of_le_of_lt range.2 (by decide))
  case isFalse => cases h

end StoryGraph.Whole
