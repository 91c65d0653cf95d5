import StoryGraph.Handler.Action
import StoryGraph.Proofs.Number.Range

/-!
What is taken and given in amounts. From numbers that are not negative, what is there is taken as it is, and no gain
is lost but above the greatest health.
-/

namespace StoryGraph

theorem Whole.toInt_max_zero (a : Int64) : 0 ≤ (max a 0).toInt := by
  rw [toInt_max]
  exact Int.le_max_right _ _

namespace Act

variable {health gold amount : Int64}

theorem toInt_lower_nonneg : 0 ≤ (lower health amount).toInt := Whole.toInt_max_zero _

theorem toInt_lower (h : 0 ≤ health.toInt) :
    (lower health amount).toInt = max (health.toInt - max amount.toInt 0) 0 := by
  have least := Int64.minValue_le_toInt 0
  have greatest := health.toInt_le
  simp only [Int64.toInt_zero] at least
  simp only [lower, Whole.toInt_max, Whole.toInt_minus, Whole.nearest, Int64.toInt_zero]
  omega

theorem toInt_spend (h : 0 ≤ gold.toInt) (enough : ¬ gold < amount) :
    (Whole.minus gold (max amount 0)).toInt = gold.toInt - max amount.toInt 0 := by
  rw [Int64.lt_iff_toInt_lt] at enough
  have nonneg : (0 : Int64).toInt ≤ gold.toInt - max amount.toInt 0 := by
    rw [Int64.toInt_zero]
    omega
  rw [Whole.toInt_minus, Whole.toInt_max, Int64.toInt_zero, Whole.nearest_of_between nonneg (b := gold) (by omega)]

/-- A gain is taken as it is, up to the greatest health: what lies beyond the 64 bits lies beyond that as well. -/
theorem toInt_raise (health amount greatest : Int64) :
    (raise health amount greatest).toInt = min (health.toInt + max amount.toInt 0) greatest.toInt := by
  have least := health.minValue_le_toInt
  have greatest_le := greatest.toInt_le
  simp only [raise, Whole.toInt_min, Whole.toInt_plus, Whole.toInt_max, Int64.toInt_zero, Whole.nearest]
  omega

end Act

end StoryGraph
