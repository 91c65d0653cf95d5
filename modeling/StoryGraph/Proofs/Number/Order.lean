import Mathlib
import StoryGraph.Value.Compare

/-!
The order of floats. Main statement: what is compared the other way round is in the opposite order.
-/

namespace StoryGraph

namespace Binary

open Float.Model (UnpackedFloat)
open Float.Model.UnpackedFloat

theorem compare_swap (u v : UnpackedFloat) : (u.compare v).map Ordering.swap = v.compare u := by
  cases u with
  | notANumber => cases v <;> rfl
  | infinity s =>
    cases v with
    | notANumber => rfl
    | infinity s' => cases s <;> cases s' <;> rfl
    | zero | finite => cases s <;> rfl
  | zero s =>
    cases v with
    | notANumber | zero => rfl
    | infinity s' | finite s' => cases s' <;> rfl
  | finite s m e hm =>
    cases v with
    | notANumber => rfl
    | infinity s' => cases s' <;> rfl
    | zero => cases s <;> rfl
    | finite s' m' e' hm' =>
      have swapped : ((compare e e').then (compare m m')).swap = (compare e' e).then (compare m' m) := by
        rw [Ordering.swap_then, Int.compare_swap, Nat.compare_swap]
      cases s <;> cases s' <;> simp [UnpackedFloat.compare, swapped]

variable (x y : Float)

theorem beq_iff : (x == y) = true ↔ x.toModel.unpack.compare y.toModel.unpack = some .eq := by
  show x.toModel.unpack.beq y.toModel.unpack = true ↔ _
  exact beq_iff_eq

theorem lt_iff : x < y ↔ x.toModel.unpack.compare y.toModel.unpack = some .lt := by
  show decide (x.toModel.unpack.lt y.toModel.unpack = true) = true ↔ _
  rw [decide_eq_true_iff]
  exact beq_iff_eq

end Binary

namespace Value

variable (x y : Float)

theorem compareFloats_eq : compareFloats x y = x.toModel.unpack.compare y.toModel.unpack := by
  have swapped := Binary.compare_swap x.toModel.unpack y.toModel.unpack
  simp only [compareFloats, Binary.lt_iff, Binary.beq_iff, ← swapped]
  cases x.toModel.unpack.compare y.toModel.unpack with
  | none => simp
  | some o => cases o <;> simp

theorem compareFloats_swap : (compareFloats x y).map Ordering.swap = compareFloats y x := by
  rw [compareFloats_eq, compareFloats_eq, Binary.compare_swap]

theorem compareFloats_eq_iff : compareFloats x y = some .eq ↔ (x == y) = true := by
  rw [compareFloats_eq, Binary.beq_iff]

end Value

end StoryGraph
