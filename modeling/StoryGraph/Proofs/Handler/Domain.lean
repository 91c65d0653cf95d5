import StoryGraph.Handler.Flow
import StoryGraph.Handler.Source

/-!
The operations of built-in handlers that break down outside of their domain, and why they are never
outside of it: two hours of the day do not overflow, a choice is made among ports that are there, and the
bounds of a random number are put in order first.
-/

namespace StoryGraph

namespace Whole

theorem toInt_hourOf (a : Int64) : (hourOf a).toInt = a.toInt % 24 := by
  have low := Int.emod_nonneg a.toInt (b := 24) (by decide)
  have high := Int.emod_lt_of_pos a.toInt (b := 24) (by decide)
  have below : Int64.minValue.toInt ≤ a.toInt % 24 := Int.le_trans (by decide) low
  have above : a.toInt % 24 ≤ Int64.maxValue.toInt := Int.le_trans (Int.le_of_lt high) (by decide)
  exact Int64.toInt_ofInt_of_le below (Int.lt_of_le_of_lt above (by decide))

theorem hourOf_bounds (a : Int64) : 0 ≤ (hourOf a).toInt ∧ (hourOf a).toInt < 24 := by
  rw [toInt_hourOf]
  exact ⟨Int.emod_nonneg _ (by decide), Int.emod_lt_of_pos _ (by decide)⟩

theorem add_eq_ok {a b : Int64} (low : Int64.minValue.toInt ≤ a.toInt + b.toInt)
    (high : a.toInt + b.toInt ≤ Int64.maxValue.toInt) :
    add a b = .ok (Int64.ofInt (a.toInt + b.toInt)) := by
  simp only [add]
  rw [if_pos ⟨low, high⟩]

theorem exists_add_hours (a b : Int64) : ∃ sum, add (hourOf a) (hourOf b) = .ok sum := by
  have ha := hourOf_bounds a
  have hb := hourOf_bounds b
  refine ⟨_, add_eq_ok ?_ ?_⟩
  · exact Int.le_trans (by decide) (Int.add_nonneg ha.1 hb.1)
  · have few : (hourOf a).toInt + (hourOf b).toInt ≤ 48 := by omega
    exact Int.le_trans few (by decide)

end Whole

namespace Draw

theorem below_eq_ok (u : UInt64) {n : Nat} (h : 0 < n) : below u n = .ok (u.toNat % n) := if_pos h

/-- Between bounds in order there is a number, and it is one that is drawn. -/
theorem exists_between (u : UInt64) {lo hi : Int64} (h : lo ≤ hi) :
    ∃ i, between u lo hi = .ok i ∧ lo ≤ i ∧ i ≤ hi := by
  have order : lo.toInt ≤ hi.toInt := Int64.le_iff_toInt_le.1 h
  have numbers : 0 < (hi.toInt - lo.toInt + 1).toNat := by omega
  have step := Nat.mod_lt u.toNat numbers
  have low := Int64.le_toInt lo
  have high := Int64.toInt_lt hi
  have value : (Int64.ofInt (lo.toInt + ↑(u.toNat % (hi.toInt - lo.toInt + 1).toNat))).toInt =
      lo.toInt + ↑(u.toNat % (hi.toInt - lo.toInt + 1).toNat) :=
    Int64.toInt_ofInt_of_le (by omega) (by omega)
  refine ⟨Int64.ofInt (lo.toInt + ↑(u.toNat % (hi.toInt - lo.toInt + 1).toNat)), ?_, ?_, ?_⟩
  · rw [between, below_eq_ok u numbers]
    rfl
  · rw [Int64.le_iff_toInt_le, value]
    omega
  · rw [Int64.le_iff_toInt_le, value]
    omega

/-- Bounds in the wrong order are swapped. -/
theorem exists_within (u : UInt64) (a b : Int64) :
    ∃ i, (if a ≤ b then between u a b else between u b a) = .ok i ∧ min a b ≤ i ∧ i ≤ max a b := by
  show ∃ i, _ ∧ (if a ≤ b then a else b) ≤ i ∧ i ≤ (if a ≤ b then b else a)
  split
  case isTrue order => exact exists_between u order
  case isFalse order => exact exists_between u ((Int64.le_total a b).resolve_left order)

end Draw

theorem Source.exists_randomNumber (c : Call) :
    let a := Bag.getInt c.node.properties "Min" 0
    let b := Bag.getInt c.node.properties "Max" 100
    ∃ i, randomNumber c = .ok (.int i) ∧ min a b ≤ i ∧ i ≤ max a b := by
  intro a b
  obtain ⟨i, drawn, within⟩ := Draw.exists_within (c.draws 0) a b
  exact ⟨i, congrArg (Except.map Value.int) drawn, within⟩

theorem Source.exists_value (t : SourceType) (c : Call) : ∃ v, value t c = .ok v := by
  cases t with
  | randomNumber =>
    obtain ⟨i, drawn, -⟩ := exists_randomNumber c
    exact ⟨.int i, drawn⟩
  | _ => exact ⟨_, rfl⟩

theorem Flow.exists_randomBranch (c : Call) :
    ∃ port ∈ Port.outs, randomBranch c = .ok (.goOn port) := by
  have ports : 0 < Port.outs.length := by decide
  have index : (c.draws 0).toNat % Port.outs.length < Port.outs.length := Nat.mod_lt _ ports
  refine ⟨Port.outs[(c.draws 0).toNat % Port.outs.length], List.getElem_mem index, ?_⟩
  simp only [randomBranch, Draw.below_eq_ok _ ports, bind, Except.bind, List.getElem?_eq_getElem index]

end StoryGraph
