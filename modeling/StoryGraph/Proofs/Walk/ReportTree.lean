import StoryGraph.Walk.Report

/-!
Reports as trees: the walks that lie some levels below the first ones, and how many walks there are in all.
-/

namespace StoryGraph

namespace WalkReport

/-- The walks that lie this many levels below the given ones. -/
def level : Nat → List WalkReport → List WalkReport
  | 0, l => l
  | k + 1, l => (level k l).flatMap nested

theorem mem_level_succ {k : Nat} {l : List WalkReport} {x : WalkReport} :
    x ∈ level (k + 1) l ↔ ∃ y ∈ level k l, x ∈ y.nested := by
  simp [level]

theorem level_succ (k : Nat) (l : List WalkReport) : level (k + 1) l = level k (l.flatMap nested) := by
  induction k with
  | zero => rfl
  | succ k ih => rw [level, ih, level]

theorem level_append (k : Nat) (a b : List WalkReport) : level k (a ++ b) = level k a ++ level k b := by
  induction k with
  | zero => rfl
  | succ k ih => simp only [level, ih, List.flatMap_append]

mutual

theorem exists_level_of_mem_all {x : WalkReport} : ∀ r, x ∈ all r → ∃ k, x ∈ level k [r]
  | mk g e s n l, h => by
    rw [all, List.mem_cons] at h
    rcases h with rfl | within
    · exact ⟨0, List.mem_singleton.2 rfl⟩
    · obtain ⟨k, hk⟩ := exists_level_of_mem_allOf l within
      exact ⟨k + 1, by simpa [level_succ, nested] using hk⟩

theorem exists_level_of_mem_allOf {x : WalkReport} : ∀ l, x ∈ allOf l → ∃ k, x ∈ level k l
  | [], h => by simp [allOf] at h
  | r :: rest, h => by
    rw [allOf, List.mem_append] at h
    rw [← List.singleton_append]
    simp only [level_append, List.mem_append]
    rcases h with here | later
    · exact (exists_level_of_mem_all r here).imp fun _ => .inl
    · exact (exists_level_of_mem_allOf rest later).imp fun _ => .inr

end

theorem all_eq (x : WalkReport) : x.all = x :: allOf x.nested := by
  cases x
  rw [all, nested]

theorem allOf_eq_flatMap (l : List WalkReport) : allOf l = l.flatMap all := by
  induction l with
  | nil => rfl
  | cons x rest ih => rw [allOf, ih, List.flatMap_cons]

theorem length_allOf_le {l : List WalkReport} {size : Nat} (h : ∀ x ∈ l, (all x).length ≤ size) :
    (allOf l).length ≤ l.length * size := by
  induction l with
  | nil => simp [allOf]
  | cons r rest ih =>
    have here := h r List.mem_cons_self
    have later := ih fun x hx => h x (List.mem_cons_of_mem _ hx)
    rw [allOf, List.length_append, List.length_cons, Nat.succ_mul]
    omega

end WalkReport

end StoryGraph
