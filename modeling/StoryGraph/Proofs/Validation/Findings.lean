import StoryGraph.Validation.Findings

/-!
What the list of findings holds: what is found at each node and at each connection, judged with those
before it, and the cycles.
-/

namespace StoryGraph

namespace Graph

variable {g : Graph} {handled : NodeType → Bool}

theorem mem_findingsAlong {α : Type} {check : List α → α → List Finding} {f : Finding} {earlier l : List α} :
    f ∈ findingsAlong check earlier l ↔
      ∃ before a after, l = before ++ a :: after ∧ f ∈ check (earlier ++ before) a := by
  induction l generalizing earlier with
  | nil => simp [findingsAlong]
  | cons b rest ih =>
    rw [findingsAlong, List.mem_append, ih]
    constructor
    · rintro (h | ⟨before, a, after, rfl, h⟩)
      · exact ⟨[], b, rest, rfl, by simpa using h⟩
      · exact ⟨b :: before, a, after, rfl, by simpa using h⟩
    · rintro ⟨before, a, after, hl, h⟩
      cases before with
      | nil =>
        obtain ⟨rfl, rfl⟩ := List.cons.inj hl
        exact .inl (by simpa using h)
      | cons c before =>
        obtain ⟨rfl, rfl⟩ := List.cons.inj hl
        exact .inr ⟨before, a, after, rfl, by simpa using h⟩

theorem cycle_not_mem_nodeFindings {earlier : List Node} {n : Node} {id : String} :
    .cycle id ∉ nodeFindings handled earlier n := by
  simp only [nodeFindings, List.mem_append]
  rintro ((h | h) | h) <;> repeat' split at h
  all_goals simp at h

theorem cycle_not_mem_connectionFindings {earlier : List Connection} {c : Connection} {id : String} :
    .cycle id ∉ g.connectionFindings earlier c := by
  simp only [connectionFindings, List.mem_append]
  rintro (((h | h) | h) | h) <;> repeat' split at h
  all_goals simp at h

theorem cycle_mem_findings {id : String} : .cycle id ∈ g.findings handled ↔ id ∈ g.cycles := by
  simp [findings, mem_findingsAlong, cycle_not_mem_nodeFindings, cycle_not_mem_connectionFindings]

theorem mem_findings_of_node {earlier later : List Node} {n : Node} {f : Finding}
    (here : g.nodes = earlier ++ n :: later) (h : f ∈ nodeFindings handled earlier n) :
    f ∈ g.findings handled := by
  have along : f ∈ findingsAlong (nodeFindings handled) [] g.nodes :=
    mem_findingsAlong.2 ⟨earlier, n, later, here, h⟩
  simp [findings, along]

end Graph

end StoryGraph
