import StoryGraph.Graph.Index
import StoryGraph.Proofs.Table
import StoryGraph.Proofs.Text.Casing

/-!
What the look-ups in a graph answer: a declared node or connection, found without regard to case. Main statement: the
index leads to the first declared node of an id, also where an id is declared twice.
-/

namespace StoryGraph

theorem Connection.leaves_iff {c : Connection} {node port : String} :
    c.leaves node port = true ↔
      Text.fold c.fromNode = Text.fold node ∧ Text.fold c.fromPort = Text.fold port := by
  simp [leaves, Text.sameName_iff]

namespace Graph

variable {g : Graph}

theorem node?_eq_some {id : String} {n : Node} (h : g.node? id = some n) :
    n ∈ g.nodes ∧ Text.fold n.id = Text.fold id := by
  rw [node?] at h
  have same := List.find?_some h
  exact ⟨List.mem_of_find?_eq_some h, Text.sameName_iff.1 same⟩

theorem isSome_node? {id : String} :
    (g.node? id).isSome ↔ Text.fold id ∈ g.nodes.map fun n => Text.fold n.id := by
  simp [node?, Text.sameName_iff]

/-- Names that differ only in case name the same node. -/
theorem node?_congr {a b : String} (h : Text.fold a = Text.fold b) : g.node? a = g.node? b := by
  simp [node?, Text.sameName, h]

theorem connectionFrom?_eq_some {node port : String} {c : Connection} (h : g.connectionFrom? node port = some c) :
    c ∈ g.connections ∧ Text.fold c.fromNode = Text.fold node ∧ Text.fold c.fromPort = Text.fold port := by
  rw [connectionFrom?] at h
  have leaves := List.find?_some h
  exact ⟨List.mem_of_find?_eq_some h, Connection.leaves_iff.1 leaves⟩

/-! The index. -/

theorem get?_note (t : Table String Nat) (e : Node × Nat) (k : String) :
    (note t e).get? k = (t.get? k).or (if Text.fold e.1.id = k then some e.2 else none) := by
  rw [note]
  split
  case h_1 i noted =>
    by_cases same : Text.fold e.1.id = k
    · rw [← same, noted, Option.some_or]
    · rw [if_neg same, Option.or_none]
  case h_2 new =>
    rw [Table.get?_insert]
    by_cases same : Text.fold e.1.id = k
    · rw [if_pos same, if_pos same, ← same, new, Option.none_or]
    · rw [if_neg same, if_neg same, Option.or_none]

/-- What is noted first stays. -/
theorem get?_notes (l : List (Node × Nat)) (t : Table String Nat) (k : String) :
    (l.foldl note t).get? k = (t.get? k).or ((l.find? fun e => Text.fold e.1.id == k).map Prod.snd) := by
  induction l generalizing t with
  | nil => simp
  | cons e rest ih =>
    rw [List.foldl_cons, ih, get?_note, Option.or_assoc]
    by_cases here : Text.fold e.1.id = k
    · simp [here]
    · simp [here]

theorem indexed?_eq_node? (g : Graph) (id : String) : g.indexed? id = g.node? id := by
  have place : g.index.get? (Text.fold id) = g.nodes.findIdx? fun n => Text.sameName n.id id := by
    rw [index, get?_notes, List.findIdx?_eq_fst_find?_zipIdx]
    rfl
  rw [indexed?, place, node?, List.find?_eq_bind_findIdx?_getElem?]

end Graph

end StoryGraph
