import StoryGraph.Proofs.Graph.Lookup
import StoryGraph.Proofs.Validation.Findings

/-!
A graph without the connections that validation flags, at the connection itself or at the node that it
leaves. Main statement: by the ports of a type with a handler, the pruned graph leads on exactly where the
graph leads to a declared node.
-/

namespace StoryGraph

/-- Whether it says that no handler is called at a node. -/
def Finding.isUnhandled : Finding → Bool
  | unknownType .. | noHandler .. => true
  | _ => false

namespace Graph

/-- Drops what is flagged, each element judged by those before it. -/
def unflaggedAlong {α : Type} (flagged : List α → α → Bool) : List α → List α → List α
  | _, [] => []
  | earlier, a :: rest =>
    if flagged earlier a then unflaggedAlong flagged (earlier ++ [a]) rest
    else a :: unflaggedAlong flagged (earlier ++ [a]) rest

/-- Whether anything is found at a connection that follows the connections `earlier`, or the node that it
leaves is found to be unhandled. -/
def flagged (g : Graph) (handled : NodeType → Bool) (earlier : List Connection) (c : Connection) : Bool :=
  !(g.connectionFindings earlier c).isEmpty ||
    (g.node? c.fromNode).any fun n => (nodeFindings handled [] n).any Finding.isUnhandled

/-- The graph without its flagged connections. -/
def pruned (g : Graph) (handled : NodeType → Bool) : Graph :=
  { g with connections := unflaggedAlong (g.flagged handled) [] g.connections }

variable {g : Graph} {handled : NodeType → Bool}

/-- Whether a node is unhandled does not depend on the nodes before it. -/
theorem any_isUnhandled (earlier : List Node) (n : Node) :
    (nodeFindings handled earlier n).any Finding.isUnhandled = !n.kind?.any handled := by
  have duplicate : (if earlier.any fun e => Text.sameName e.id n.id then [Finding.duplicateId n.id]
      else []).any Finding.isUnhandled = false := by
    split <;> rfl
  have clashing (keys : List String) : (if keys.isEmpty then [] else [Finding.clashingKeys n.id keys]).any
      Finding.isUnhandled = false := by
    split <;> rfl
  simp only [nodeFindings, List.any_append, duplicate, clashing, Bool.false_or, Bool.or_false]
  cases n.kind? with
  | none => rfl
  | some t =>
    simp only [Option.any_some]
    cases handled t <;> rfl

theorem find?_unflaggedAlong {α : Type} {flagged : List α → α → Bool} {p good : α → Bool}
    (h : ∀ earlier a, p a = true → flagged earlier a = (!good a || earlier.any p)) (earlier l : List α) :
    (unflaggedAlong flagged earlier l).find? p =
      if earlier.any p then none else (l.find? p).filter good := by
  induction l generalizing earlier with
  | nil => simp [unflaggedAlong]
  | cons a rest ih =>
    have step := ih (earlier ++ [a])
    rw [List.any_append, List.any_cons, List.any_nil, Bool.or_false] at step
    cases pa : p a with
    | false =>
      rw [pa, Bool.or_false] at step
      rw [unflaggedAlong, List.find?_cons_of_neg (by simp [pa]), ← step]
      split
      · rfl
      · exact List.find?_cons_of_neg (by simp [pa])
    | true =>
      -- Once an element counts, those after it are all flagged.
      rw [pa, Bool.or_true, if_pos rfl] at step
      rw [unflaggedAlong, h earlier a pa, List.find?_cons_of_pos pa]
      cases ga : good a <;> cases earlier.any p <;> simp [step, pa, ga, Option.filter]

/-- A connection by a port of a handled type is flagged if it leads nowhere or repeats another. -/
theorem flagged_of_leaves {x port : String} {n : Node} {t : NodeType} (found : g.node? x = some n)
    (type : n.kind? = some t) (known : handled t = true) (listed : port ∈ t.ports) {earlier : List Connection}
    {c : Connection} (leaves : c.leaves n.id port = true) :
    g.flagged handled earlier c =
      (!(g.node? c.toNode).isSome || earlier.any fun e => e.leaves n.id port) := by
  obtain ⟨hn, hp⟩ := Connection.leaves_iff.1 leaves
  have source : g.node? c.fromNode = some n := by
    rw [node?_congr (hn.trans (node?_eq_some found).2), found]
  have live : (t.ports.any fun p => Text.sameName p c.fromPort) = true :=
    List.any_eq_true.2 ⟨port, listed, Text.sameName_iff.2 hp.symm⟩
  have same : (fun e : Connection => e.leaves c.fromNode c.fromPort) = fun e => e.leaves n.id port := by
    funext e
    simp only [Connection.leaves, Text.sameName, hn, hp]
  simp only [flagged, connectionFindings, source, Option.bind_some, type, live, same, any_isUnhandled,
    Option.any_some, known]
  cases g.node? c.toNode <;> cases earlier.any fun e => e.leaves n.id port <;> rfl

theorem connectionFrom?_pruned {x port : String} {n : Node} {t : NodeType} (found : g.node? x = some n)
    (type : n.kind? = some t) (known : handled t = true) (listed : port ∈ t.ports) :
    (g.pruned handled).connectionFrom? n.id port =
      (g.connectionFrom? n.id port).filter fun c => (g.node? c.toNode).isSome :=
  find?_unflaggedAlong (fun _ _ => flagged_of_leaves found type known listed) [] g.connections

end Graph

end StoryGraph
