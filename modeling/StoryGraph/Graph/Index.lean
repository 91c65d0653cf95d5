import StoryGraph.Graph.Basic

/-!
The index of a graph: the places of its nodes under their lowered ids. It is made once, when the graph is.
-/

namespace StoryGraph

namespace Graph

/-- Notes the place of a node, unless a node before it has the same id in some case. -/
def note (t : Table String Nat) (e : Node × Nat) : Table String Nat :=
  match t.get? (Text.fold e.1.id) with
  | some _ => t
  | none => t.insert (Text.fold e.1.id) e.2

def index (g : Graph) : Table String Nat := g.nodes.zipIdx.foldl note Table.empty

/-- The node at the place that the index gives for an id. -/
def indexed? (g : Graph) (id : String) : Option Node :=
  (g.index.get? (Text.fold id)).bind fun i => g.nodes[i]?

end Graph

end StoryGraph
