import StoryGraph.Graph.Basic

/-!
Cycles of a graph, found by a search in depth. An id that the search meets again while it is still on
the path to it closes a cycle.
-/

namespace StoryGraph

/-- The names without this one. -/
def without (l : List String) (x : String) : List String := l.filter fun y => y != x

theorem length_without_le (l : List String) (x : String) : (without l x).length ≤ l.length :=
  List.length_filter_le _ l

theorem length_without_lt {l : List String} {x : String} (h : x ∈ l) :
    (without l x).length < l.length :=
  List.length_filter_lt_length_iff_exists.2 ⟨x, h, by simp⟩

/-- A path of the search, innermost node first, with the targets that each node still has to try. -/
abbrev SearchPath := List (String × List String)

namespace SearchPath

/-- What is left to try on a path, its nodes included. -/
def work : SearchPath → Nat
  | [] => 0
  | f :: outer => f.2.length + 1 + work outer

end SearchPath

/-- The nodes that close a cycle, in the order in which the search finds them, after those in `found`.
`fresh` are the ids that the search has not met; `targets` gives the nodes that a node leads to. -/
def closingNodes (targets : String → List String) (fresh : List String) (path : SearchPath)
    (found : List String) : List String :=
  match path with
  | [] =>
    match fresh with
    | [] => found
    | root :: rest => closingNodes targets (without rest root) [(root, targets root)] found
  | (_, []) :: outer => closingNodes targets fresh outer found
  | (node, target :: rest) :: outer =>
    let path := (node, rest) :: outer
    if target ∈ fresh then
      closingNodes targets (without fresh target) ((target, targets target) :: path) found
    else if path.any fun f => f.1 == target then
      closingNodes targets fresh path (if found.contains target then found else found ++ [target])
    else closingNodes targets fresh path found
termination_by (fresh.length, path.work)
decreasing_by
  · apply Prod.Lex.left
    exact Nat.lt_succ_of_le (length_without_le _ _)
  · apply Prod.Lex.right
    simp [SearchPath.work]
  · rename_i h
    apply Prod.Lex.left
    exact length_without_lt h
  · apply Prod.Lex.right
    simp [SearchPath.work]
  · apply Prod.Lex.right
    simp [SearchPath.work]

namespace Graph

/-- The lowered ids that a node leads to, in the order of its connections; targets that do not exist
are left out. -/
def targets (g : Graph) (id : String) : List String :=
  g.connections.filterMap fun c =>
    if Text.fold c.fromNode == id && (g.node? c.toNode).isSome then some (Text.fold c.toNode) else none

/-- The declared ids of the nodes that close a cycle. -/
def cycles (g : Graph) : List String :=
  (closingNodes g.targets (g.nodes.map fun n => Text.fold n.id) [] []).filterMap fun id =>
    (g.node? id).map Node.id

end Graph

end StoryGraph
