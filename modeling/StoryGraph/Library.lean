import StoryGraph.Graph.Basic
import StoryGraph.Property.Access

/-!
Which graphs an event starts, and where. Graphs are looked through in the order in which they were
loaded; of each graph at most one node is an entry.
-/

namespace StoryGraph

abbrev Library := List Graph

/-- A graph to walk and the id of the node to start from. -/
structure Entry where
  graph : Graph
  node : String

namespace Library

/-- The entries of graphs that belong to an owner. -/
def entriesFor (l : Library) (ownerType ownerId tag : String) : List Entry :=
  (l.filter fun g => g.isOwnedBy ownerType ownerId).filterMap fun g =>
    (g.entryNode? tag).map fun n => ⟨g, n.id⟩

/-- The entries of all graphs, whoever owns them. -/
def entriesForAnyOwner (l : Library) (tag : String) : List Entry :=
  l.filterMap fun g => (g.entryNode? tag).map fun n => ⟨g, n.id⟩

/-- Whether a node waits for this change. A blank entity id waits for every entity of the type. -/
def listensTo (c : Change) (n : Node) : Bool :=
  (Bag.getText? n.properties "EntityType").bind EntityType.ofName? == some c.entityType &&
  (match Bag.getText? n.properties "PropertyName" with
    | some p => Text.sameName p c.property
    | none => false) &&
  (match Bag.getText? n.properties "EntityId" with
    | some id => Text.sameName id c.entityId
    | none => true)

/-- In each graph, the first node that waits for this change. -/
def listeners (l : Library) (c : Change) : List Entry :=
  l.filterMap fun g =>
    ((g.entryNodes (NodeType.event .onPropertyChanged).tag).find? (listensTo c)).map fun n => ⟨g, n.id⟩

end Library

end StoryGraph
