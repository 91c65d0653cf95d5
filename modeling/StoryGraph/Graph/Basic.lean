import StoryGraph.Bag
import StoryGraph.NodeType.Catalog

/-!
Script graphs as authors write them: nodes, the connections between their ports, and the owner whose
events start them. Ids and ports are matched without case, and of several matches the first declared
one counts.
-/

namespace StoryGraph

structure Node where
  id : String
  /-- The tag of the node's type, as written. It need not be in the catalog. -/
  typeTag : String
  /-- The family that the author declared. -/
  declared : Option Category := none
  properties : Bag := Table.empty

namespace Node

/-- The type in the catalog, if the tag is known. -/
def kind? (n : Node) : Option NodeType := NodeType.ofTag? n.typeTag

/-- The family by the catalog, or else the declared one. -/
def category? (n : Node) : Option Category :=
  match n.kind? with
  | some t => some t.category
  | none => n.declared

def isEvent (n : Node) : Bool := n.category? == some .event

end Node

/-- An edge from a port of one node to a port of another. -/
structure Connection where
  fromNode : String
  fromPort : String
  toNode : String
  toPort : String := Port.exec
deriving DecidableEq

/-- Whether the connection leaves this node by this port. -/
def Connection.leaves (c : Connection) (node port : String) : Bool :=
  Text.sameName c.fromNode node && Text.sameName c.fromPort port

structure Graph where
  id : String
  ownerType : String := ""
  ownerId : String := ""
  name : String := ""
  nodes : List Node := []
  connections : List Connection := []

namespace Graph

/-- A graph of one node without an owner. -/
def single (n : Node) : Graph := ⟨"adhoc:" ++ n.id, "", "", "", [n], []⟩

/-- The first declared node of this id. -/
def node? (g : Graph) (id : String) : Option Node := g.nodes.find? fun n => Text.sameName n.id id

/-- The first declared connection that leaves this node by this port. -/
def connectionFrom? (g : Graph) (node port : String) : Option Connection :=
  g.connections.find? fun c => c.leaves node port

/-- Whether the graph belongs to this owner. A graph with the owner id `*` belongs to every owner of
its type. -/
def isOwnedBy (g : Graph) (type id : String) : Bool :=
  Text.sameName g.ownerType type && (g.ownerId == "*" || Text.sameName g.ownerId id)

/-- The event nodes with this tag, in the order of declaration. -/
def entryNodes (g : Graph) (tag : String) : List Node :=
  g.nodes.filter fun n => n.isEvent && Text.sameName n.typeTag (Text.trim tag)

def entryNode? (g : Graph) (tag : String) : Option Node := (g.entryNodes tag).head?

end Graph

end StoryGraph
