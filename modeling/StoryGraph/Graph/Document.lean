import StoryGraph.Graph.Basic

/-!
Graphs in documents. An unreadable family is passed over, and a connection without a target port goes
to the port `Exec`.
-/

namespace StoryGraph

namespace Node

/-- A declared family: any tree is accepted, and one that is no family's name counts as none. -/
def declared? (j : Json) : Option (Option Category) :=
  j.canonical?.map fun j => j.text?.bind Category.ofName?

def ofJson? (j : Json) : Option Node := do
  let r ← j.record? ["id", "type", "category", "properties"]
  let id ← r.need "id" Json.text?
  let typeTag ← r.need "type" Json.text?
  let declared ← r.get "category" declared? none
  let properties ← r.get "properties" Bag.ofJson? Table.empty
  return { id, typeTag, declared, properties }

def toJson (n : Node) : Json :=
  .obj <|
    [("id", .str n.id), ("type", .str n.typeTag)] ++
    (match n.declared with
      | some c => [("category", .str c.name)]
      | none => []) ++
    [("properties", Bag.toJson n.properties)]

end Node

namespace Connection

def ofJson? (j : Json) : Option Connection := do
  let r ← j.record? ["fromNodeId", "fromPort", "toNodeId", "toPort"]
  let fromNode ← r.need "fromNodeId" Json.text?
  let fromPort ← r.need "fromPort" Json.text?
  let toNode ← r.need "toNodeId" Json.text?
  let toPort ← r.get "toPort" Json.text? Port.exec
  return { fromNode, fromPort, toNode, toPort }

def toJson (c : Connection) : Json :=
  .obj [("fromNodeId", .str c.fromNode), ("fromPort", .str c.fromPort), ("toNodeId", .str c.toNode),
    ("toPort", .str c.toPort)]

end Connection

namespace Graph

def ofJson? (j : Json) : Option Graph := do
  let r ← j.record? ["id", "ownerType", "ownerId", "name", "nodes", "connections"]
  let id ← r.need "id" Json.text?
  let ownerType ← r.get "ownerType" Json.text? ""
  let ownerId ← r.get "ownerId" Json.text? ""
  let name ← r.get "name" Json.text? ""
  let nodes ← r.get "nodes" (Json.list? Node.ofJson?) []
  let connections ← r.get "connections" (Json.list? Connection.ofJson?) []
  return { id, ownerType, ownerId, name, nodes, connections }

def toJson (g : Graph) : Json :=
  .obj [("id", .str g.id), ("ownerType", .str g.ownerType), ("ownerId", .str g.ownerId),
    ("name", .str g.name), ("nodes", .arr (g.nodes.map Node.toJson)),
    ("connections", .arr (g.connections.map Connection.toJson))]

end Graph

end StoryGraph
