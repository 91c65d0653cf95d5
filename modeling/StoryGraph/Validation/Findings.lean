import StoryGraph.Validation.Cycles

/-!
Checks of a graph before it is used. Errors make a graph wrong; warnings name what a walk puts up
with, by stopping or by being aborted.
-/

namespace StoryGraph

inductive Finding where
  | duplicateId (id : String)
  | unknownType (tag id : String)
  | noHandler (type : NodeType) (id : String)
  | clashingKeys (id : String) (keys : List String)
  | unknownSource (id : String)
  | unknownTarget (id : String)
  | repeatedPort (id port : String)
  | deadPort (id : String) (type : NodeType) (port : String)
  | cycle (id : String)
deriving DecidableEq

namespace Finding

def isError : Finding → Bool
  | duplicateId _ => true
  | unknownSource _ => true
  | unknownTarget _ => true
  | _ => false

def message : Finding → String
  | duplicateId id => "Duplicate node id '" ++ id ++ "'"
  | unknownType tag id => "Unknown node type '" ++ tag ++ "' in node '" ++ id ++ "'"
  | noHandler type id => "No handler for '" ++ type.tag ++ "' in node '" ++ id ++ "'"
  | clashingKeys id keys =>
    "Node '" ++ id ++ "' has property keys differing only in case: " ++ ", ".intercalate keys
  | unknownSource id => "Connection references unknown source node '" ++ id ++ "'"
  | unknownTarget id => "Connection references unknown target node '" ++ id ++ "'"
  | repeatedPort id port =>
    "Port '" ++ port ++ "' of node '" ++ id ++ "' has more than one connection; only the first is followed"
  | deadPort id type port => "Node '" ++ id ++ "' (" ++ type.tag ++ ") never selects port '" ++ port ++ "'"
  | cycle id => "Exec cycle through node '" ++ id ++ "'; walks reaching it will abort"

end Finding

namespace Graph

/-- What is found at a node that follows the nodes `earlier`. -/
def nodeFindings (handled : NodeType → Bool) (earlier : List Node) (n : Node) : List Finding :=
  (if earlier.any fun e => Text.sameName e.id n.id then [.duplicateId n.id] else []) ++
  (match n.kind? with
    | none => [.unknownType n.typeTag n.id]
    | some t => if handled t then [] else [.noHandler t n.id]) ++
  (let clashing := Bag.clashingKeys n.properties
    if clashing.isEmpty then [] else [.clashingKeys n.id clashing])

/-- What is found at a connection that follows the connections `earlier`. -/
def connectionFindings (g : Graph) (earlier : List Connection) (c : Connection) : List Finding :=
  (if (g.node? c.fromNode).isNone then [.unknownSource c.fromNode] else []) ++
  (if (g.node? c.toNode).isNone then [.unknownTarget c.toNode] else []) ++
  (if earlier.any fun e => e.leaves c.fromNode c.fromPort then [.repeatedPort c.fromNode c.fromPort]
    else []) ++
  (match (g.node? c.fromNode).bind Node.kind? with
    | none => []
    | some t =>
      if t.ports.any fun p => Text.sameName p c.fromPort then []
      else [.deadPort c.fromNode t c.fromPort])

/-- Checks each element against those before it. -/
def findingsAlong {α : Type} (check : List α → α → List Finding) : List α → List α → List Finding
  | _, [] => []
  | earlier, a :: rest => check earlier a ++ findingsAlong check (earlier ++ [a]) rest

/-- All that is found: at the nodes, at the connections, and cycles. -/
def findings (g : Graph) (handled : NodeType → Bool) : List Finding :=
  findingsAlong (nodeFindings handled) [] g.nodes ++
  findingsAlong g.connectionFindings [] g.connections ++
  g.cycles.map .cycle

def errors (g : Graph) (handled : NodeType → Bool) : List String :=
  ((g.findings handled).filter Finding.isError).map Finding.message

def warnings (g : Graph) (handled : NodeType → Bool) : List String :=
  ((g.findings handled).filter fun f => !f.isError).map Finding.message

def isValid (g : Graph) (handled : NodeType → Bool) : Bool := (g.errors handled).isEmpty

end Graph

end StoryGraph
