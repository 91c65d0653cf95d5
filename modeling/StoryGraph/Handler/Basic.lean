import StoryGraph.Dice
import StoryGraph.Graph.Basic
import StoryGraph.Host.Event
import StoryGraph.Property.Access
import StoryGraph.World.Notes

/-!
What a node does when a walk reaches it. A handler sees the node, the world and what earlier nodes of
the walk have put out; it answers with the world after it, notices to the host, and where to go on.
-/

namespace StoryGraph

/-- The values that the nodes of a walk have put out, under the lowered names of node and port. -/
abbrev Outputs := Table (String × String) Value

namespace Outputs

def key (node port : String) : String × String := (Text.fold (Text.trim node), Text.fold (Text.trim port))

def find? (o : Outputs) (node port : String) : Option Value := o.get? (key node port)

def put (o : Outputs) (node port : String) (v : Value) : Outputs := o.insert (key node port) v

end Outputs

/-- What a handler is given. -/
structure Call where
  node : Node
  graphId : String
  /-- The port by which the walk came in. -/
  inputPort : String
  /-- How many triggers the walk is nested in. -/
  depth : Nat
  outputs : Outputs
  world : World
  /-- The draws to come. -/
  draws : Draws

/-- The trimmed text of a property, unless it is missing or blank. -/
def Call.arg (c : Call) (key : String) : Option String := Bag.getText? c.node.properties key

/-- The whole number that a property reads as. -/
def Call.amount (c : Call) (key : String) : Option Int64 :=
  (Bag.find? c.node.properties key).bind Value.toInt?

/-- The entity and the property that a node names. The id may be missing where there is one entity of
the type only. -/
def Call.target? (c : Call) : Option (EntityType × String × String) := do
  let t ← EntityType.ofName? (← c.arg "EntityType")
  let id := (c.arg "EntityId").getD ""
  if id == "" && !t.isSingleton then none
  let property ← c.arg "PropertyName"
  return (t, id, property)

/-- A pause of a walk, in nanoseconds, and the port by which it goes on afterwards. -/
structure Latent where
  node : String
  port : String
  nanos : Nat
deriving DecidableEq, Repr

/-- Where a walk goes after a node. -/
inductive Next where
  | goOn (port : String)
  | stop
  /-- One branch for each connected port, in order. -/
  | fork (ports : List String)
  | wait (pause : Latent)
  | fail (message : String)
deriving DecidableEq, Repr

/-- The one port that a walk goes on by at once. -/
def Next.port? : Next → Option String
  | .goOn port => some port
  | _ => none

/-- Walks that a handler asks for; they run before the walk goes on. -/
inductive Effect where
  | changed (c : Change)
  | trigger (ownerType ownerId tag : String)
deriving DecidableEq

structure Output where
  /-- Values to keep under the node's id and a port. -/
  values : Table String Value := .empty
  next : Next
  effects : List Effect := []

inductive LogLevel where
  | error
  | warn
  | info
  | debug
  | trace
deriving DecidableEq, Repr

namespace LogLevel

def name : LogLevel → String
  | error => "ERROR"
  | warn => "WARN"
  | info => "INFO"
  | debug => "DEBUG"
  | trace => "TRACE"

/-- The level of a word in any case. Unknown words count as `info`. -/
def ofText (s : String) : LogLevel :=
  match Text.fold s with
  | "error" => error
  | "warn" => warn
  | "warning" => warn
  | "debug" => debug
  | "trace" => trace
  | _ => info

end LogLevel

/-- A line that a script wrote into the log. -/
structure LogLine where
  level : LogLevel
  graphId : String
  nodeId : String
  message : String
deriving DecidableEq, Repr

/-- The answer of a handler. What it changed and sent stands even if it broke down, in which case the
result is a text that says why. -/
structure Response where
  world : World
  notices : List HostEvent := []
  logs : List LogLine := []
  /-- How many draws were taken. -/
  drawn : Nat := 0
  result : Except String Output

abbrev Handler := Call → Response

/-- The handlers in use, by node type. -/
abbrev Registry := NodeType → Option Handler

namespace Registry

def empty : Registry := fun _ => none

def register (r : Registry) (t : NodeType) (h : Handler) : Registry :=
  fun u => if u = t then some h else r u

def contains (r : Registry) (t : NodeType) : Bool := (r t).isSome

def size (r : Registry) : Nat := NodeType.all.countP r.contains

def handlerFor (r : Registry) (n : Node) : Option Handler := n.kind?.bind r

end Registry

end StoryGraph
