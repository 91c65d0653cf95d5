import StoryGraph.NodeType.Families
import StoryGraph.Text.Casing
import StoryGraph.Text.Blank

/-!
The catalog of node types. Each type belongs to one family, is known by a tag that joins the names of
family and type, and leaves only by the ports listed for it.
-/

namespace StoryGraph

/-- The families of node types. -/
inductive Category where
  | event
  | condition
  | action
  | flow
  | source
  | dialogue
deriving DecidableEq, Repr

namespace Category

def all : List Category := [event, condition, action, flow, source, dialogue]

def name : Category → String
  | event => "Event"
  | condition => "Condition"
  | action => "Action"
  | flow => "Flow"
  | source => "Variable"
  | dialogue => "Dialogue"

/-- The family of a name in any case, with white space around it. -/
def ofName? (s : String) : Option Category := all.find? fun c => Text.sameName c.name (Text.trim s)

end Category

/-! The names of ports that nodes share. -/
namespace Port

def exec : String := "Exec"
def yes : String := "True"
def no : String := "False"
def steps : List String := ["Then0", "Then1", "Then2"]
def outs : List String := ["Out0", "Out1", "Out2"]
def onDeath : String := "OnDeath"
def playerDied : String := "PlayerDied"
def notEnough : String := "NotEnough"
def onInsufficient : String := "OnInsufficient"
def value : String := "Value"
def entityId : String := "EntityId"
def oldValue : String := "OldValue"
def newValue : String := "NewValue"

end Port

inductive NodeType where
  | event (t : EventType)
  | condition (t : ConditionType)
  | action (t : ActionType)
  | flow (t : FlowType)
  | source (t : SourceType)
  | dialogue (t : DialogueType)
deriving DecidableEq, Repr

namespace NodeType

/-- Every node type, in catalog order. -/
def all : List NodeType :=
  EventType.all.map event ++ ConditionType.all.map condition ++ ActionType.all.map action ++
    FlowType.all.map flow ++ SourceType.all.map source ++ DialogueType.all.map dialogue

theorem mem_all (t : NodeType) : t ∈ all := by
  cases t <;>
    simp [all, EventType.mem_all, ConditionType.mem_all, ActionType.mem_all, FlowType.mem_all,
      SourceType.mem_all, DialogueType.mem_all]

def category : NodeType → Category
  | event _ => .event
  | condition _ => .condition
  | action _ => .action
  | flow _ => .flow
  | source _ => .source
  | dialogue _ => .dialogue

/-- The name within the family. -/
def name : NodeType → String
  | event t => t.name
  | condition t => t.name
  | action t => t.name
  | flow t => t.name
  | source t => t.name
  | dialogue t => t.name

/-- The name under which authors write the type. -/
def tag (t : NodeType) : String := t.category.name ++ "_" ++ t.name

/-- The type of a tag in any case, with white space around it. -/
@[irreducible]
def ofTag? (s : String) : Option NodeType := all.find? fun t => Text.sameName t.tag (Text.trim s)

/-- The ports by which a node of this type can leave. -/
def ports : NodeType → List String
  | flow .branch => [Port.yes, Port.no]
  | flow .sequence => Port.steps
  | flow .randomBranch => Port.outs
  | action .damageNpc => [Port.exec, Port.onDeath]
  | action .damagePlayer => [Port.exec, Port.playerDied]
  | action .removeGold => [Port.exec, Port.notEnough]
  | action .consumeItem => [Port.exec, Port.onInsufficient]
  | condition _ => [Port.yes, Port.no]
  | _ => [Port.exec]

def isEvent (t : NodeType) : Bool := t.category == .event

end NodeType

end StoryGraph
