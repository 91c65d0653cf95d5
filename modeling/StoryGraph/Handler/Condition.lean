import StoryGraph.Handler.Basic

/-!
Conditions: questions about the world that send a walk to `True` or `False`. What lacks an argument or
names nothing is false.
-/

namespace StoryGraph

/-- The comparisons that authors can ask for. -/
inductive Operator where
  | eq
  | ne
  | gt
  | ge
  | lt
  | le
deriving DecidableEq, Repr

namespace Operator

def ofText? (s : String) : Option Operator :=
  match Text.fold s with
  | "==" | "=" | "eq" | "equals" => some eq
  | "!=" | "<>" | "ne" | "notequals" => some ne
  | ">" | "gt" | "greaterthan" => some gt
  | ">=" | "ge" | "greaterorequal" => some ge
  | "<" | "lt" | "lessthan" => some lt
  | "<=" | "le" | "lessorequal" => some le
  | _ => none

def holds : Operator → Value → Value → Bool
  | eq, a, b => a.looselyEquals b
  | ne, a, b => !a.looselyEquals b
  | gt, a, b => a.compare b == some .gt
  | ge, a, b => a.compare b == some .gt || a.compare b == some .eq
  | lt, a, b => a.compare b == some .lt
  | le, a, b => a.compare b == some .lt || a.compare b == some .eq

end Operator

namespace Condition

def room (c : Call) (p : Room → Bool) : Bool := ((c.arg "RoomId").bind c.world.room?).any p
def door (c : Call) (p : Door → Bool) : Bool := ((c.arg "DoorId").bind c.world.door?).any p
def npc (c : Call) (p : Npc → Bool) : Bool := ((c.arg "NpcId").bind c.world.npc?).any p
def object (c : Call) (p : GameObject → Bool) : Bool := ((c.arg "ObjectId").bind c.world.object?).any p

def quest (c : Call) (s : QuestState) : Bool :=
  (c.arg "QuestId").any fun id => c.world.questState id == s

/-- The variable that a node names, and the value that it is to be compared with. -/
def variableAndValue? (c : Call) : Option (Value × Value) := do
  let current ← c.world.variableValue? (← c.arg "Name")
  let expected ← Bag.find? c.node.properties "Value"
  return (current, expected)

def compareVariable (c : Call) (op : Operator) : Bool :=
  (variableAndValue? c).any fun (current, expected) => op.holds current expected

/-- From the one hour up to and without the other; past midnight if the first is later. -/
def hourBetween (hour lo hi : Int64) : Bool :=
  if lo ≤ hi then decide (lo ≤ hour) && decide (hour < hi) else decide (lo ≤ hour) || decide (hour < hi)

def timeOfDay (c : Call) : Bool :=
  match c.amount "From", c.amount "To" with
  | some lo, some hi => hourBetween c.world.game.hour lo hi
  | _, _ => false

def percent? (c : Call) : Option Float := (Bag.find? c.node.properties "Percent").bind Value.toFloat?

def propertyEquals (c : Call) : Bool :=
  match c.target?, Bag.find? c.node.properties "Value" with
  | some (t, id, property), some expected =>
    (c.world.getProperty? t id property).any fun current => current.looselyEquals expected
  | _, _ => false

/-- The output that a node names as its source; the port is `Value` unless given. -/
def source? (c : Call) (node : String) : Option Value :=
  c.outputs.find? node ((c.arg "SourcePort").getD Port.value)

def compareValues (c : Call) : Bool :=
  match (c.arg "SourceNodeId").bind (source? c) with
  | some left =>
    (Operator.ofText? ((c.arg "Operator").getD "==")).any fun op =>
      op.holds left (Bag.getValue c.node.properties "Value")
  | none => false

/-- The answer to a question, where chance decides by the next draw. -/
def holds (t : ConditionType) (c : Call) : Bool :=
  match t with
  | .hasItem => (c.arg "ObjectId").any c.world.player.hasItem
  | .playerInRoom => (c.arg "RoomId").any fun id => Text.sameName c.world.player.roomId id
  | .roomVisited => room c Room.isVisited
  | .roomIsDark => room c Room.isDark
  | .doorIsOpen => door c Door.isOpen
  | .doorIsLocked => door c Door.isLocked
  | .npcIsAlive => npc c Npc.isAlive
  | .npcIsHostile => npc c Npc.isHostile
  | .npcInRoom => (c.arg "RoomId").any fun id => npc c fun n => Text.sameName n.roomId id
  | .objectInRoom => (c.arg "RoomId").any fun id => object c fun o => Text.sameName o.roomId id
  | .objectIsVisible => object c GameObject.isVisible
  | .objectIsOpen => object c GameObject.isOpen
  | .objectIsLocked => object c GameObject.isLocked
  | .playerHealthAbove => (c.amount "Value").any fun v => decide (v < c.world.player.health)
  | .playerHealthBelow => (c.amount "Value").any fun v => decide (c.world.player.health < v)
  | .playerGoldAtLeast => (c.amount "Amount").any fun v => decide (v ≤ c.world.player.gold)
  | .questNotStarted => quest c .notStarted
  | .questActive => quest c .active
  | .questCompleted => quest c .completed
  | .questStageIs =>
    (c.amount "Stage").any fun s => ((c.arg "QuestId").bind c.world.quest?).any fun q => q.stage == s
  | .flagIsSet => (c.arg "Flag").any c.world.hasFlag
  | .variableEquals => compareVariable c .eq
  | .variableGreaterThan => compareVariable c .gt
  | .variableLessThan => compareVariable c .lt
  | .timeOfDayBetween => timeOfDay c
  | .isNight => c.world.game.isNight
  | .inCombat => c.world.combat.isSome
  | .hasModifier => ((c.arg "ModifierId").bind c.world.modifier?).isSome
  | .randomChance => (percent? c).any fun p => decide (Draw.percent (c.draws 0) < p)
  | .propertyEquals => propertyEquals c
  | .compareValues => compareValues c

/-- How many draws a question takes. -/
def drawn (t : ConditionType) (c : Call) : Nat :=
  match t with
  | .randomChance => if (percent? c).isSome then 1 else 0
  | _ => 0

def handle (t : ConditionType) (c : Call) : Response :=
  { world := c.world, drawn := drawn t c,
    result := .ok { next := .goOn (if holds t c then Port.yes else Port.no) } }

end Condition

end StoryGraph
