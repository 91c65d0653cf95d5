import StoryGraph.Handler.Basic

/-!
Sources of values: nodes that look something up and keep it under their port `Value`.
-/

namespace StoryGraph

namespace Source

def property (c : Call) : Value :=
  match c.target? with
  | some (t, id, property) => (c.world.getProperty? t id property).getD .null
  | none => .null

/-- A random number between two bounds in either order, both included. -/
def randomNumber (c : Call) : Except String Value :=
  let a := Bag.getInt c.node.properties "Min" 0
  let b := Bag.getInt c.node.properties "Max" 100
  (if a ≤ b then Draw.between (c.draws 0) a b else Draw.between (c.draws 0) b a).map .int

def value (t : SourceType) (c : Call) : Except String Value :=
  match t with
  | .constant => .ok (Bag.getValue c.node.properties "Value")
  | .getVariable => .ok (((c.arg "Name").bind c.world.variableValue?).getD .null)
  | .getFlag => .ok (.bool ((c.arg "Flag").any c.world.hasFlag))
  | .getProperty => .ok (property c)
  | .playerHealth => .ok (.int c.world.player.health)
  | .playerGold => .ok (.int c.world.player.gold)
  | .playerRoom => .ok (.string c.world.player.roomId)
  | .npcHealth => .ok ((((c.arg "NpcId").bind c.world.npc?).map fun n => Value.int n.health).getD .null)
  | .questStage => .ok (.int ((((c.arg "QuestId").bind c.world.quest?).map Quest.stage).getD 0))
  | .timeOfDay => .ok (.int c.world.game.hour)
  | .turnCount => .ok (.int c.world.game.turn)
  | .inventoryCount => .ok (.int (Int64.ofNat c.world.player.inventory.length))
  | .randomNumber => randomNumber c

def drawn : SourceType → Nat
  | .randomNumber => 1
  | _ => 0

def handle (t : SourceType) (c : Call) : Response :=
  { world := c.world, drawn := drawn t,
    result := (value t c).map fun v =>
      { values := Table.empty.insert Port.value v, next := .goOn Port.exec } }

end Source

end StoryGraph
