import StoryGraph.Value.Document
import StoryGraph.World.Basic

/-!
Worlds in documents. Every field may be left out and then has its default; the combat is written only
if there is one.
-/

namespace StoryGraph

namespace Room

def ofJson? (j : Json) : Option Room := do
  let r ← j.record? ["id", "name", "description", "isDark", "isVisited", "musicId"]
  let id ← r.get "id" Json.text? ""
  let name ← r.get "name" Json.text? ""
  let description ← r.get "description" Json.text? ""
  let isDark ← r.get "isDark" Json.flag? false
  let isVisited ← r.get "isVisited" Json.flag? false
  let musicId ← r.get "musicId" Json.text? ""
  return { id, name, description, isDark, isVisited, musicId }

def toJson (e : Room) : Json :=
  .obj [("id", .str e.id), ("name", .str e.name), ("description", .str e.description),
    ("isDark", .bool e.isDark), ("isVisited", .bool e.isVisited), ("musicId", .str e.musicId)]

end Room

namespace Door

def ofJson? (j : Json) : Option Door := do
  let r ← j.record? ["id", "name", "fromRoomId", "toRoomId", "isOpen", "isLocked", "isVisible", "keyObjectId"]
  let id ← r.get "id" Json.text? ""
  let name ← r.get "name" Json.text? ""
  let fromRoomId ← r.get "fromRoomId" Json.text? ""
  let toRoomId ← r.get "toRoomId" Json.text? ""
  let isOpen ← r.get "isOpen" Json.flag? false
  let isLocked ← r.get "isLocked" Json.flag? false
  let isVisible ← r.get "isVisible" Json.flag? true
  let keyObjectId ← r.get "keyObjectId" Json.text? ""
  return { id, name, fromRoomId, toRoomId, isOpen, isLocked, isVisible, keyObjectId }

def toJson (e : Door) : Json :=
  .obj [("id", .str e.id), ("name", .str e.name), ("fromRoomId", .str e.fromRoomId),
    ("toRoomId", .str e.toRoomId), ("isOpen", .bool e.isOpen), ("isLocked", .bool e.isLocked),
    ("isVisible", .bool e.isVisible), ("keyObjectId", .str e.keyObjectId)]

end Door

namespace Npc

def ofJson? (j : Json) : Option Npc := do
  let r ← j.record? ["id", "name", "description", "roomId", "health", "maxHealth", "isHostile", "isCorpse",
    "isVisible", "gold", "greeting"]
  let id ← r.get "id" Json.text? ""
  let name ← r.get "name" Json.text? ""
  let description ← r.get "description" Json.text? ""
  let roomId ← r.get "roomId" Json.text? ""
  let health ← r.get "health" Json.int64? 10
  let maxHealth ← r.get "maxHealth" Json.int64? 10
  let isHostile ← r.get "isHostile" Json.flag? false
  let isCorpse ← r.get "isCorpse" Json.flag? false
  let isVisible ← r.get "isVisible" Json.flag? true
  let gold ← r.get "gold" Json.int64? 0
  let greeting ← r.get "greeting" Json.text? ""
  return { id, name, description, roomId, health, maxHealth, isHostile, isCorpse, isVisible, gold, greeting }

def toJson (e : Npc) : Json :=
  .obj [("id", .str e.id), ("name", .str e.name), ("description", .str e.description),
    ("roomId", .str e.roomId), ("health", .int e.health.toInt), ("maxHealth", .int e.maxHealth.toInt),
    ("isHostile", .bool e.isHostile), ("isCorpse", .bool e.isCorpse), ("isVisible", .bool e.isVisible),
    ("gold", .int e.gold.toInt), ("greeting", .str e.greeting)]

end Npc

namespace GameObject

def ofJson? (j : Json) : Option GameObject := do
  let r ← j.record? ["id", "name", "description", "roomId", "isVisible", "isTakeable", "isOpen", "isLocked",
    "value", "weight"]
  let id ← r.get "id" Json.text? ""
  let name ← r.get "name" Json.text? ""
  let description ← r.get "description" Json.text? ""
  let roomId ← r.get "roomId" Json.text? ""
  let isVisible ← r.get "isVisible" Json.flag? true
  let isTakeable ← r.get "isTakeable" Json.flag? true
  let isOpen ← r.get "isOpen" Json.flag? false
  let isLocked ← r.get "isLocked" Json.flag? false
  let value ← r.get "value" Json.int64? 0
  let weight ← r.get "weight" Json.number? 0.0
  return { id, name, description, roomId, isVisible, isTakeable, isOpen, isLocked, value, weight }

def toJson (e : GameObject) : Json :=
  .obj [("id", .str e.id), ("name", .str e.name), ("description", .str e.description),
    ("roomId", .str e.roomId), ("isVisible", .bool e.isVisible), ("isTakeable", .bool e.isTakeable),
    ("isOpen", .bool e.isOpen), ("isLocked", .bool e.isLocked), ("value", .int e.value.toInt),
    ("weight", (Value.float e.weight).toJson)]

end GameObject

namespace Player

def ofJson? (j : Json) : Option Player := do
  let r ← j.record? ["name", "health", "maxHealth", "gold", "experience", "roomId", "inventory"]
  let name ← r.get "name" Json.text? "Player"
  let health ← r.get "health" Json.int64? 100
  let maxHealth ← r.get "maxHealth" Json.int64? 100
  let gold ← r.get "gold" Json.int64? 0
  let experience ← r.get "experience" Json.int64? 0
  let roomId ← r.get "roomId" Json.text? ""
  let inventory ← r.get "inventory" (Json.list? Json.text?) []
  return { name, health, maxHealth, gold, experience, roomId, inventory }

def toJson (e : Player) : Json :=
  .obj [("name", .str e.name), ("health", .int e.health.toInt), ("maxHealth", .int e.maxHealth.toInt),
    ("gold", .int e.gold.toInt), ("experience", .int e.experience.toInt), ("roomId", .str e.roomId),
    ("inventory", .arr (e.inventory.map .str))]

end Player

namespace QuestState

def name : QuestState → String
  | notStarted => "NotStarted"
  | active => "Active"
  | completed => "Completed"
  | failed => "Failed"

def ofJson? (j : Json) : Option QuestState :=
  j.case? ([notStarted, active, completed, failed].map fun s => (s.name, s))

end QuestState

namespace Quest

def ofJson? (j : Json) : Option Quest := do
  let r ← j.record? ["id", "name", "state", "stage"]
  let id ← r.get "id" Json.text? ""
  let name ← r.get "name" Json.text? ""
  let state ← r.get "state" QuestState.ofJson? .notStarted
  let stage ← r.get "stage" Json.int64? 0
  return { id, name, state, stage }

def toJson (e : Quest) : Json :=
  .obj [("id", .str e.id), ("name", .str e.name), ("state", .str e.state.name), ("stage", .int e.stage.toInt)]

end Quest

namespace Modifier

def ofJson? (j : Json) : Option Modifier := do
  let r ← j.record? ["id", "stat", "amount", "remainingTurns"]
  let id ← r.get "id" Json.text? ""
  let stat ← r.get "stat" Json.text? ""
  let amount ← r.get "amount" Json.int64? 0
  let remainingTurns ← r.get "remainingTurns" Json.int64? 0
  return { id, stat, amount, remainingTurns }

def toJson (e : Modifier) : Json :=
  .obj [("id", .str e.id), ("stat", .str e.stat), ("amount", .int e.amount.toInt),
    ("remainingTurns", .int e.remainingTurns.toInt)]

end Modifier

namespace Combat

def ofJson? (j : Json) : Option Combat := do
  let r ← j.record? ["npcId", "round"]
  let npcId ← r.get "npcId" Json.text? ""
  let round ← r.get "round" Json.int64? 0
  return { npcId, round }

def toJson (e : Combat) : Json := .obj [("npcId", .str e.npcId), ("round", .int e.round.toInt)]

end Combat

namespace GameState

def ofJson? (j : Json) : Option GameState := do
  let r ← j.record? ["turn", "hour", "weather", "isAdventureCompleted", "score"]
  let turn ← r.get "turn" Json.int64? 0
  let hour ← r.get "hour" Json.int64? 8
  let weather ← r.get "weather" Json.text? "Clear"
  let isAdventureCompleted ← r.get "isAdventureCompleted" Json.flag? false
  let score ← r.get "score" Json.int64? 0
  return { turn, hour, weather, isAdventureCompleted, score }

def toJson (e : GameState) : Json :=
  .obj [("turn", .int e.turn.toInt), ("hour", .int e.hour.toInt), ("weather", .str e.weather),
    ("isAdventureCompleted", .bool e.isAdventureCompleted), ("score", .int e.score.toInt)]

end GameState

namespace World

def ofJson? (j : Json) : Option World := do
  let r ← j.record? ["rooms", "doors", "npcs", "objects", "player", "quests", "modifiers", "combat", "game",
    "flags", "variables"]
  let rooms ← r.get "rooms" (Json.list? Room.ofJson?) []
  let doors ← r.get "doors" (Json.list? Door.ofJson?) []
  let npcs ← r.get "npcs" (Json.list? Npc.ofJson?) []
  let objects ← r.get "objects" (Json.list? GameObject.ofJson?) []
  let player ← r.get "player" Player.ofJson? {}
  let quests ← r.get "quests" (Json.list? Quest.ofJson?) []
  let modifiers ← r.get "modifiers" (Json.list? Modifier.ofJson?) []
  let combat ← r.get "combat" (Json.optional? Combat.ofJson?) none
  let game ← r.get "game" GameState.ofJson? {}
  let flags ← r.get "flags" (fun j => (j.list? Json.text?).map NameSet.ofList) .empty
  let vars ← r.get "variables" (fun j => (j.pairs? Value.ofJson?).map NameMap.ofList) .empty
  return { rooms, doors, npcs, objects, player, quests, modifiers, combat, game, flags, vars }

/-- The sections of a world's document, in order. A section without content is none. -/
def sections (w : World) : List (String × Option Json) :=
  [("rooms", some (.arr (w.rooms.map Room.toJson))), ("doors", some (.arr (w.doors.map Door.toJson))),
   ("npcs", some (.arr (w.npcs.map Npc.toJson))), ("objects", some (.arr (w.objects.map GameObject.toJson))),
   ("player", some w.player.toJson), ("quests", some (.arr (w.quests.map Quest.toJson))),
   ("modifiers", some (.arr (w.modifiers.map Modifier.toJson))), ("combat", w.combat.map Combat.toJson),
   ("game", some w.game.toJson), ("flags", some (.arr (w.flags.names.map .str))),
   ("variables", some (.obj (w.vars.entries.map fun e => (e.1, e.2.toJson))))]

def toJson (w : World) : Json :=
  .obj (w.sections.filterMap fun s => s.2.map fun j => (s.1, j))

end World

end StoryGraph
