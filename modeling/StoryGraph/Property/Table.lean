import StoryGraph.Text.Blank
import StoryGraph.World.Lookup

/-!
The properties that scripts and hosts can read and write. Three tables stand side by side for each type of
entity: the list that is a hint for authoring tools, what is read under a name, and what a write under a
name does. A write turns the value into the property's kind and moves it into the property's range.
-/

namespace StoryGraph

inductive EntityType where
  | room
  | door
  | npc
  | object
  | player
  | game
deriving DecidableEq, Repr

namespace EntityType

def all : List EntityType := [room, door, npc, object, player, game]

def name : EntityType → String
  | room => "Room"
  | door => "Door"
  | npc => "Npc"
  | object => "Object"
  | player => "Player"
  | game => "Game"

/-- The type of a name in any case, with white space around it; an item is an object. -/
def ofName? (s : String) : Option EntityType :=
  let s := Text.trim s
  if Text.sameName s "item" then some object else all.find? fun t => Text.sameName t.name s

/-- Whether there is one entity of this type only, whose id does not matter. -/
def isSingleton (t : EntityType) : Bool := t == player || t == game

/-- The properties that authoring tools may offer for a type, with their kinds. -/
def properties : EntityType → List (String × Kind)
  | room =>
    [("Name", .string), ("Description", .string), ("IsDark", .bool), ("IsVisited", .bool),
     ("MusicId", .string)]
  | door =>
    [("Name", .string), ("IsOpen", .bool), ("IsLocked", .bool), ("IsVisible", .bool),
     ("KeyObjectId", .string)]
  | npc =>
    [("Name", .string), ("Description", .string), ("RoomId", .string), ("Health", .int),
     ("MaxHealth", .int), ("IsHostile", .bool), ("IsCorpse", .bool), ("IsVisible", .bool),
     ("Gold", .int), ("Greeting", .string)]
  | object =>
    [("Name", .string), ("Description", .string), ("RoomId", .string), ("IsVisible", .bool),
     ("IsTakeable", .bool), ("IsOpen", .bool), ("IsLocked", .bool), ("Value", .int),
     ("Weight", .float)]
  | player =>
    [("Name", .string), ("Health", .int), ("MaxHealth", .int), ("Gold", .int), ("Experience", .int),
     ("RoomId", .string)]
  | game =>
    [("Turn", .int), ("Hour", .int), ("Weather", .string), ("IsAdventureCompleted", .bool),
     ("Score", .int)]

/-- The listed spelling of a property's name. -/
def canonicalProperty? (t : EntityType) (name : String) : Option String :=
  (t.properties.find? fun p => Text.sameName p.1 (Text.trim name)).map Prod.fst

end EntityType

namespace Property

/-- What a property is read and written under: its name, lowered and without the white space around it. -/
def key (name : String) : String := Text.fold (Text.trim name)

/-- Not below zero, and zero for what is no number. -/
def notNegative (x : Float) : Float := if 0.0 < x then x else 0.0

end Property

/-! What is read under a key. -/

def Room.getter? : String → Option (Room → Value)
  | "name" => some fun e => .string e.name
  | "description" => some fun e => .string e.description
  | "isdark" => some fun e => .bool e.isDark
  | "isvisited" => some fun e => .bool e.isVisited
  | "musicid" => some fun e => .string e.musicId
  | _ => none

def Door.getter? : String → Option (Door → Value)
  | "name" => some fun e => .string e.name
  | "isopen" => some fun e => .bool e.isOpen
  | "islocked" => some fun e => .bool e.isLocked
  | "isvisible" => some fun e => .bool e.isVisible
  | "keyobjectid" => some fun e => .string e.keyObjectId
  | _ => none

def Npc.getter? : String → Option (Npc → Value)
  | "name" => some fun e => .string e.name
  | "description" => some fun e => .string e.description
  | "roomid" => some fun e => .string e.roomId
  | "health" => some fun e => .int e.health
  | "maxhealth" => some fun e => .int e.maxHealth
  | "ishostile" => some fun e => .bool e.isHostile
  | "iscorpse" => some fun e => .bool e.isCorpse
  | "isvisible" => some fun e => .bool e.isVisible
  | "gold" => some fun e => .int e.gold
  | "greeting" => some fun e => .string e.greeting
  | _ => none

def GameObject.getter? : String → Option (GameObject → Value)
  | "name" => some fun e => .string e.name
  | "description" => some fun e => .string e.description
  | "roomid" => some fun e => .string e.roomId
  | "isvisible" => some fun e => .bool e.isVisible
  | "istakeable" => some fun e => .bool e.isTakeable
  | "isopen" => some fun e => .bool e.isOpen
  | "islocked" => some fun e => .bool e.isLocked
  | "value" => some fun e => .int e.value
  | "weight" => some fun e => .float e.weight
  | _ => none

def Player.getter? : String → Option (Player → Value)
  | "name" => some fun e => .string e.name
  | "health" => some fun e => .int e.health
  | "maxhealth" => some fun e => .int e.maxHealth
  | "gold" => some fun e => .int e.gold
  | "experience" => some fun e => .int e.experience
  | "roomid" => some fun e => .string e.roomId
  | _ => none

def GameState.getter? : String → Option (GameState → Value)
  | "turn" => some fun e => .int e.turn
  | "hour" => some fun e => .int e.hour
  | "weather" => some fun e => .string e.weather
  | "isadventurecompleted" => some fun e => .bool e.isAdventureCompleted
  | "score" => some fun e => .int e.score
  | _ => none

/-! What a write under a key does. -/

def Room.setter? : String → Option (Value → Room → Room)
  | "name" => some fun v e => { e with name := v.toText }
  | "description" => some fun v e => { e with description := v.toText }
  | "isdark" => some fun v e => { e with isDark := v.toBool }
  | "isvisited" => some fun v e => { e with isVisited := v.toBool }
  | "musicid" => some fun v e => { e with musicId := v.toText }
  | _ => none

def Door.setter? : String → Option (Value → Door → Door)
  | "name" => some fun v e => { e with name := v.toText }
  | "isopen" => some fun v e => { e with isOpen := v.toBool }
  | "islocked" => some fun v e => { e with isLocked := v.toBool }
  | "isvisible" => some fun v e => { e with isVisible := v.toBool }
  | "keyobjectid" => some fun v e => { e with keyObjectId := v.toText }
  | _ => none

/-- Health lies between zero and the greatest health, where that is not below zero. -/
def Npc.setHealth (h : Int64) (e : Npc) : Npc :=
  { e with health := Whole.clampTo 0 (max e.maxHealth 0) h (Whole.le_max_right _ _) }

/-- The greatest health is at least one, and health is lowered to it. -/
def Npc.setMaxHealth (h : Int64) (e : Npc) : Npc :=
  { e with maxHealth := max h 1, health := min e.health (max h 1) }

def Npc.setter? : String → Option (Value → Npc → Npc)
  | "name" => some fun v e => { e with name := v.toText }
  | "description" => some fun v e => { e with description := v.toText }
  | "roomid" => some fun v e => { e with roomId := v.toText }
  | "health" => some fun v e => e.setHealth v.toInt
  | "maxhealth" => some fun v e => e.setMaxHealth v.toInt
  | "ishostile" => some fun v e => { e with isHostile := v.toBool }
  | "iscorpse" => some fun v e => { e with isCorpse := v.toBool }
  | "isvisible" => some fun v e => { e with isVisible := v.toBool }
  | "gold" => some fun v e => { e with gold := max v.toInt 0 }
  | "greeting" => some fun v e => { e with greeting := v.toText }
  | _ => none

def GameObject.setter? : String → Option (Value → GameObject → GameObject)
  | "name" => some fun v e => { e with name := v.toText }
  | "description" => some fun v e => { e with description := v.toText }
  | "roomid" => some fun v e => { e with roomId := v.toText }
  | "isvisible" => some fun v e => { e with isVisible := v.toBool }
  | "istakeable" => some fun v e => { e with isTakeable := v.toBool }
  | "isopen" => some fun v e => { e with isOpen := v.toBool }
  | "islocked" => some fun v e => { e with isLocked := v.toBool }
  | "value" => some fun v e => { e with value := max v.toInt 0 }
  | "weight" => some fun v e => { e with weight := Property.notNegative v.toFloat }
  | _ => none

def Player.setHealth (h : Int64) (e : Player) : Player :=
  { e with health := Whole.clampTo 0 (max e.maxHealth 0) h (Whole.le_max_right _ _) }

def Player.setMaxHealth (h : Int64) (e : Player) : Player :=
  { e with maxHealth := max h 1, health := min e.health (max h 1) }

def Player.setter? : String → Option (Value → Player → Player)
  | "name" => some fun v e => { e with name := v.toText }
  | "health" => some fun v e => e.setHealth v.toInt
  | "maxhealth" => some fun v e => e.setMaxHealth v.toInt
  | "gold" => some fun v e => { e with gold := max v.toInt 0 }
  | "experience" => some fun v e => { e with experience := max v.toInt 0 }
  | "roomid" => some fun v e => { e with roomId := v.toText }
  | _ => none

def GameState.setter? : String → Option (Value → GameState → GameState)
  | "turn" => some fun v e => { e with turn := max v.toInt 0 }
  | "hour" => some fun v e => { e with hour := Whole.hourOf v.toInt }
  | "weather" => some fun v e => { e with weather := v.toText }
  | "isadventurecompleted" => some fun v e => { e with isAdventureCompleted := v.toBool }
  | "score" => some fun v e => { e with score := v.toInt }
  | _ => none

end StoryGraph
