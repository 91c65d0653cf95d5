import StoryGraph.Sorted
import StoryGraph.Value.Basic

/-!
The state of a game: the things in it, the player, the quests, and what scripts have noted down.
-/

namespace StoryGraph

structure Room where
  id : String := ""
  name : String := ""
  description : String := ""
  isDark : Bool := false
  isVisited : Bool := false
  musicId : String := ""
deriving DecidableEq

structure Door where
  id : String := ""
  name : String := ""
  fromRoomId : String := ""
  toRoomId : String := ""
  isOpen : Bool := false
  isLocked : Bool := false
  isVisible : Bool := true
  keyObjectId : String := ""
deriving DecidableEq

structure Npc where
  id : String := ""
  name : String := ""
  description : String := ""
  roomId : String := ""
  health : Int64 := 10
  maxHealth : Int64 := 10
  isHostile : Bool := false
  isCorpse : Bool := false
  isVisible : Bool := true
  gold : Int64 := 0
  greeting : String := ""
deriving DecidableEq

def Npc.isAlive (n : Npc) : Bool := !n.isCorpse && decide (0 < n.health)

structure GameObject where
  id : String := ""
  name : String := ""
  description : String := ""
  /-- The room that the object lies in; empty while the player carries it. -/
  roomId : String := ""
  isVisible : Bool := true
  isTakeable : Bool := true
  isOpen : Bool := false
  isLocked : Bool := false
  value : Int64 := 0
  weight : Float := 0.0
deriving DecidableEq

structure Player where
  name : String := "Player"
  health : Int64 := 100
  maxHealth : Int64 := 100
  gold : Int64 := 0
  experience : Int64 := 0
  roomId : String := ""
  /-- The ids of the objects that the player carries. -/
  inventory : List String := []
deriving DecidableEq

inductive QuestState where
  | notStarted
  | active
  | completed
  | failed
deriving DecidableEq, Repr

structure Quest where
  id : String := ""
  name : String := ""
  state : QuestState := .notStarted
  stage : Int64 := 0
deriving DecidableEq

/-- A change of a stat that ends after some turns. -/
structure Modifier where
  id : String := ""
  stat : String := ""
  amount : Int64 := 0
  remainingTurns : Int64 := 0
deriving DecidableEq

structure Combat where
  npcId : String := ""
  round : Int64 := 0
deriving DecidableEq

structure GameState where
  turn : Int64 := 0
  /-- The hour of the day. -/
  hour : Int64 := 8
  weather : String := "Clear"
  isAdventureCompleted : Bool := false
  score : Int64 := 0
deriving DecidableEq

def GameState.isNight (g : GameState) : Bool := decide (20 ≤ g.hour) || decide (g.hour < 6)

structure World where
  rooms : List Room := []
  doors : List Door := []
  npcs : List Npc := []
  objects : List GameObject := []
  player : Player := {}
  quests : List Quest := []
  modifiers : List Modifier := []
  combat : Option Combat := none
  game : GameState := {}
  flags : NameSet := .empty
  vars : NameMap Value := .empty

instance : Inhabited World := ⟨{}⟩

end StoryGraph
