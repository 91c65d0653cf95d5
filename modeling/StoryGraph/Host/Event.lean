import StoryGraph.Json.Record

/-!
What a script asks the game around it to do. Events go out in order and are never answered.
-/

namespace StoryGraph

inductive HostEvent where
  | showMessage (text : String)
  | playSound (soundId : String)
  | roomMusicChanged (roomId musicId : String)
  | playerTeleported (roomId : String)
  | startConversation (npcId : String)
  | startCombat (npcId : String)
  | startTrade (npcId : String)
  | adventureCompleted
  /-- A walk that was aborted or failed, or a trigger that was dropped. -/
  | diagnostic (text : String)
deriving DecidableEq, Repr

namespace HostEvent

def tag : HostEvent → String
  | showMessage _ => "show_message"
  | playSound _ => "play_sound"
  | roomMusicChanged _ _ => "room_music_changed"
  | playerTeleported _ => "player_teleported"
  | startConversation _ => "start_conversation"
  | startCombat _ => "start_combat"
  | startTrade _ => "start_trade"
  | adventureCompleted => "adventure_completed"
  | diagnostic _ => "diagnostic"

/-- The fields of an event, by name. -/
def fields : HostEvent → List (String × String)
  | showMessage text => [("text", text)]
  | playSound soundId => [("sound_id", soundId)]
  | roomMusicChanged roomId musicId => [("room_id", roomId), ("music_id", musicId)]
  | playerTeleported roomId => [("room_id", roomId)]
  | startConversation npcId => [("npc_id", npcId)]
  | startCombat npcId => [("npc_id", npcId)]
  | startTrade npcId => [("npc_id", npcId)]
  | adventureCompleted => []
  | diagnostic text => [("text", text)]

def toJson (e : HostEvent) : Json :=
  .obj (("type", .str e.tag) :: e.fields.map fun f => (f.1, .str f.2))

def oneText? (name : String) (make : String → HostEvent) (j : Json) : Option HostEvent := do
  let r ← j.record? [name]
  return make (← r.need name Json.text?)

/-- Reads the fields of the event that a tag names. -/
def ofFields? (tag : String) (j : Json) : Option HostEvent :=
  match tag with
  | "show_message" => oneText? "text" showMessage j
  | "play_sound" => oneText? "sound_id" playSound j
  | "room_music_changed" => do
    let r ← j.record? ["room_id", "music_id"]
    let roomId ← r.need "room_id" Json.text?
    let musicId ← r.need "music_id" Json.text?
    return roomMusicChanged roomId musicId
  | "player_teleported" => oneText? "room_id" playerTeleported j
  | "start_conversation" => oneText? "npc_id" startConversation j
  | "start_combat" => oneText? "npc_id" startCombat j
  | "start_trade" => oneText? "npc_id" startTrade j
  | "adventure_completed" => (j.record? []).map fun _ => adventureCompleted
  | "diagnostic" => oneText? "text" diagnostic j
  | _ => none

/-- Reads an event from an object with the field `type`, or from a row that begins with the tag. -/
def ofJson? (j : Json) : Option HostEvent := do
  let _ ← j.canonical?
  match j with
  | .obj fields =>
    match fields.filter fun f => f.1 == "type" with
    | [(_, .str tag)] => ofFields? tag (.obj (fields.filter fun f => f.1 != "type"))
    | _ => none
  | .arr (.str tag :: rest) => ofFields? tag (.arr rest)
  | _ => none

end HostEvent

end StoryGraph
