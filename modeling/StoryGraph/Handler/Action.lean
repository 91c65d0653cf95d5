import StoryGraph.Handler.Basic

/-!
Actions: changes of the world and notices to the host. An action that lacks an argument or names
nothing does nothing, and goes on by `Exec`.
-/

namespace StoryGraph

/-- What an action comes to. -/
structure Act where
  world : World
  port : String := Port.exec
  notices : List HostEvent := []
  effects : List Effect := []
  logs : List LogLine := []
  /-- Why it broke down, if it did. -/
  broken : Option String := none

namespace Act

def response (a : Act) : Response :=
  { world := a.world, notices := a.notices, logs := a.logs,
    result := match a.broken with
      | some message => .error message
      | none => .ok { next := .goOn a.port, effects := a.effects } }

/-- Nothing is done. -/
def idle (c : Call) : Act := { world := c.world }

/-- Does something with an argument. -/
def withArg (c : Call) (key : String) (f : String → Act) : Act :=
  match c.arg key with
  | some s => f s
  | none => idle c

def withAmount (c : Call) (key : String) (f : Int64 → Act) : Act :=
  match c.amount key with
  | some n => f n
  | none => idle c

def withRoom (c : Call) (f : Room → Act) : Act :=
  match (c.arg "RoomId").bind c.world.room? with
  | some e => f e
  | none => idle c

def withDoor (c : Call) (f : Door → Door) : Act :=
  match (c.arg "DoorId").bind c.world.door? with
  | some e => { world := c.world.modifyDoor e.id f }
  | none => idle c

def withNpc (c : Call) (f : Npc → Act) : Act :=
  match (c.arg "NpcId").bind c.world.npc? with
  | some e => f e
  | none => idle c

def withObject (c : Call) (f : GameObject → Act) : Act :=
  match (c.arg "ObjectId").bind c.world.object? with
  | some e => f e
  | none => idle c

/-! Notices to the host. -/

def setRoomMusic (c : Call) : Act :=
  withArg c "MusicId" fun music => withRoom c fun r =>
    { world := c.world.modifyRoom r.id fun e => { e with musicId := music },
      notices := [.roomMusicChanged r.id music] }

def teleportPlayer (c : Call) : Act :=
  withRoom c fun r =>
    let w := c.world.modifyRoom r.id fun e => { e with isVisited := true }
    { world := { w with player := { w.player with roomId := r.id } },
      notices := [.playerTeleported r.id] }

def startCombat (c : Call) : Act :=
  withNpc c fun n =>
    if n.isAlive then
      { world := { c.world with combat := some ⟨n.id, 1⟩ }, notices := [.startCombat n.id] }
    else idle c

def completeAdventure (c : Call) : Act :=
  { world := { c.world with game := { c.world.game with isAdventureCompleted := true } },
    notices := [.adventureCompleted] }

/-! Objects. -/

def consumeItem (c : Call) : Act :=
  match c.arg "ObjectId" with
  | some id =>
    if c.world.player.hasItem id then { world := c.world.takeItem id }
    else { world := c.world, port := Port.onInsufficient }
  | none => { world := c.world, port := Port.onInsufficient }

def moveObject (c : Call) : Act :=
  withObject c fun o => withRoom c fun r =>
    let w := c.world.modifyObject o.id fun e => { e with roomId := r.id }
    { world := { w with player := w.player.removeItem o.id } }

/-! People. -/

/-- The world without a combat against this person. -/
def withoutCombat (w : World) (npcId : String) : World :=
  if w.combat.any fun k => Text.sameName k.npcId npcId then { w with combat := none } else w

/-- The health after a loss. Nothing is lost by a negative amount. -/
def lower (health amount : Int64) : Int64 := max (Whole.minus health (max amount 0)) 0

/-- The health after a gain, up to the greatest health. -/
def raise (health amount greatest : Int64) : Int64 := min (Whole.plus health (max amount 0)) greatest

def damageNpc (c : Call) : Act :=
  withAmount c "Amount" fun amount => withNpc c fun n =>
    let health := lower n.health amount
    if 0 < health then { world := c.world.modifyNpc n.id fun e => { e with health := health } }
    else
      { world := withoutCombat
          (c.world.modifyNpc n.id fun e =>
            { e with health := health, isCorpse := true, isHostile := false }) n.id,
        port := Port.onDeath }

def healNpc (c : Call) : Act :=
  withAmount c "Amount" fun amount => withNpc c fun n =>
    if n.isCorpse then idle c
    else { world := c.world.modifyNpc n.id fun e => { e with health := raise e.health amount e.maxHealth } }

def killNpc (c : Call) : Act :=
  withNpc c fun n =>
    { world := withoutCombat
        (c.world.modifyNpc n.id fun e => { e with health := 0, isCorpse := true, isHostile := false }) n.id }

/-! The player. -/

def player (c : Call) (f : Player → Player) : Act :=
  { world := { c.world with player := f c.world.player } }

def damagePlayer (c : Call) : Act :=
  withAmount c "Amount" fun amount =>
    let health := lower c.world.player.health amount
    { player c fun p => { p with health := health } with
      port := if health == 0 then Port.playerDied else Port.exec }

def removeGold (c : Call) : Act :=
  withAmount c "Amount" fun amount =>
    if c.world.player.gold < amount then { world := c.world, port := Port.notEnough }
    else player c fun p => { p with gold := Whole.minus p.gold (max amount 0) }

/-! Quests. -/

/-- A quest that has not been started becomes active. -/
def activate (q : Quest) : Quest :=
  match q.state with
  | .notStarted => { q with state := .active }
  | _ => q

def advanceQuest (c : Call) : Act :=
  withArg c "QuestId" fun id =>
    { world := { c.world with
        quests := modifyFirst (fun q => Text.sameName q.id id)
          (fun q => if q.state == .active then { q with stage := Whole.plus q.stage 1 } else q)
          c.world.quests } }

def setQuestStage (c : Call) : Act :=
  withArg c "QuestId" fun id => withAmount c "Stage" fun stage =>
    { world := c.world.modifyQuest id fun q => activate { q with stage := stage } }

def finishQuest (c : Call) (s : QuestState) : Act :=
  withArg c "QuestId" fun id => { world := c.world.modifyQuest id fun q => { q with state := s } }

/-! Variables and properties. -/

/-- Integers are added as such, all else as floats. -/
def sum : Value → Value → Value
  | .int a, .int b => .int (Whole.plus a b)
  | a, b => .float (a.toFloat + b.toFloat)

def incrementVariable (c : Call) : Act :=
  withArg c "Name" fun name =>
    let step := (Bag.find? c.node.properties "Amount").getD (.int 1)
    let current := (c.world.variableValue? name).getD (.int 0)
    { world := c.world.setVariable name (sum current step) }

/-- Writes a property; a value that became another one is announced. -/
def setProperty (c : Call) : Act :=
  match c.target? with
  | none => idle c
  | some (t, id, property) =>
    match c.world.writeProperty t id property (Bag.getValue c.node.properties "Value") with
    | (w, .changed change) => { world := w, effects := [.changed change] }
    | (w, _) => { world := w }

/-! Modifiers, time and score. -/

/-- A modifier of an id in use takes the place of the one in use. -/
def addModifier (c : Call) : Act :=
  withArg c "ModifierId" fun id => withArg c "Stat" fun stat =>
    let m : Modifier :=
      { id, stat, amount := Bag.getInt c.node.properties "Amount" 0,
        remainingTurns := max (Bag.getInt c.node.properties "Turns" 1) 1 }
    if (c.world.modifier? id).isSome then
      { world := { c.world with
          modifiers := modifyFirst (fun e => Text.sameName e.id id) (fun _ => m) c.world.modifiers } }
    else { world := { c.world with modifiers := c.world.modifiers ++ [m] } }

def game (c : Call) (f : GameState → GameState) : Act := { world := { c.world with game := f c.world.game } }

def advanceTime (c : Call) : Act :=
  withAmount c "Hours" fun hours =>
    match Whole.add (Whole.hourOf c.world.game.hour) (Whole.hourOf hours) with
    | .ok sum => game c fun g => { g with hour := Whole.hourOf sum }
    | .error message => { idle c with broken := some message }

def log (c : Call) : Act :=
  { world := c.world,
    logs := [⟨LogLevel.ofText (Bag.getString c.node.properties "Level" "info"), c.graphId, c.node.id,
      Bag.getString c.node.properties "Message" ""⟩] }

def triggerEvent (c : Call) : Act :=
  withArg c "OwnerType" fun ownerType => withArg c "OwnerId" fun ownerId => withArg c "EventTag" fun tag =>
    { world := c.world, effects := [.trigger ownerType ownerId tag] }

/-- What an action of each type comes to. -/
def of (t : ActionType) (c : Call) : Act :=
  match t with
  | .showMessage => withArg c "Text" fun s => { world := c.world, notices := [.showMessage s] }
  | .playSound => withArg c "SoundId" fun s => { world := c.world, notices := [.playSound s] }
  | .setRoomMusic => setRoomMusic c
  | .teleportPlayer => teleportPlayer c
  | .startConversation => withNpc c fun n => { world := c.world, notices := [.startConversation n.id] }
  | .startCombat => startCombat c
  | .endCombat => { world := { c.world with combat := none } }
  | .startTrade => withNpc c fun n => { world := c.world, notices := [.startTrade n.id] }
  | .completeAdventure => completeAdventure c
  | .giveItem => withObject c fun o => { world := c.world.giveItem o.id }
  | .removeItem => withArg c "ObjectId" fun id => { world := c.world.takeItem id }
  | .consumeItem => consumeItem c
  | .moveObject => moveObject c
  | .setObjectVisible =>
    withObject c fun o =>
      { world := c.world.modifyObject o.id fun e =>
          { e with isVisible := Bag.getBool c.node.properties "Visible" true } }
  | .openDoor => withDoor c fun d => { d with isOpen := true }
  | .closeDoor => withDoor c fun d => { d with isOpen := false }
  | .lockDoor => withDoor c fun d => { d with isOpen := false, isLocked := true }
  | .unlockDoor => withDoor c fun d => { d with isLocked := false }
  | .setDoorVisible =>
    withDoor c fun d => { d with isVisible := Bag.getBool c.node.properties "Visible" true }
  | .moveNpc =>
    withNpc c fun n => withRoom c fun r =>
      { world := c.world.modifyNpc n.id fun e => { e with roomId := r.id } }
  | .setNpcHostile =>
    withNpc c fun n =>
      { world := c.world.modifyNpc n.id fun e =>
          { e with isHostile := Bag.getBool c.node.properties "Hostile" true } }
  | .damageNpc => damageNpc c
  | .healNpc => healNpc c
  | .killNpc => killNpc c
  | .damagePlayer => damagePlayer c
  | .healPlayer =>
    withAmount c "Amount" fun n => player c fun p => { p with health := raise p.health n p.maxHealth }
  | .addGold => withAmount c "Amount" fun n => player c fun p => { p with gold := max (Whole.plus p.gold n) 0 }
  | .removeGold => removeGold c
  | .addExperience =>
    withAmount c "Amount" fun n => player c fun p => { p with experience := max (Whole.plus p.experience n) 0 }
  | .startQuest => withArg c "QuestId" fun id => { world := c.world.modifyQuest id activate }
  | .advanceQuest => advanceQuest c
  | .setQuestStage => setQuestStage c
  | .completeQuest => finishQuest c .completed
  | .failQuest => finishQuest c .failed
  | .setFlag => withArg c "Flag" fun f => { world := c.world.setFlag f }
  | .clearFlag => withArg c "Flag" fun f => { world := c.world.clearFlag f }
  | .setVariable =>
    withArg c "Name" fun name =>
      { world := c.world.setVariable name (Bag.getValue c.node.properties "Value") }
  | .incrementVariable => incrementVariable c
  | .setProperty => setProperty c
  | .setRoomDark =>
    withRoom c fun r =>
      { world := c.world.modifyRoom r.id fun e =>
          { e with isDark := Bag.getBool c.node.properties "Dark" true } }
  | .setRoomDescription =>
    withRoom c fun r =>
      { world := c.world.modifyRoom r.id fun e =>
          { e with description := Bag.getString c.node.properties "Text" "" } }
  | .setObjectDescription =>
    withObject c fun o =>
      { world := c.world.modifyObject o.id fun e =>
          { e with description := Bag.getString c.node.properties "Text" "" } }
  | .addModifier => addModifier c
  | .removeModifier =>
    withArg c "ModifierId" fun id =>
      { world := { c.world with modifiers := c.world.modifiers.filter fun m => !Text.sameName m.id id } }
  | .advanceTime => advanceTime c
  | .setWeather => withArg c "Weather" fun s => game c fun g => { g with weather := s }
  | .addScore => withAmount c "Amount" fun n => game c fun g => { g with score := Whole.plus g.score n }
  | .log => log c
  | .triggerEvent => triggerEvent c

def handle (t : ActionType) (c : Call) : Response := (of t c).response

end Act

end StoryGraph
