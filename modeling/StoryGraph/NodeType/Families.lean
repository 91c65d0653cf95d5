/-!
The node types of each family, in catalog order, with their names.
-/

namespace StoryGraph

/-- What starts a walk. -/
inductive EventType where
  | onGameStart
  | onEnter
  | onExit
  | onLook
  | onExamine
  | onTalk
  | onTake
  | onDrop
  | onUse
  | onGive
  | onOpen
  | onClose
  | onLock
  | onUnlock
  | onAttack
  | onDeath
  | onCommand
  | onTurnStart
  | onTurnEnd
  | onTimeOfDay
  | onDoorOpened
  | onDoorClosed
  | onQuestStarted
  | onQuestCompleted
  | onCombatStart
  | onCombatEnd
  | onPropertyChanged
  | onCustom
deriving DecidableEq, Repr

namespace EventType

def all : List EventType :=
  [.onGameStart, .onEnter, .onExit, .onLook, .onExamine, .onTalk, .onTake, .onDrop, .onUse,
   .onGive, .onOpen, .onClose, .onLock, .onUnlock, .onAttack, .onDeath, .onCommand,
   .onTurnStart, .onTurnEnd, .onTimeOfDay, .onDoorOpened, .onDoorClosed, .onQuestStarted,
   .onQuestCompleted, .onCombatStart, .onCombatEnd, .onPropertyChanged, .onCustom]

def name : EventType → String
  | onGameStart => "OnGameStart"
  | onEnter => "OnEnter"
  | onExit => "OnExit"
  | onLook => "OnLook"
  | onExamine => "OnExamine"
  | onTalk => "OnTalk"
  | onTake => "OnTake"
  | onDrop => "OnDrop"
  | onUse => "OnUse"
  | onGive => "OnGive"
  | onOpen => "OnOpen"
  | onClose => "OnClose"
  | onLock => "OnLock"
  | onUnlock => "OnUnlock"
  | onAttack => "OnAttack"
  | onDeath => "OnDeath"
  | onCommand => "OnCommand"
  | onTurnStart => "OnTurnStart"
  | onTurnEnd => "OnTurnEnd"
  | onTimeOfDay => "OnTimeOfDay"
  | onDoorOpened => "OnDoorOpened"
  | onDoorClosed => "OnDoorClosed"
  | onQuestStarted => "OnQuestStarted"
  | onQuestCompleted => "OnQuestCompleted"
  | onCombatStart => "OnCombatStart"
  | onCombatEnd => "OnCombatEnd"
  | onPropertyChanged => "OnPropertyChanged"
  | onCustom => "OnCustom"

theorem mem_all (t : EventType) : t ∈ all := by cases t <;> decide

end EventType

/-- Questions about the world; a walk goes on by the port `True` or `False`. -/
inductive ConditionType where
  | hasItem
  | playerInRoom
  | roomVisited
  | roomIsDark
  | doorIsOpen
  | doorIsLocked
  | npcIsAlive
  | npcIsHostile
  | npcInRoom
  | objectInRoom
  | objectIsVisible
  | objectIsOpen
  | objectIsLocked
  | playerHealthAbove
  | playerHealthBelow
  | playerGoldAtLeast
  | questNotStarted
  | questActive
  | questCompleted
  | questStageIs
  | flagIsSet
  | variableEquals
  | variableGreaterThan
  | variableLessThan
  | timeOfDayBetween
  | isNight
  | inCombat
  | hasModifier
  | randomChance
  | propertyEquals
  | compareValues
deriving DecidableEq, Repr

namespace ConditionType

def all : List ConditionType :=
  [.hasItem, .playerInRoom, .roomVisited, .roomIsDark, .doorIsOpen, .doorIsLocked, .npcIsAlive,
   .npcIsHostile, .npcInRoom, .objectInRoom, .objectIsVisible, .objectIsOpen, .objectIsLocked,
   .playerHealthAbove, .playerHealthBelow, .playerGoldAtLeast, .questNotStarted, .questActive,
   .questCompleted, .questStageIs, .flagIsSet, .variableEquals, .variableGreaterThan,
   .variableLessThan, .timeOfDayBetween, .isNight, .inCombat, .hasModifier, .randomChance,
   .propertyEquals, .compareValues]

def name : ConditionType → String
  | hasItem => "HasItem"
  | playerInRoom => "PlayerInRoom"
  | roomVisited => "RoomVisited"
  | roomIsDark => "RoomIsDark"
  | doorIsOpen => "DoorIsOpen"
  | doorIsLocked => "DoorIsLocked"
  | npcIsAlive => "NpcIsAlive"
  | npcIsHostile => "NpcIsHostile"
  | npcInRoom => "NpcInRoom"
  | objectInRoom => "ObjectInRoom"
  | objectIsVisible => "ObjectIsVisible"
  | objectIsOpen => "ObjectIsOpen"
  | objectIsLocked => "ObjectIsLocked"
  | playerHealthAbove => "PlayerHealthAbove"
  | playerHealthBelow => "PlayerHealthBelow"
  | playerGoldAtLeast => "PlayerGoldAtLeast"
  | questNotStarted => "QuestNotStarted"
  | questActive => "QuestActive"
  | questCompleted => "QuestCompleted"
  | questStageIs => "QuestStageIs"
  | flagIsSet => "FlagIsSet"
  | variableEquals => "VariableEquals"
  | variableGreaterThan => "VariableGreaterThan"
  | variableLessThan => "VariableLessThan"
  | timeOfDayBetween => "TimeOfDayBetween"
  | isNight => "IsNight"
  | inCombat => "InCombat"
  | hasModifier => "HasModifier"
  | randomChance => "RandomChance"
  | propertyEquals => "PropertyEquals"
  | compareValues => "CompareValues"

theorem mem_all (t : ConditionType) : t ∈ all := by cases t <;> decide

end ConditionType

/-- Changes of the world and notices to the host. -/
inductive ActionType where
  | showMessage
  | playSound
  | setRoomMusic
  | teleportPlayer
  | startConversation
  | startCombat
  | endCombat
  | startTrade
  | completeAdventure
  | giveItem
  | removeItem
  | consumeItem
  | moveObject
  | setObjectVisible
  | openDoor
  | closeDoor
  | lockDoor
  | unlockDoor
  | setDoorVisible
  | moveNpc
  | setNpcHostile
  | damageNpc
  | healNpc
  | killNpc
  | damagePlayer
  | healPlayer
  | addGold
  | removeGold
  | addExperience
  | startQuest
  | advanceQuest
  | setQuestStage
  | completeQuest
  | failQuest
  | setFlag
  | clearFlag
  | setVariable
  | incrementVariable
  | setProperty
  | setRoomDark
  | setRoomDescription
  | setObjectDescription
  | addModifier
  | removeModifier
  | advanceTime
  | setWeather
  | addScore
  | log
  | triggerEvent
deriving DecidableEq, Repr

namespace ActionType

def all : List ActionType :=
  [.showMessage, .playSound, .setRoomMusic, .teleportPlayer, .startConversation, .startCombat,
   .endCombat, .startTrade, .completeAdventure, .giveItem, .removeItem, .consumeItem,
   .moveObject, .setObjectVisible, .openDoor, .closeDoor, .lockDoor, .unlockDoor,
   .setDoorVisible, .moveNpc, .setNpcHostile, .damageNpc, .healNpc, .killNpc, .damagePlayer,
   .healPlayer, .addGold, .removeGold, .addExperience, .startQuest, .advanceQuest,
   .setQuestStage, .completeQuest, .failQuest, .setFlag, .clearFlag, .setVariable,
   .incrementVariable, .setProperty, .setRoomDark, .setRoomDescription, .setObjectDescription,
   .addModifier, .removeModifier, .advanceTime, .setWeather, .addScore, .log, .triggerEvent]

def name : ActionType → String
  | showMessage => "ShowMessage"
  | playSound => "PlaySound"
  | setRoomMusic => "SetRoomMusic"
  | teleportPlayer => "TeleportPlayer"
  | startConversation => "StartConversation"
  | startCombat => "StartCombat"
  | endCombat => "EndCombat"
  | startTrade => "StartTrade"
  | completeAdventure => "CompleteAdventure"
  | giveItem => "GiveItem"
  | removeItem => "RemoveItem"
  | consumeItem => "ConsumeItem"
  | moveObject => "MoveObject"
  | setObjectVisible => "SetObjectVisible"
  | openDoor => "OpenDoor"
  | closeDoor => "CloseDoor"
  | lockDoor => "LockDoor"
  | unlockDoor => "UnlockDoor"
  | setDoorVisible => "SetDoorVisible"
  | moveNpc => "MoveNpc"
  | setNpcHostile => "SetNpcHostile"
  | damageNpc => "DamageNpc"
  | healNpc => "HealNpc"
  | killNpc => "KillNpc"
  | damagePlayer => "DamagePlayer"
  | healPlayer => "HealPlayer"
  | addGold => "AddGold"
  | removeGold => "RemoveGold"
  | addExperience => "AddExperience"
  | startQuest => "StartQuest"
  | advanceQuest => "AdvanceQuest"
  | setQuestStage => "SetQuestStage"
  | completeQuest => "CompleteQuest"
  | failQuest => "FailQuest"
  | setFlag => "SetFlag"
  | clearFlag => "ClearFlag"
  | setVariable => "SetVariable"
  | incrementVariable => "IncrementVariable"
  | setProperty => "SetProperty"
  | setRoomDark => "SetRoomDark"
  | setRoomDescription => "SetRoomDescription"
  | setObjectDescription => "SetObjectDescription"
  | addModifier => "AddModifier"
  | removeModifier => "RemoveModifier"
  | advanceTime => "AdvanceTime"
  | setWeather => "SetWeather"
  | addScore => "AddScore"
  | log => "Log"
  | triggerEvent => "TriggerEvent"

theorem mem_all (t : ActionType) : t ∈ all := by cases t <;> decide

end ActionType

/-- Where a walk goes on, and when. -/
inductive FlowType where
  | branch
  | sequence
  | delay
  | randomBranch
deriving DecidableEq, Repr

namespace FlowType

def all : List FlowType :=
  [.branch, .sequence, .delay, .randomBranch]

def name : FlowType → String
  | branch => "Branch"
  | sequence => "Sequence"
  | delay => "Delay"
  | randomBranch => "RandomBranch"

theorem mem_all (t : FlowType) : t ∈ all := by cases t <;> decide

end FlowType

/-- Values that are computed and kept for later nodes. -/
inductive SourceType where
  | constant
  | getVariable
  | getFlag
  | getProperty
  | playerHealth
  | playerGold
  | playerRoom
  | npcHealth
  | questStage
  | timeOfDay
  | turnCount
  | inventoryCount
  | randomNumber
deriving DecidableEq, Repr

namespace SourceType

def all : List SourceType :=
  [.constant, .getVariable, .getFlag, .getProperty, .playerHealth, .playerGold, .playerRoom,
   .npcHealth, .questStage, .timeOfDay, .turnCount, .inventoryCount, .randomNumber]

def name : SourceType → String
  | constant => "Constant"
  | getVariable => "GetVariable"
  | getFlag => "GetFlag"
  | getProperty => "GetProperty"
  | playerHealth => "PlayerHealth"
  | playerGold => "PlayerGold"
  | playerRoom => "PlayerRoom"
  | npcHealth => "NpcHealth"
  | questStage => "QuestStage"
  | timeOfDay => "TimeOfDay"
  | turnCount => "TurnCount"
  | inventoryCount => "InventoryCount"
  | randomNumber => "RandomNumber"

theorem mem_all (t : SourceType) : t ∈ all := by cases t <;> decide

end SourceType

/-- Lines that are spoken or told. -/
inductive DialogueType where
  | say
  | narrate
  | playVoice
  | setGreeting
deriving DecidableEq, Repr

namespace DialogueType

def all : List DialogueType :=
  [.say, .narrate, .playVoice, .setGreeting]

def name : DialogueType → String
  | say => "Say"
  | narrate => "Narrate"
  | playVoice => "PlayVoice"
  | setGreeting => "SetGreeting"

theorem mem_all (t : DialogueType) : t ∈ all := by cases t <;> decide

end DialogueType

end StoryGraph
