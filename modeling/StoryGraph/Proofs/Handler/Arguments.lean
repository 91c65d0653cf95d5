import StoryGraph.Proofs.Handler.Ways
import StoryGraph.Proofs.Property.Known
import StoryGraph.Proofs.Table

/-!
What actions need. Main statement: an action that lacks what it needs, or names nothing, is idle; what it can do
without is the same as if a default had been written.
-/

namespace StoryGraph

namespace Bag

variable {b : Bag} {key : String}

theorem eq_none_of_find? (missing : b.find? key = none) : ∀ e ∈ b.entries, Text.sameName e.1 key = false := by
  rw [find?] at missing
  split at missing
  · cases missing
  · have none_like : b.entries.filter (fun e => Text.sameName e.1 key) = [] := by
      cases alike : b.entries.filter fun e => Text.sameName e.1 key with
      | nil => rfl
      | cons e rest => simp [alike, smallest?] at missing
    exact fun e mem => Bool.eq_false_iff.2 (List.filter_eq_nil_iff.1 none_like e mem)

theorem find?_insert (b : Bag) (key : String) (v : Value) : find? (Table.insert b key v) key = some v := by
  rw [find?, Table.get?_insert, if_pos rfl]

/-- A new property does not get in the way of one of another name. -/
theorem find?_insert_other (missing : b.find? key = none) {other : String} (unlike : Text.sameName key other = false)
    (v : Value) : find? (Table.insert b key v) other = b.find? other := by
  have new : key ∉ b.entries.map Prod.fst := by
    intro mem
    obtain ⟨e, listed, rfl⟩ := List.mem_map.1 mem
    have same := Text.sameName_refl e.1
    rw [eq_none_of_find? missing e listed] at same
    cases same
  have apart : key ≠ other := by
    rintro rfl
    rw [Text.sameName_refl] at unlike
    cases unlike
  have entries : (Table.insert b key v).entries = b.entries ++ [(key, v)] := Table.putEntry_new v new
  have alike : (b.entries ++ [(key, v)]).filter (fun e => Text.sameName e.1 other) =
      b.entries.filter fun e => Text.sameName e.1 other := by
    simp [List.filter_append, unlike]
  rw [find?, find?, Table.get?_insert, if_neg apart, entries, alike]

end Bag

/-- The call with one more property at its node. -/
def Call.given (c : Call) (key : String) (v : Value) : Call :=
  { c with node := { c.node with properties := Table.insert c.node.properties key v } }

namespace ActionType

/-- The properties that the catalog lists for an action, but for those that it lists with a default. -/
def listed : ActionType → List String
  | showMessage => ["Text"]
  | playSound => ["SoundId"]
  | setRoomMusic => ["RoomId", "MusicId"]
  | teleportPlayer => ["RoomId"]
  | startConversation | startCombat | startTrade | killNpc => ["NpcId"]
  | endCombat | completeAdventure => []
  | giveItem | removeItem | consumeItem => ["ObjectId"]
  | moveObject => ["ObjectId", "RoomId"]
  | setObjectVisible => ["ObjectId", "Visible"]
  | openDoor | closeDoor | lockDoor | unlockDoor => ["DoorId"]
  | setDoorVisible => ["DoorId", "Visible"]
  | moveNpc => ["NpcId", "RoomId"]
  | setNpcHostile => ["NpcId", "Hostile"]
  | damageNpc | healNpc => ["NpcId", "Amount"]
  | damagePlayer | healPlayer | addGold | removeGold | addExperience | addScore => ["Amount"]
  | startQuest | advanceQuest | completeQuest | failQuest => ["QuestId"]
  | setQuestStage => ["QuestId", "Stage"]
  | setFlag | clearFlag => ["Flag"]
  | setVariable => ["Name", "Value"]
  | incrementVariable => ["Name"]
  | setProperty => ["EntityType", "EntityId", "PropertyName", "Value"]
  | setRoomDark => ["RoomId", "Dark"]
  | setRoomDescription => ["RoomId", "Text"]
  | setObjectDescription => ["ObjectId", "Text"]
  | addModifier => ["ModifierId", "Stat", "Amount", "Turns"]
  | removeModifier => ["ModifierId"]
  | advanceTime => ["Hours"]
  | setWeather => ["Weather"]
  | log => ["Message", "Level"]
  | triggerEvent => ["OwnerType", "OwnerId", "EventTag"]

/-- Those of the listed properties that an action can do without. -/
def optional : ActionType → List String
  | setObjectVisible | setDoorVisible => ["Visible"]
  | setNpcHostile => ["Hostile"]
  | setRoomDark => ["Dark"]
  | setRoomDescription | setObjectDescription => ["Text"]
  | setVariable | setProperty => ["Value"]
  | addModifier => ["Amount", "Turns"]
  | _ => []

/-- What stands for a property that is missing: things are shown, people are hostile and rooms are dark, a variable
goes up by one, and a modifier changes nothing for one turn. -/
def defaults : ActionType → List (String × Value)
  | setObjectVisible | setDoorVisible => [("Visible", .bool true)]
  | setNpcHostile => [("Hostile", .bool true)]
  | setRoomDark => [("Dark", .bool true)]
  | incrementVariable => [("Amount", .int 1)]
  | addModifier => [("Amount", .int 0), ("Turns", .int 1)]
  | log => [("Message", .string ""), ("Level", .string "info")]
  | _ => []

/-- The port by which an idle action goes on. -/
def wayOn : ActionType → String
  | consumeItem => Port.onInsufficient
  | _ => Port.exec

end ActionType

/-- What an action asks of its node and of the world before it does anything. -/
inductive Need where
  | text (key : String)
  | whole (key : String)
  | room
  | door
  | npc
  | object
  /-- An item that the player carries. -/
  | carried
  /-- An entity of any type, and a property's name. -/
  | entity
deriving DecidableEq

namespace Need

/-- The properties that tell what is needed. -/
def keys : Need → List String
  | text key | whole key => [key]
  | room => ["RoomId"]
  | door => ["DoorId"]
  | npc => ["NpcId"]
  | object | carried => ["ObjectId"]
  | entity => ["EntityType", "EntityId", "PropertyName"]

def Met (c : Call) : Need → Prop
  | text key => ∃ s, c.arg key = some s
  | whole key => ∃ n, c.amount key = some n
  | room => ∃ r, (c.arg "RoomId").bind c.world.room? = some r
  | door => ∃ d, (c.arg "DoorId").bind c.world.door? = some d
  | npc => ∃ n, (c.arg "NpcId").bind c.world.npc? = some n
  | object => ∃ o, (c.arg "ObjectId").bind c.world.object? = some o
  | carried => ∃ id, c.arg "ObjectId" = some id ∧ c.world.player.hasItem id = true
  | entity => ∃ t id property, c.target? = some (t, id, property) ∧ c.world.Has t id

end Need

/-- What an action of this type needs; it is idle without. -/
def ActionType.needs : ActionType → List Need
  | showMessage => [.text "Text"]
  | playSound => [.text "SoundId"]
  | setRoomMusic => [.text "MusicId", .room]
  | teleportPlayer | setRoomDark | setRoomDescription => [.room]
  | startConversation | startCombat | startTrade | killNpc | setNpcHostile => [.npc]
  | endCombat | completeAdventure | log => []
  | giveItem | setObjectVisible | setObjectDescription => [.object]
  | removeItem | consumeItem => [.carried]
  | moveObject => [.object, .room]
  | openDoor | closeDoor | lockDoor | unlockDoor | setDoorVisible => [.door]
  | moveNpc => [.npc, .room]
  | damageNpc | healNpc => [.whole "Amount", .npc]
  | damagePlayer | healPlayer | addGold | removeGold | addExperience | addScore => [.whole "Amount"]
  | startQuest | advanceQuest | completeQuest | failQuest => [.text "QuestId"]
  | setQuestStage => [.text "QuestId", .whole "Stage"]
  | setFlag | clearFlag => [.text "Flag"]
  | setVariable | incrementVariable => [.text "Name"]
  | setProperty => [.entity]
  | addModifier => [.text "ModifierId", .text "Stat"]
  | removeModifier => [.text "ModifierId"]
  | advanceTime => [.whole "Hours"]
  | setWeather => [.text "Weather"]
  | triggerEvent => [.text "OwnerType", .text "OwnerId", .text "EventTag"]

/-- Nothing is done but to go on by this port: no change, no notice to the host and no walk that is asked for. -/
structure Response.Idles (c : Call) (port : String) (r : Response) : Prop where
  world : r.world = c.world
  notices : r.notices = []
  drawn : r.drawn = 0
  result : r.result = .ok { next := .goOn port }

namespace Act

variable {P : Act → Prop} {c : Call}

theorem withArg_given {key : String} {f : String → Act} (hi : P (idle c)) (hf : ∀ s, c.arg key = some s → P (f s)) :
    P (withArg c key f) := by
  rw [withArg]
  split
  · rename_i given
    exact hf _ given
  · exact hi

/-- Only a loss of something that is carried is a change. -/
theorem takeItem_missing {w : World} {id : String} (missing : w.player.hasItem id = false) : w.takeItem id = w := by
  have kept : (w.player.inventory.filter fun i => !Text.sameName i id) = w.player.inventory := by
    rw [List.filter_eq_self]
    intro i mem
    rw [Player.hasItem, List.any_eq_false] at missing
    simpa using missing i mem
  simp only [World.takeItem, Player.removeItem, kept]

/-- The action has all that it needs, or it is idle. -/
def IdlesUnlessMet (t : ActionType) (c : Call) (a : Act) : Prop :=
  (∀ need ∈ t.needs, need.Met c) ∨ a.response.Idles c t.wayOn

theorem idlesUnlessMet_of (t : ActionType) (c : Call) : IdlesUnlessMet t c (of t c) := by
  have idles : (idle c).response.Idles c Port.exec := ⟨rfl, rfl, rfl, rfl⟩
  have one {need : Need} (met : need.Met c) : ∀ n ∈ [need], n.Met c := List.forall_mem_singleton.2 met
  have two {need need' : Need} (met : need.Met c) (met' : need'.Met c) : ∀ n ∈ [need, need'], n.Met c :=
    List.forall_mem_cons.2 ⟨met, one met'⟩
  cases t with
  | endCombat | completeAdventure => exact .inl fun _ none_needed => nomatch none_needed
  | log => exact .inr ⟨rfl, rfl, rfl, rfl⟩
  | showMessage | playSound | startQuest | completeQuest | failQuest | advanceQuest | setFlag | clearFlag
  | setVariable | incrementVariable | removeModifier | setWeather =>
    exact withArg_given (.inr idles) fun s given => .inl (one ⟨s, given⟩)
  | damagePlayer | healPlayer | addGold | removeGold | addExperience | addScore | advanceTime =>
    exact withAmount_given (.inr idles) fun n given => .inl (one ⟨n, given⟩)
  | teleportPlayer | setRoomDark | setRoomDescription =>
    exact withRoom_named (.inr idles) fun r named => .inl (one ⟨r, named⟩)
  | openDoor | closeDoor | lockDoor | unlockDoor | setDoorVisible =>
    exact withDoor_named (.inr idles) fun d named => .inl (one ⟨d, named⟩)
  | startConversation | startCombat | startTrade | killNpc | setNpcHostile =>
    exact withNpc_named (.inr idles) fun n named => .inl (one ⟨n, named⟩)
  | giveItem | setObjectVisible | setObjectDescription =>
    exact withObject_named (.inr idles) fun o named => .inl (one ⟨o, named⟩)
  | setRoomMusic =>
    exact withArg_given (.inr idles) fun s given => withRoom_named (.inr idles) fun r named =>
      .inl (two ⟨s, given⟩ ⟨r, named⟩)
  | moveNpc =>
    exact withNpc_named (.inr idles) fun n named => withRoom_named (.inr idles) fun r there =>
      .inl (two ⟨n, named⟩ ⟨r, there⟩)
  | moveObject =>
    exact withObject_named (.inr idles) fun o named => withRoom_named (.inr idles) fun r there =>
      .inl (two ⟨o, named⟩ ⟨r, there⟩)
  | damageNpc | healNpc =>
    exact withAmount_given (.inr idles) fun n given => withNpc_named (.inr idles) fun e named =>
      .inl (two ⟨n, given⟩ ⟨e, named⟩)
  | setQuestStage =>
    exact withArg_given (.inr idles) fun s given => withAmount_given (.inr idles) fun n stage =>
      .inl (two ⟨s, given⟩ ⟨n, stage⟩)
  | addModifier =>
    exact withArg_given (.inr idles) fun s given => withArg_given (.inr idles) fun s' stat =>
      .inl (two ⟨s, given⟩ ⟨s', stat⟩)
  | triggerEvent =>
    exact withArg_given (.inr idles) fun s given => withArg_given (.inr idles) fun s' owner =>
      withArg_given (.inr idles) fun s'' tag =>
        .inl (List.forall_mem_cons.2 ⟨⟨s, given⟩, two ⟨s', owner⟩ ⟨s'', tag⟩⟩)
  | removeItem =>
    refine withArg_given (.inr idles) fun id given => ?_
    cases carried : c.world.player.hasItem id with
    | true => exact .inl (one ⟨id, given, carried⟩)
    | false => exact .inr ⟨takeItem_missing carried, rfl, rfl, rfl⟩
  | consumeItem =>
    simp only [of, consumeItem]
    split
    · rename_i id given
      split
      · rename_i carried
        exact .inl (one ⟨id, given, carried⟩)
      · exact .inr ⟨rfl, rfl, rfl, rfl⟩
    · exact .inr ⟨rfl, rfl, rfl, rfl⟩
  | setProperty =>
    cases named : c.target? with
    | none =>
      have same : of .setProperty c = idle c := by simp only [of, setProperty, named]
      exact .inr (same ▸ idles)
    | some target =>
      obtain ⟨type, id, property⟩ := target
      by_cases here : c.world.Has type id
      · exact .inl (one ⟨type, id, property, named, here⟩)
      · have unset : c.world.setProperty? type id property (Bag.getValue c.node.properties "Value") = none := by
          rw [← Option.not_isSome_iff_eq_none, World.isSome_setProperty?, World.isSome_getProperty?_iff]
          exact fun met => here met.1
        have same : of .setProperty c = idle c := setProperty_of_unset named unset
        exact .inr (same ▸ idles)

end Act

theorem ActionType.exists_need (t : ActionType) (writes : t ≠ log) :
    ∀ key ∈ t.listed, key ∉ t.optional → ∃ need ∈ t.needs, key ∈ need.keys := by
  cases t with
  | log => exact absurd rfl writes
  | _ => decide

/-- If the node names a type of entity, it is not one of which there is one entity only. -/
def Call.OfMany (c : Call) : Prop :=
  ∀ t, (c.arg "EntityType").bind EntityType.ofName? = some t → t.isSingleton = false

theorem Call.arg_eq_none {c : Call} {key : String} (missing : Bag.find? c.node.properties key = none) :
    c.arg key = none := by
  rw [arg, Bag.getText?, missing]
  rfl

theorem Call.target?_eq_none {c : Call} {key : String} (asked : key ∈ Need.entity.keys)
    (many : key = "EntityId" → c.OfMany) (missing : Bag.find? c.node.properties key = none) : c.target? = none := by
  have missing := arg_eq_none missing
  simp only [Need.keys, List.mem_cons, List.not_mem_nil, or_false] at asked
  rw [target?]
  obtain rfl | rfl | rfl := asked
  · rw [missing]
    rfl
  · have many := many rfl
    rw [OfMany] at many
    cases named : c.arg "EntityType" with
    | none => rfl
    | some name =>
      simp only [named, Option.bind_some] at many
      cases type : EntityType.ofName? name with
      | none => simp [type]
      | some t => simp [type, missing, many t type]
  · cases c.arg "EntityType" with
    | none => rfl
    | some name => cases EntityType.ofName? name <;> simp [missing]

namespace Need

variable {c : Call}

/-- A need that is met has all its properties; only the id of the one entity of a type may be missing. -/
theorem not_met_of_missing {need : Need} {key : String} (asked : key ∈ need.keys)
    (many : key = "EntityId" → c.OfMany) (missing : Bag.find? c.node.properties key = none) : ¬ need.Met c := by
  have named := Call.arg_eq_none missing
  cases need with
  | entity =>
    have target := Call.target?_eq_none asked many missing
    simp [Met, target]
  | whole asking =>
    obtain rfl := List.mem_singleton.1 asked
    simp [Met, Call.amount, missing]
  | text asking =>
    obtain rfl := List.mem_singleton.1 asked
    simp [Met, named]
  | room | door | npc | object | carried =>
    obtain rfl := List.mem_singleton.1 asked
    simp [Met, named]

end Need

namespace Call

variable {c : Call} {key : String} {v : Value}

theorem find?_given (missing : Bag.find? c.node.properties key = none) {other : String}
    (unlike : Text.sameName key other = false) :
    Bag.find? (c.given key v).node.properties other = Bag.find? c.node.properties other :=
  Bag.find?_insert_other missing unlike v

theorem arg_given (missing : Bag.find? c.node.properties key = none) {other : String}
    (unlike : Text.sameName key other = false) : (c.given key v).arg other = c.arg other := by
  rw [arg, arg, Bag.getText?, Bag.getText?, find?_given missing unlike]

end Call

namespace Act

variable {c : Call} {key : String} {v : Value}

/-- A default that is written out makes no difference. -/
theorem of_given {t : ActionType} (default : (key, v) ∈ t.defaults) (missing : Bag.find? c.node.properties key = none) :
    of t (c.given key v) = of t c := by
  have world : (c.given key v).world = c.world := rfl
  have now : Bag.find? (c.given key v).node.properties key = some v := Bag.find?_insert _ key v
  have others (other : String) (unlike : Text.sameName key other = false) := Call.find?_given (v := v) missing unlike
  have args (other : String) (unlike : Text.sameName key other = false) := Call.arg_given (v := v) missing unlike
  cases t with
  | setObjectVisible =>
    obtain ⟨rfl, rfl⟩ := Prod.mk.inj (List.mem_singleton.1 default)
    have named := args "ObjectId" (by decide)
    simp only [of, withObject, named, world, idle, Bag.getBool, now, missing]
    rfl
  | setDoorVisible =>
    obtain ⟨rfl, rfl⟩ := Prod.mk.inj (List.mem_singleton.1 default)
    have named := args "DoorId" (by decide)
    simp only [of, withDoor, named, world, idle, Bag.getBool, now, missing]
    rfl
  | setNpcHostile =>
    obtain ⟨rfl, rfl⟩ := Prod.mk.inj (List.mem_singleton.1 default)
    have named := args "NpcId" (by decide)
    simp only [of, withNpc, named, world, idle, Bag.getBool, now, missing]
    rfl
  | setRoomDark =>
    obtain ⟨rfl, rfl⟩ := Prod.mk.inj (List.mem_singleton.1 default)
    have named := args "RoomId" (by decide)
    simp only [of, withRoom, named, world, idle, Bag.getBool, now, missing]
    rfl
  | incrementVariable =>
    obtain ⟨rfl, rfl⟩ := Prod.mk.inj (List.mem_singleton.1 default)
    have named := args "Name" (by decide)
    simp only [of, incrementVariable, withArg, named, world, idle, now, missing]
    rfl
  | addModifier =>
    simp only [ActionType.defaults, List.mem_cons, Prod.mk.injEq, List.not_mem_nil, or_false] at default
    obtain ⟨rfl, rfl⟩ | ⟨rfl, rfl⟩ := default
    · have id := args "ModifierId" (by decide)
      have stat := args "Stat" (by decide)
      have turns := others "Turns" (by decide)
      simp only [of, addModifier, withArg, id, stat, world, idle, Bag.getInt, turns, now, missing]
      rfl
    · have id := args "ModifierId" (by decide)
      have stat := args "Stat" (by decide)
      have amount := others "Amount" (by decide)
      simp only [of, addModifier, withArg, id, stat, world, idle, Bag.getInt, amount, now, missing]
      rfl
  | log =>
    simp only [ActionType.defaults, List.mem_cons, Prod.mk.injEq, List.not_mem_nil, or_false] at default
    obtain ⟨rfl, rfl⟩ | ⟨rfl, rfl⟩ := default
    · have level := others "Level" (by decide)
      simp only [of, log, Bag.getString, level, now, missing]
      rfl
    · have message := others "Message" (by decide)
      simp only [of, log, Bag.getString, message, now, missing]
      rfl
  | _ => exact absurd default List.not_mem_nil

end Act

section

variable (t : ActionType) (c : Call)

theorem builtin_idles_of_unmet {need : Need} (asked : need ∈ t.needs) (unmet : ¬ need.Met c) :
    (builtin (.action t) c).Idles c t.wayOn := by
  cases Act.idlesUnlessMet_of t c with
  | inl met => exact absurd (met need asked) unmet
  | inr idles => exact idles

theorem builtin_idles_of_missing {key : String} (listed : key ∈ t.listed) (needed : key ∉ t.optional)
    (many : key = "EntityId" → c.OfMany) (missing : Bag.find? c.node.properties key = none) :
    (builtin (.action t) c).Idles c t.wayOn := by
  by_cases writes : t = .log
  · subst writes
    exact ⟨rfl, rfl, rfl, rfl⟩
  · obtain ⟨need, asked, tells⟩ := t.exists_need writes key listed needed
    exact builtin_idles_of_unmet t c asked (Need.not_met_of_missing tells many missing)

/-- An action is idle if it lacks a listed property that it cannot do without, or names a room, a door, a person or an
object that does not exist, or an item that is not carried. The id may be missing where there is one entity of the type
only. What it can do without has a default, which might as well have been written. -/
theorem builtin_arguments :
    (∀ key ∈ t.listed, key ∉ t.optional → (key = "EntityId" → c.OfMany) → Bag.find? c.node.properties key = none →
      (builtin (.action t) c).Idles c t.wayOn) ∧
    (∀ need ∈ t.needs, ¬ need.Met c → (builtin (.action t) c).Idles c t.wayOn) ∧
    ∀ key v, (key, v) ∈ t.defaults → Bag.find? c.node.properties key = none →
      builtin (.action t) (c.given key v) = builtin (.action t) c :=
  ⟨fun _ => builtin_idles_of_missing t c, fun _ => builtin_idles_of_unmet t c,
    fun _ _ default missing => congrArg Act.response (Act.of_given default missing)⟩

end

/-- A call of one node in the cellar, where a lamp is hidden and the player has nothing. -/
def cellarCall (tag : String) (properties : List (String × Value)) : Call where
  node := { id := "node", typeTag := tag, properties := .ofList properties }
  graphId := "cellar"
  inputPort := Port.exec
  depth := 0
  outputs := .empty
  world := { objects := [{ id := "lamp", isVisible := false }] }
  draws := .ofSeed 7

/-- Nothing is consumed that is not carried, nothing is shown that is not named, and the lamp is shown also by the
value that stands for a missing one. -/
theorem builtin_arguments_lamp :
    let consume := cellarCall "Action_ConsumeItem" [("ObjectId", .string "lamp")]
    let blind := cellarCall "Action_SetObjectVisible" [("Visible", .bool true)]
    let reveal := cellarCall "Action_SetObjectVisible" [("ObjectId", .string "lamp")]
    (builtin (.action .consumeItem) consume).Idles consume Port.onInsufficient ∧
      (builtin (.action .setObjectVisible) blind).Idles blind Port.exec ∧
      builtin (.action .setObjectVisible) (reveal.given "Visible" (.bool true)) =
        builtin (.action .setObjectVisible) reveal := by
  intro consume blind reveal
  obtain ⟨-, unmet, -⟩ := builtin_arguments .consumeItem consume
  obtain ⟨missing, -, -⟩ := builtin_arguments .setObjectVisible blind
  obtain ⟨-, -, default⟩ := builtin_arguments .setObjectVisible reveal
  refine ⟨unmet .carried (by decide) ?_, missing "ObjectId" (by decide) (by decide) ?_ (by decide),
    default "Visible" (.bool true) (by decide) (by decide)⟩
  · rintro ⟨id, -, carried⟩
    exact absurd carried Bool.false_ne_true
  · exact fun same => absurd same (by decide)

/-- An action that lacks a listed property need not be idle: without an id the player is given gold, and without a word
on whether it is to be seen the lamp is shown. -/
theorem not_idle_of_missing :
    let gift := cellarCall "Action_SetProperty" [("EntityType", .string "Player"), ("PropertyName", .string "Gold"),
      ("Value", .int 5)]
    let reveal := cellarCall "Action_SetObjectVisible" [("ObjectId", .string "lamp")]
    ("EntityId" ∈ ActionType.setProperty.listed ∧ Bag.find? gift.node.properties "EntityId" = none ∧
      ¬ (builtin (.action .setProperty) gift).Idles gift Port.exec) ∧
    "Visible" ∈ ActionType.setObjectVisible.listed ∧ Bag.find? reveal.node.properties "Visible" = none ∧
      ¬ (builtin (.action .setObjectVisible) reveal).Idles reveal Port.exec := by
  intro gift reveal
  refine ⟨⟨by decide, by decide, fun idles => ?_⟩, by decide, by decide, fun idles => ?_⟩
  · exact absurd (congrArg (fun w => w.player.gold) idles.world) (by decide)
  · exact absurd (congrArg (fun w => w.objects.map GameObject.isVisible) idles.world) (by decide)

end StoryGraph
