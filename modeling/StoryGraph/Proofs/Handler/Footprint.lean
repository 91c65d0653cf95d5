import StoryGraph.Engine.Basic
import StoryGraph.Proofs.Handler.Ways
import StoryGraph.Proofs.Property.Agreement

/-!
Which parts of a world are changed by what. Main statement: an action and a line of dialogue change no part of the
world but those that the type of the node names, whatever the node's arguments are.
-/

namespace StoryGraph

namespace World

inductive Part where
  | rooms
  | doors
  | npcs
  | objects
  | player
  | quests
  | modifiers
  | combat
  | game
  | flags
  | vars
deriving DecidableEq

namespace Part

/-- The part is as it was. -/
def Same (w w' : World) : Part → Prop
  | rooms => w'.rooms = w.rooms
  | doors => w'.doors = w.doors
  | npcs => w'.npcs = w.npcs
  | objects => w'.objects = w.objects
  | player => w'.player = w.player
  | quests => w'.quests = w.quests
  | modifiers => w'.modifiers = w.modifiers
  | combat => w'.combat = w.combat
  | game => w'.game = w.game
  | flags => w'.flags = w.flags
  | vars => w'.vars = w.vars

/-- The world with this part taken from another one. -/
def put (w source : World) : Part → World
  | rooms => { w with rooms := source.rooms }
  | doors => { w with doors := source.doors }
  | npcs => { w with npcs := source.npcs }
  | objects => { w with objects := source.objects }
  | player => { w with player := source.player }
  | quests => { w with quests := source.quests }
  | modifiers => { w with modifiers := source.modifiers }
  | combat => { w with combat := source.combat }
  | game => { w with game := source.game }
  | flags => { w with flags := source.flags }
  | vars => { w with vars := source.vars }

theorem Same.refl (p : Part) (w : World) : p.Same w w := by cases p <;> rfl

theorem Same.trans {p : Part} {w w' w'' : World} (h : p.Same w w') (h' : p.Same w' w'') : p.Same w w'' := by
  cases p <;> exact Eq.trans h' h

theorem same_put {p q : Part} (other : p ≠ q) (w source : World) : p.Same w (q.put w source) := by
  cases q <;> cases p <;> first | rfl | exact absurd rfl other

end Part

/-- The world with these parts taken from another one. -/
def putAll (parts : List Part) (w source : World) : World := parts.foldl (fun v p => p.put v source) w

/-- Every part that is not listed is as it was. -/
def ChangesOnly (parts : List Part) (w w' : World) : Prop := ∀ p : Part, p ∉ parts → p.Same w w'

variable {parts : List Part} {w w' w'' : World}

theorem changesOnly_putAll (parts : List Part) (w source : World) :
    ChangesOnly parts w (putAll parts w source) := by
  induction parts generalizing w with
  | nil => exact fun p _ => .refl p w
  | cons q rest ih =>
    intro p outside
    have other : p ≠ q := List.ne_of_not_mem_cons outside
    exact (Part.same_put other w source).trans (ih (q.put w source) p (List.not_mem_of_not_mem_cons outside))

namespace ChangesOnly

theorem refl (parts : List Part) (w : World) : ChangesOnly parts w w := fun p _ => .refl p w

theorem trans (h : ChangesOnly parts w w') (h' : ChangesOnly parts w' w'') : ChangesOnly parts w w'' :=
  fun p outside => (h p outside).trans (h' p outside)

theorem mono {wider : List Part} (h : ChangesOnly parts w w') (listed : ∀ p ∈ parts, p ∈ wider) :
    ChangesOnly wider w w' :=
  fun p outside => h p fun inside => outside (listed p inside)

/-- For an update of fields the equation holds by computation. -/
theorem of_putAll (made : putAll parts w w' = w') : ChangesOnly parts w w' := by
  rw [← made]
  exact changesOnly_putAll parts w w'

end ChangesOnly

theorem changesOnly_setFlag (w : World) (flag : String) : ChangesOnly [.flags] w (w.setFlag flag) := by
  rw [setFlag]
  split
  · exact .refl _ w
  · exact .of_putAll rfl

theorem changesOnly_withQuest (w : World) (id : String) : ChangesOnly [.quests] w (w.withQuest id) := by
  rw [withQuest]
  split
  · exact .refl _ w
  · exact .of_putAll rfl

theorem changesOnly_modifyQuest (w : World) (id : String) (f : Quest → Quest) :
    ChangesOnly [.quests] w (w.modifyQuest id f) :=
  (changesOnly_withQuest w id).trans (.of_putAll rfl)

theorem changesOnly_tick (w : World) : ChangesOnly [.modifiers, .combat, .game] w w.tick := .of_putAll rfl

end World

/-! Properties. -/

/-- Where the entities of a type are. -/
def EntityType.part : EntityType → World.Part
  | room => .rooms
  | door => .doors
  | npc => .npcs
  | object => .objects
  | player => .player
  | game => .game

namespace World

theorem changesOnly_setProperty? {w w' : World} {t : EntityType} {id property : String} {v : Value}
    (written : w.setProperty? t id property v = some w') : ChangesOnly [t.part] w w' := by
  obtain ⟨_, p, -, -, rfl⟩ := exists_of_setProperty? written
  cases t <;> exact .of_putAll rfl

theorem changesOnly_writeProperty (w : World) (t : EntityType) (id property : String) (v : Value) :
    ChangesOnly [t.part] w (w.writeProperty t id property v).1 := by
  rw [writeProperty]
  split
  · rename_i written
    dsimp only
    split
    · exact changesOnly_setProperty? written
    · exact changesOnly_setProperty? written
  · exact .refl _ w

end World

/-! Handlers. -/

/-- The parts of the world that an action of this type may change. -/
def ActionType.parts : ActionType → List World.Part
  | showMessage | playSound | startConversation | startTrade | log | triggerEvent => []
  | setRoomMusic | setRoomDark | setRoomDescription => [.rooms]
  | teleportPlayer => [.rooms, .player]
  | openDoor | closeDoor | lockDoor | unlockDoor | setDoorVisible => [.doors]
  | moveNpc | setNpcHostile | healNpc => [.npcs]
  | damageNpc | killNpc => [.npcs, .combat]
  | startCombat | endCombat => [.combat]
  | setObjectVisible | setObjectDescription => [.objects]
  | giveItem | moveObject => [.objects, .player]
  | removeItem | consumeItem | damagePlayer | healPlayer | addGold | removeGold | addExperience => [.player]
  | startQuest | advanceQuest | setQuestStage | completeQuest | failQuest => [.quests]
  | setFlag | clearFlag => [.flags]
  | setVariable | incrementVariable => [.vars]
  | addModifier | removeModifier => [.modifiers]
  | completeAdventure | advanceTime | setWeather | addScore => [.game]
  | setProperty => EntityType.all.map EntityType.part

def DialogueType.parts : DialogueType → List World.Part
  | say | narrate | playVoice => []
  | setGreeting => [.npcs]

namespace Act

variable {parts : List World.Part} {c : Call}

/-- The world differs from that of the call in these parts only. -/
def ChangesOnly (parts : List World.Part) (c : Call) (a : Act) : Prop := World.ChangesOnly parts c.world a.world

theorem changesOnly_of_putAll {a : Act} (made : World.putAll parts c.world a.world = a.world) :
    a.ChangesOnly parts c := .of_putAll made

/-- A person is changed, and a combat against that person ends. -/
theorem changesOnly_modifyNpc_withoutCombat (w : World) (id : String) (f : Npc → Npc) :
    World.ChangesOnly [.npcs, .combat] w (withoutCombat (w.modifyNpc id f) id) := by
  have fallen : World.ChangesOnly [.npcs, .combat] w (w.modifyNpc id f) := .of_putAll rfl
  rw [withoutCombat]
  split
  · exact fallen.trans (.of_putAll rfl)
  · exact fallen

/-- The action leaves the world as it is or writes one property. -/
theorem setProperty_induction {P : World → Prop} (unwritten : P c.world)
    (written : ∀ t id property v, P (c.world.writeProperty t id property v).1) : P (setProperty c).world := by
  rw [setProperty]
  split
  · exact unwritten
  · rename_i t id property _
    have outcome := written t id property (Bag.getValue c.node.properties "Value")
    split
    · rename_i made
      rwa [made] at outcome
    · rename_i made
      rwa [made] at outcome

theorem changesOnly_of (t : ActionType) (c : Call) : (of t c).ChangesOnly t.parts c := by
  have idle : (idle c).ChangesOnly t.parts c := .refl t.parts c.world
  cases t with
  | showMessage | playSound | removeItem | clearFlag | setVariable | incrementVariable | advanceQuest
  | removeModifier | setWeather =>
    exact withArg_induction idle fun _ => changesOnly_of_putAll rfl
  | startQuest | completeQuest | failQuest =>
    exact withArg_induction idle fun _ => World.changesOnly_modifyQuest _ _ _
  | setFlag => exact withArg_induction idle fun _ => World.changesOnly_setFlag _ _
  | healPlayer | damagePlayer | addGold | addExperience | addScore =>
    exact withAmount_induction idle fun _ => changesOnly_of_putAll rfl
  | teleportPlayer | setRoomDark | setRoomDescription =>
    exact withRoom_induction idle fun _ => changesOnly_of_putAll rfl
  | openDoor | closeDoor | lockDoor | unlockDoor | setDoorVisible =>
    exact withDoor_induction idle fun _ => changesOnly_of_putAll rfl
  | startConversation | startTrade | setNpcHostile =>
    exact withNpc_induction idle fun _ => changesOnly_of_putAll rfl
  | killNpc => exact withNpc_induction idle fun _ => changesOnly_modifyNpc_withoutCombat _ _ _
  | giveItem | setObjectVisible | setObjectDescription =>
    exact withObject_induction idle fun _ => changesOnly_of_putAll rfl
  | endCombat | completeAdventure | log => exact changesOnly_of_putAll rfl
  | setRoomMusic => exact withArg_induction idle fun _ => withRoom_induction idle fun _ => changesOnly_of_putAll rfl
  | moveNpc => exact withNpc_induction idle fun _ => withRoom_induction idle fun _ => changesOnly_of_putAll rfl
  | moveObject => exact withObject_induction idle fun _ => withRoom_induction idle fun _ => changesOnly_of_putAll rfl
  | setQuestStage =>
    exact withArg_induction idle fun _ => withAmount_induction idle fun _ => World.changesOnly_modifyQuest _ _ _
  | triggerEvent =>
    exact withArg_induction idle fun _ => withArg_induction idle fun _ => withArg_induction idle fun _ => idle
  | startCombat =>
    refine withNpc_induction idle fun n => ?_
    split
    · exact changesOnly_of_putAll rfl
    · exact idle
  | healNpc =>
    refine withAmount_induction idle fun _ => withNpc_induction idle fun n => ?_
    split
    · exact idle
    · exact changesOnly_of_putAll rfl
  | damageNpc =>
    refine withAmount_induction idle fun _ => withNpc_induction idle fun n => ?_
    dsimp only
    split
    · exact changesOnly_of_putAll rfl
    · exact changesOnly_modifyNpc_withoutCombat _ _ _
  | removeGold =>
    refine withAmount_induction idle fun _ => ?_
    split
    · exact idle
    · exact changesOnly_of_putAll rfl
  | addModifier =>
    refine withArg_induction idle fun _ => withArg_induction idle fun _ => ?_
    split
    · exact changesOnly_of_putAll rfl
    · exact changesOnly_of_putAll rfl
  | advanceTime =>
    refine withAmount_induction idle fun _ => ?_
    split
    · exact changesOnly_of_putAll rfl
    · exact idle
  | consumeItem =>
    simp only [of, consumeItem]
    split
    · split
      · exact changesOnly_of_putAll rfl
      · exact idle
    · exact idle
  | setProperty =>
    refine setProperty_induction idle fun e id property v => ?_
    have listed : e.part ∈ ActionType.setProperty.parts := List.mem_map_of_mem (by cases e <;> decide)
    exact (World.changesOnly_writeProperty c.world e id property v).mono (List.forall_mem_singleton.2 listed)

end Act

theorem Dialogue.changesOnly_act (t : DialogueType) (c : Call) : (act t c).ChangesOnly t.parts c := by
  have idle : (Act.idle c).ChangesOnly t.parts c := .refl t.parts c.world
  cases t with
  | say | narrate | playVoice => exact Act.withArg_induction idle fun _ => idle
  | setGreeting => exact Act.withNpc_induction idle fun _ => Act.changesOnly_of_putAll rfl

end StoryGraph
