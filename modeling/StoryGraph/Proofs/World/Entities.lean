import StoryGraph.Proofs.World.Death
import StoryGraph.Proofs.World.Places

/-!
Rooms, doors, people and objects as entities with ids. Main statements: whatever is done to a world, no entity is
lost, doubled, moved or renamed, and each deed changes at most the first entity of the type and the id that it
addresses. Ids need not be distinct.
-/

namespace StoryGraph

/-! Written properties keep the id. -/

theorem Room.id_set {p : Property Room} (listed : p ∈ properties) (v : Value) (e : Room) : (p.set v e).id = e.id := by
  simp only [properties_eq, List.mem_cons, List.not_mem_nil, or_false] at listed
  obtain rfl | rfl | rfl | rfl | rfl := listed <;> rfl

theorem Door.id_set {p : Property Door} (listed : p ∈ properties) (v : Value) (e : Door) : (p.set v e).id = e.id := by
  simp only [properties_eq, List.mem_cons, List.not_mem_nil, or_false] at listed
  obtain rfl | rfl | rfl | rfl | rfl := listed <;> rfl

/-- A type of entity and an id, in any case. -/
abbrev Address := EntityType × String

section FirstOnly

variable {α : Type} {key : α → String} {a : Option Address} {t : EntityType} {l l' l'' : List α}

/-- The ids are as they were, and so are the elements, but for the first one of the id that is addressed. -/
def FirstOnly (a : Option Address) (t : EntityType) (key : α → String) (l l' : List α) : Prop :=
  l'.map key = l.map key ∧
    ∀ i : Nat, l'[i]? = l[i]? ∨
      ∃ id, a = some (t, id) ∧ l.findIdx? (fun e => Text.sameName (key e) id) = some i

theorem FirstOnly.refl (a : Option Address) (t : EntityType) (key : α → String) (l : List α) :
    FirstOnly a t key l l :=
  ⟨rfl, fun _ => .inl rfl⟩

theorem FirstOnly.modifyFirst {id given : String} {f : α → α} (same : Text.sameName id given = true)
    (keeps : ∀ e, key (f e) = key e) :
    FirstOnly (some (t, given)) t key l (modifyFirst (fun e => Text.sameName (key e) id) f l) := by
  refine ⟨map_modifyFirst _ f key keeps l, fun i => ?_⟩
  simp only [Text.sameName_congr same, getElem?_modifyFirst]
  split
  case isTrue first => exact .inr ⟨given, rfl, first⟩
  case isFalse => exact .inl rfl

end FirstOnly

namespace World

/-- The ids of the entities of a type, in order. There is one player and one game, and they have none. -/
def ids (w : World) : EntityType → List String
  | .room => w.rooms.map Room.id
  | .door => w.doors.map Door.id
  | .npc => w.npcs.map Npc.id
  | .object => w.objects.map GameObject.id
  | .player | .game => []

/-- Of all rooms, doors, people and objects only the one that is addressed may have changed. -/
structure Touches (a : Option Address) (w w' : World) : Prop where
  rooms : FirstOnly a .room Room.id w.rooms w'.rooms
  doors : FirstOnly a .door Door.id w.doors w'.doors
  npcs : FirstOnly a .npc Npc.id w.npcs w'.npcs
  objects : FirstOnly a .object GameObject.id w.objects w'.objects

/-- Where rooms, doors, people and objects are. -/
def Part.entities : List Part := [.rooms, .doors, .npcs, .objects]

variable {a : Option Address} {w w' w'' : World} {parts : List Part} {id given : String}

namespace Touches

theorem refl (a : Option Address) (w : World) : Touches a w w :=
  ⟨.refl .., .refl .., .refl .., .refl ..⟩

theorem ids (h : Touches a w w') (t : EntityType) : w'.ids t = w.ids t := by
  cases t with
  | room => exact h.rooms.1
  | door => exact h.doors.1
  | npc => exact h.npcs.1
  | object => exact h.objects.1
  | player | game => rfl

/-- Changes elsewhere come on top. -/
theorem andElse (h : Touches a w w') (parts : List Part) (change : ChangesOnly parts w' w'')
    (others : ∀ p ∈ Part.entities, p ∉ parts) : Touches a w w'' := by
  have rooms : w''.rooms = w'.rooms := change .rooms (others _ (by decide))
  have doors : w''.doors = w'.doors := change .doors (others _ (by decide))
  have npcs : w''.npcs = w'.npcs := change .npcs (others _ (by decide))
  have objects : w''.objects = w'.objects := change .objects (others _ (by decide))
  constructor
  · rw [rooms]
    exact h.rooms
  · rw [doors]
    exact h.doors
  · rw [npcs]
    exact h.npcs
  · rw [objects]
    exact h.objects

theorem of_changesOnly (change : ChangesOnly parts w w') (others : ∀ p ∈ Part.entities, p ∉ parts) :
    Touches a w w' :=
  (refl a w).andElse parts change others

theorem modifyRoom {f : Room → Room} (same : Text.sameName id given = true) (keeps : ∀ e, (f e).id = e.id) :
    Touches (some (.room, given)) w (w.modifyRoom id f) :=
  { refl _ w with rooms := .modifyFirst same keeps }

theorem modifyDoor {f : Door → Door} (same : Text.sameName id given = true) (keeps : ∀ e, (f e).id = e.id) :
    Touches (some (.door, given)) w (w.modifyDoor id f) :=
  { refl _ w with doors := .modifyFirst same keeps }

theorem modifyNpc {f : Npc → Npc} (same : Text.sameName id given = true) (keeps : ∀ e, (f e).id = e.id) :
    Touches (some (.npc, given)) w (w.modifyNpc id f) :=
  { refl _ w with npcs := .modifyFirst same keeps }

theorem modifyObject {f : GameObject → GameObject} (same : Text.sameName id given = true)
    (keeps : ∀ e, (f e).id = e.id) : Touches (some (.object, given)) w (w.modifyObject id f) :=
  { refl _ w with objects := .modifyFirst same keeps }

theorem setProperty? {t : EntityType} {property : String} {v : Value}
    (written : w.setProperty? t id property v = some w') : Touches (some (t, id)) w w' := by
  have same := Text.sameName_refl id
  cases t with
  | room =>
    obtain ⟨_, p, -, found, rfl⟩ := exists_of_setProperty? written
    exact modifyRoom same (Room.id_set (Property.find?_eq_some found).1 v)
  | door =>
    obtain ⟨_, p, -, found, rfl⟩ := exists_of_setProperty? written
    exact modifyDoor same (Door.id_set (Property.find?_eq_some found).1 v)
  | npc =>
    obtain ⟨_, p, -, found, rfl⟩ := exists_of_setProperty? written
    exact modifyNpc same (Npc.id_set (Property.find?_eq_some found).1 v)
  | object =>
    obtain ⟨_, p, -, found, rfl⟩ := exists_of_setProperty? written
    exact modifyObject same (GameObject.id_set (Property.find?_eq_some found).1 v)
  | player | game => exact of_changesOnly (changesOnly_setProperty? written) (by decide)

theorem writeProperty (w : World) (t : EntityType) (id property : String) (v : Value) :
    Touches (some (t, id)) w (w.writeProperty t id property v).1 :=
  writeProperty_induction (.refl _ w) fun _ => setProperty?

end Touches

end World

/-! Handlers. -/

/-- The type of the entities that an action of this type changes, and the argument that names one. -/
def ActionType.subject? : ActionType → Option (EntityType × String)
  | setRoomMusic | teleportPlayer | setRoomDark | setRoomDescription => some (.room, "RoomId")
  | openDoor | closeDoor | lockDoor | unlockDoor | setDoorVisible => some (.door, "DoorId")
  | moveNpc | setNpcHostile | damageNpc | healNpc | killNpc => some (.npc, "NpcId")
  | giveItem | moveObject | setObjectVisible | setObjectDescription => some (.object, "ObjectId")
  | _ => none

def DialogueType.subject? : DialogueType → Option (EntityType × String)
  | setGreeting => some (.npc, "NpcId")
  | say | narrate | playVoice => none

/-- What a call addresses by an argument. -/
def Call.addressee? (c : Call) (subject : Option (EntityType × String)) : Option Address :=
  subject.bind fun s => (c.arg s.2).map fun id => (s.1, id)

/-- The entity that a node of this type may change: the type of the entity and the id that the node gives. -/
def NodeType.addressee? (t : NodeType) (c : Call) : Option Address :=
  match t with
  | action .setProperty => c.target?.map fun (t, id, _) => (t, id)
  | action t => c.addressee? t.subject?
  | dialogue t => c.addressee? t.subject?
  | event _ | condition _ | flow _ | source _ => none

namespace Act

variable {c : Call}

theorem touches_room {r : Room} {f : Room → Room} (named : (c.arg "RoomId").bind c.world.room? = some r)
    (keeps : ∀ e, (f e).id = e.id := by exact fun _ => rfl) :
    World.Touches (c.addressee? (some (.room, "RoomId"))) c.world (c.world.modifyRoom r.id f) := by
  obtain ⟨id, given, found⟩ := Option.bind_eq_some_iff.1 named
  rw [Call.addressee?, Option.bind_some, given]
  exact .modifyRoom (World.sameName_of_room? found) keeps

theorem touches_door {d : Door} {f : Door → Door} (named : (c.arg "DoorId").bind c.world.door? = some d)
    (keeps : ∀ e, (f e).id = e.id := by exact fun _ => rfl) :
    World.Touches (c.addressee? (some (.door, "DoorId"))) c.world (c.world.modifyDoor d.id f) := by
  obtain ⟨id, given, found⟩ := Option.bind_eq_some_iff.1 named
  rw [Call.addressee?, Option.bind_some, given]
  exact .modifyDoor (World.sameName_of_door? found) keeps

theorem touches_npc {n : Npc} {f : Npc → Npc} (named : (c.arg "NpcId").bind c.world.npc? = some n)
    (keeps : ∀ e, (f e).id = e.id := by exact fun _ => rfl) :
    World.Touches (c.addressee? (some (.npc, "NpcId"))) c.world (c.world.modifyNpc n.id f) := by
  obtain ⟨id, given, found⟩ := Option.bind_eq_some_iff.1 named
  rw [Call.addressee?, Option.bind_some, given]
  exact .modifyNpc (World.sameName_of_npc? found) keeps

theorem touches_object {o : GameObject} {f : GameObject → GameObject} {id : String}
    (named : (c.arg "ObjectId").bind c.world.object? = some o) (same : Text.sameName id o.id = true)
    (keeps : ∀ e, (f e).id = e.id := by exact fun _ => rfl) :
    World.Touches (c.addressee? (some (.object, "ObjectId"))) c.world (c.world.modifyObject id f) := by
  obtain ⟨given, arg, found⟩ := Option.bind_eq_some_iff.1 named
  rw [Call.addressee?, Option.bind_some, arg]
  exact .modifyObject (Text.sameName_trans same (World.sameName_of_object? found)) keeps

/-- Who falls is no longer fought, and nobody else has changed. -/
theorem touches_withoutCombat {a : Option Address} {w w' : World} (h : World.Touches a w w') (id : String) :
    World.Touches a w (withoutCombat w' id) := by
  rw [withoutCombat]
  split
  · exact h.andElse [.combat] (.of_putAll rfl) (by decide)
  · exact h

/-- No entity is changed but the one that is addressed. -/
def Touches (a : Option Address) (c : Call) (act : Act) : Prop := World.Touches a c.world act.world

theorem touches_of (t : ActionType) (c : Call) : (of t c).Touches ((NodeType.action t).addressee? c) c := by
  have idle {a : Option Address} : (idle c).Touches a c := .refl a c.world
  cases t with
  | setRoomMusic => exact withArg_induction idle fun _ => withRoom_named idle fun _ named => touches_room named
  | teleportPlayer =>
    exact withRoom_named idle fun _ named => (touches_room named).andElse [.player] (.of_putAll rfl) (by decide)
  | setRoomDark | setRoomDescription => exact withRoom_named idle fun _ named => touches_room named
  | openDoor | closeDoor | lockDoor | unlockDoor | setDoorVisible =>
    exact withDoor_named idle fun _ named => touches_door named
  | moveNpc => exact withNpc_named idle fun _ named => withRoom_induction idle fun _ => touches_npc named
  | setNpcHostile => exact withNpc_named idle fun _ named => touches_npc named
  | killNpc => exact withNpc_named idle fun _ named => touches_withoutCombat (touches_npc named) _
  | damageNpc =>
    refine withAmount_induction idle fun _ => withNpc_named idle fun n named => ?_
    dsimp only
    split
    · exact touches_npc named
    · exact touches_withoutCombat (touches_npc named) n.id
  | healNpc =>
    refine withAmount_induction idle fun _ => withNpc_named idle fun n named => ?_
    split
    · exact idle
    · exact touches_npc named
  | giveItem =>
    refine withObject_named idle fun o named => ?_
    have given := touches_object named (c.world.sameName_canonicalObjectId o.id) (f := fun e => { e with roomId := "" })
    exact given.andElse [.player] (.of_putAll rfl) (by decide)
  | moveObject =>
    refine withObject_named idle fun o named => withRoom_induction idle fun r => ?_
    have moved := touches_object named (Text.sameName_refl o.id) (f := fun e => { e with roomId := r.id })
    exact moved.andElse [.player] (.of_putAll rfl) (by decide)
  | setObjectVisible | setObjectDescription =>
    exact withObject_named idle fun o named => touches_object named (Text.sameName_refl o.id)
  | setProperty =>
    show World.Touches (c.target?.map fun s => (s.1, s.2.1)) c.world (setProperty c).world
    simp only [setProperty]
    cases c.target? with
    | none => exact .refl _ c.world
    | some s =>
      obtain ⟨t, id, property⟩ := s
      have written := World.Touches.writeProperty c.world t id property (Bag.getValue c.node.properties "Value")
      dsimp only [Option.map_some]
      split <;> rename_i made <;> rwa [made] at written
  | _ => exact .of_changesOnly (changesOnly_of _ c) (by decide)

end Act

theorem Dialogue.touches_act (t : DialogueType) (c : Call) :
    (act t c).Touches ((NodeType.dialogue t).addressee? c) c := by
  cases t with
  | say | narrate | playVoice => exact .of_changesOnly (changesOnly_act _ c) (by decide)
  | setGreeting =>
    exact Act.withNpc_named (P := Act.Touches _ c) (.refl _ c.world) fun _ named => Act.touches_npc named

namespace World

/-- The entity that may be changed by a deed. -/
def Deed.addressee? : Deed → Option Address
  | ran t c => t.addressee? c
  | wrote _ t id _ _ => some (t, id)
  | turned _ => none

theorem Deed.touches (d : Deed) : Touches d.addressee? d.before d.after := by
  cases d with
  | ran t c =>
    cases t with
    | action t => exact Act.touches_of t c
    | dialogue t => exact Dialogue.touches_act t c
    | event t | condition t | flow t | source t => exact .refl _ c.world
  | wrote w t id property v => exact .writeProperty w t id property v
  | turned w => exact .of_changesOnly w.changesOnly_tick (by decide)

/-- The ids of all entities stay what they are in one world. -/
theorem invariant_ids (start : World) : Invariant fun w => ∀ t, w.ids t = start.ids t where
  act t c h e := ((Act.touches_of t c).ids e).trans (h e)
  dialogue t c h e := ((Dialogue.touches_act t c).ids e).trans (h e)
  write w t id property v h e := ((Touches.writeProperty w t id property v).ids e).trans (h e)
  tick w h e := ((Deed.turned w).touches.ids e).trans (h e)

end World

namespace Surroundings

/-- Whatever a host has the engine do, the ids of rooms, doors, people and objects stay as they are, in number, order
and spelling, and so they are at each deed on the way. Each deed leaves every entity as it was, but for the first one
of the type and the id that it addresses. -/
theorem served_entities_kept (s : Surroundings) (builtins : s.registry.IsBuiltin) (calls : List (Nat × Command))
    (r : Run) :
    (∀ t, (s.serve calls r).2.world.ids t = r.world.ids t) ∧
      (∀ d, s.Does calls r d → ∀ t, d.before.ids t = r.world.ids t ∧ d.after.ids t = r.world.ids t) ∧
      ∀ d : World.Deed, World.Touches d.addressee? d.before d.after := by
  have kept := World.invariant_ids r.world
  refine ⟨kept.serve builtins calls fun _ => rfl, fun d does t => ?_, World.Deed.touches⟩
  have before := kept.before builtins does fun _ => rfl
  exact ⟨before t, kept.after d before t⟩

theorem served_entities_kept_twins :
    let s : Surroundings := { registry := .builtins, library := [], settings := {}, draws := .ofSeed 7 }
    let r : Run := { world := { objects := [{ id := "lamp" }, { id := "Lamp" }] } }
    let calls := [(0, Command.setProperty "Object" "LAMP" "Name" (.string "Torch")), (0, .advanceTurn)]
    let w := (s.serve calls r).2.world
    s.registry.IsBuiltin ∧ w.ids .object = ["lamp", "Lamp"] ∧ w.objects.map GameObject.name = ["Torch", ""] := by
  intro s r calls w
  have kept := (s.served_entities_kept Registry.isBuiltin_builtins calls r).1 .object
  exact ⟨Registry.isBuiltin_builtins, kept, by decide +kernel⟩

end Surroundings

end StoryGraph
