import StoryGraph.Proofs.Engine.Deeds
import StoryGraph.Proofs.Handler.Footprint
import StoryGraph.Proofs.Property.Writing

/-!
Where objects are. What the player carries lies in no room, and giving, taking, consuming and moving objects keep
to that. A written property does not: the room of an object can be written while the object is carried. Main
statement: this is the only way by which an object comes to be in two places.
-/

namespace StoryGraph

/-! Written properties of objects. -/

namespace GameObject

variable {property : String} {p : Property GameObject}

theorem id_set (listed : p ∈ properties) (v : Value) (o : GameObject) : (p.set v o).id = o.id := by
  simp only [properties_eq, List.mem_cons, List.not_mem_nil, or_false] at listed
  obtain rfl | rfl | rfl | rfl | rfl | rfl | rfl | rfl | rfl := listed <;> rfl

theorem roomId_set (found : Property.find? properties property = some p) (v : Value) (o : GameObject) :
    (p.set v o).roomId = if Text.sameName "RoomId" (Text.trim property) then v.toText else o.roomId := by
  obtain ⟨listed, named⟩ := Property.find?_eq_some found
  rw [← Text.sameName_congr named]
  simp only [properties_eq, List.mem_cons, List.not_mem_nil, or_false] at listed
  obtain rfl | rfl | rfl | rfl | rfl | rfl | rfl | rfl | rfl := listed
  case inr.inr.inl => exact (if_pos (Text.sameName_refl "RoomId")).symm
  all_goals exact (if_neg (by decide)).symm

end GameObject

theorem Player.inventory_set {p : Property Player} (listed : p ∈ properties) (v : Value) (e : Player) :
    (p.set v e).inventory = e.inventory := by
  simp only [properties_eq, List.mem_cons, List.not_mem_nil, or_false] at listed
  obtain rfl | rfl | rfl | rfl | rfl | rfl := listed <;> rfl

namespace World

/-- The ids of objects are distinct, and what the player carries lies in no room. -/
structure Placed (w : World) : Prop where
  distinct : Text.Distinct (w.objects.map GameObject.id)
  carried : ∀ o ∈ w.objects, w.player.hasItem o.id = true → o.roomId = ""

namespace Placed

variable {w w' : World} {id : String}

theorem of_same (h : w.Placed) (objects : w'.objects = w.objects)
    (inventory : w'.player.inventory = w.player.inventory) : w'.Placed := by
  constructor
  · rw [objects]
    exact h.distinct
  · rw [objects]
    intro o mem held
    rw [Player.hasItem, inventory] at held
    exact h.carried o mem held

theorem of_changesOnly {parts : List Part} (h : w.Placed) (change : ChangesOnly parts w w')
    (others : Part.objects ∉ parts ∧ Part.player ∉ parts) : w'.Placed := by
  have player : w'.player = w.player := change .player others.2
  exact h.of_same (change .objects others.1) (congrArg Player.inventory player)

theorem distinct_modifyObject (h : w.Placed) (f : GameObject → GameObject) (keeps : ∀ o, (f o).id = o.id) :
    Text.Distinct ((w.modifyObject id f).objects.map GameObject.id) := by
  simp only [World.modifyObject, map_modifyFirst _ _ _ keeps]
  exact h.distinct

/-- A changed object is where it should be exactly if it lies in no room or is not carried. -/
theorem modifyObject_iff (h : w.Placed) {f : GameObject → GameObject}
    (keeps : ∀ o, (f o).id = o.id := by exact fun _ => rfl) :
    (w.modifyObject id f).Placed ↔
      ∀ o, w.object? id = some o → w.player.hasItem o.id = true → (f o).roomId = "" := by
  constructor
  · intro placed o found held
    refine placed.carried (f o) ?_ (by rw [keeps]; exact held)
    exact (mem_modifyFirst_iff h.distinct).2 (.inr ⟨o, List.mem_of_find?_eq_some found, sameName_of_object? found, rfl⟩)
  · intro carried
    refine ⟨h.distinct_modifyObject f keeps, fun o mem held => ?_⟩
    cases mem_modifyFirst mem with
    | inl mem => exact h.carried o mem held
    | inr changed =>
      obtain ⟨o, found, rfl⟩ := changed
      rw [keeps] at held
      exact carried o found held

theorem giveItem (h : w.Placed) (id : String) : (w.giveItem id).Placed := by
  refine ⟨h.distinct_modifyObject _ fun _ => rfl, fun o mem held => ?_⟩
  cases (mem_modifyFirst_iff h.distinct).1 mem with
  | inl other =>
    -- The object has another id than the one that is given, so it was carried before.
    obtain ⟨mem, unlike⟩ := other
    refine h.carried o mem ((Player.hasItem_addItem.1 held).resolve_right ?_)
    rw [Text.sameName_comm, unlike]
    exact Bool.false_ne_true
  | inr given =>
    obtain ⟨o, -, -, rfl⟩ := given
    rfl

theorem takeItem (h : w.Placed) (id : String) : (w.takeItem id).Placed :=
  ⟨h.distinct, fun o mem held => h.carried o mem (Player.hasItem_removeItem.1 held).1⟩

/-- An object that is moved to a room is taken from the player. -/
theorem moveObject (h : w.Placed) (id room : String) :
    let moved := w.modifyObject id fun o => { o with roomId := room }
    ({ moved with player := moved.player.removeItem id } : World).Placed := by
  intro moved
  refine ⟨h.distinct_modifyObject _ fun _ => rfl, fun o mem held => ?_⟩
  obtain ⟨held, unlike⟩ := Player.hasItem_removeItem.1 held
  cases (mem_modifyFirst_iff h.distinct).1 mem with
  | inl other => exact h.carried o other.1 held
  | inr changed =>
    obtain ⟨o, -, same, rfl⟩ := changed
    exact absurd (same.symm.trans unlike) (by simp)

theorem setProperty?_other (h : w.Placed) {t : EntityType} {property : String} {v : Value} (other : t ≠ .object)
    (written : w.setProperty? t id property v = some w') : w'.Placed := by
  cases t with
  | object => exact absurd rfl other
  | player =>
    obtain ⟨_, p, -, found, rfl⟩ := exists_of_setProperty? written
    exact h.of_same rfl (Player.inventory_set (Property.find?_eq_some found).1 v w.player)
  | room | door | npc | game => exact h.of_changesOnly (changesOnly_setProperty? written) (by decide)

theorem setProperty?_object (h : w.Placed) {property : String} {v : Value}
    (written : w.setProperty? .object id property v = some w') :
    w'.Placed ↔ ¬ (Text.sameName "RoomId" (Text.trim property) = true ∧ v.toText ≠ "" ∧
      ∃ o, w.object? id = some o ∧ w.player.hasItem o.id = true) := by
  obtain ⟨_, p, -, listed, rfl⟩ := exists_of_setProperty? written
  rw [modifyEntity, h.modifyObject_iff fun o => GameObject.id_set (Property.find?_eq_some listed).1 v o]
  simp only [GameObject.roomId_set listed]
  constructor
  · rintro carried ⟨named, somewhere, o, found, held⟩
    have room := carried o found held
    rw [if_pos named] at room
    exact somewhere room
  · intro free o found held
    split
    case isTrue named =>
      exact Decidable.byContradiction fun somewhere => free ⟨named, somewhere, o, found, held⟩
    case isFalse => exact h.carried o (List.mem_of_find?_eq_some found) held

/-- A written property puts an object in two places exactly if it is the room of an object that is carried. -/
theorem writeProperty_iff (h : w.Placed) {t : EntityType} {property : String} {v : Value} :
    (w.writeProperty t id property v).1.Placed ↔
      ¬ (t = .object ∧ Text.sameName "RoomId" (Text.trim property) = true ∧ v.toText ≠ "" ∧
        ∃ o, w.object? id = some o ∧ w.player.hasItem o.id = true) := by
  by_cases object : t = .object
  · subst object
    rw [world_writeProperty]
    cases written : w.setProperty? .object id property v with
    | some w' => simpa using h.setProperty?_object written
    | none =>
      refine iff_of_true h fun misplaced => ?_
      obtain ⟨-, named, -, o, found, -⟩ := misplaced
      rw [setProperty?_eq, entity?, found, Property.find?_of_sameName _ named] at written
      exact Option.some_ne_none _ written
  · have kept : (w.writeProperty t id property v).1.Placed :=
      writeProperty_induction h fun _ => h.setProperty?_other object
    exact iff_of_true kept fun misplaced => object misplaced.1

end Placed

/-- A room is written to an object that the player carries. -/
def Deed.Misplaces (d : Deed) : Prop :=
  ∃ id property v o, d.writes? = some (.object, id, property, v) ∧
    Text.sameName "RoomId" (Text.trim property) = true ∧ v.toText ≠ "" ∧
    d.before.object? id = some o ∧ d.before.player.hasItem o.id = true

end World

namespace Act

def Placed (a : Act) : Prop := a.world.Placed

theorem placed_of {t : ActionType} {c : Call} (h : c.world.Placed) (other : t ≠ .setProperty) : (of t c).Placed := by
  have idle : (idle c).Placed := h
  cases t with
  | giveItem => exact withObject_induction idle fun o => h.giveItem o.id
  | removeItem => exact withArg_induction idle fun id => h.takeItem id
  | consumeItem =>
    simp only [of, consumeItem]
    split
    · split
      · exact h.takeItem _
      · exact idle
    · exact idle
  | moveObject => exact withObject_induction idle fun o => withRoom_induction idle fun r => h.moveObject o.id r.id
  | setObjectVisible | setObjectDescription =>
    refine withObject_induction idle fun o => h.modifyObject_iff.2 fun e found held => ?_
    exact h.carried e (List.mem_of_find?_eq_some found) held
  | teleportPlayer => exact withRoom_induction idle fun r => h.of_same rfl rfl
  | damagePlayer | healPlayer | addGold | addExperience =>
    exact withAmount_induction idle fun a => h.of_same rfl rfl
  | removeGold =>
    refine withAmount_induction idle fun a => ?_
    split
    · exact idle
    · exact h.of_same rfl rfl
  | setProperty => exact absurd rfl other
  | _ => exact h.of_changesOnly (changesOnly_of _ c) (by decide)

end Act

namespace World

/-- In a world in which objects are where they should be a deed leaves them so, unless it writes a room to an
object that is carried. -/
theorem Placed.after_iff {d : Deed} (h : d.before.Placed) : d.after.Placed ↔ ¬ d.Misplaces := by
  cases writes : d.writes? with
  | some write =>
    obtain ⟨t, id, property, v⟩ := write
    rw [Deed.after_of_writes? writes, h.writeProperty_iff]
    refine not_congr ⟨?_, ?_⟩
    · rintro ⟨rfl, named, somewhere, o, found, held⟩
      exact ⟨id, property, v, o, writes, named, somewhere, found, held⟩
    · rintro ⟨id, property, v, o, writes', named, somewhere, found, held⟩
      cases writes.symm.trans writes'
      exact ⟨rfl, named, somewhere, o, found, held⟩
  | none =>
    have kept : d.after.Placed := by
      refine Deed.after_induction writes h ?_ ?_ ?_
      · rintro t c rfl other
        exact Act.placed_of h other
      · rintro t c rfl
        have change := Dialogue.changesOnly_act t c
        exact h.of_changesOnly change (by cases t <;> decide)
      · rintro w rfl
        exact h.of_changesOnly (changesOnly_tick w) (by decide)
    refine iff_of_true kept fun misplaces => ?_
    obtain ⟨id, property, v, o, writes', -⟩ := misplaces
    cases writes.symm.trans writes'

end World

namespace Surroundings

/-- Starting from a world in which objects are where they should be, whatever a host has the engine do leaves them
so, unless one of the deeds writes a room to an object that is carried; and every such deed puts an object in two
places. -/
theorem served_objects_placed (s : Surroundings) (builtins : s.registry.IsBuiltin) (calls : List (Nat × Command))
    {r : Run} (start : r.world.Placed) :
    ((∀ d, s.Does calls r d → ¬ d.Misplaces) → (s.serve calls r).2.world.Placed) ∧
      ∀ d, s.Does calls r d → d.before.Placed → (d.after.Placed ↔ ¬ d.Misplaces) :=
  ⟨fun careful => serve_induction builtins (fun d does placed => placed.after_iff.2 (careful d does)) start,
    fun _ _ placed => placed.after_iff⟩

theorem served_objects_placed_lamp :
    let s : Surroundings := { registry := .builtins, library := [], settings := {}, draws := .ofSeed 7 }
    let r : Run :=
      { world := { objects := [{ id := "lamp" }, { id := "key" }], player := { inventory := ["KEY"] } } }
    let calls := [(0, Command.setProperty "Object" "lamp" "RoomId" (.string "hall")), (0, .advanceTurn)]
    s.registry.IsBuiltin ∧ r.world.Placed ∧ (∀ d, s.Does calls r d → ¬ d.Misplaces) ∧
      (s.serve calls r).2.world.Placed := by
  intro s r calls
  have start : r.world.Placed := ⟨by decide +kernel, by decide +kernel⟩
  have careful : ∀ d, s.Does calls r d → ¬ d.Misplaces := by
    intro d does misplaces
    obtain ⟨id, property, v, o, writes, -, -, found, held⟩ := misplaces
    rw [does_quiet (by decide +kernel), does_quiet (by decide +kernel)] at does
    obtain wrote | turned | none := does
    · cases wrote
      cases writes
      have lamp : r.world.object? "lamp" = some { id := "lamp" } := rfl
      cases lamp.symm.trans found
      exact absurd held (by decide +kernel)
    · cases turned
      cases writes
    · exact not_does_nil none
  exact ⟨Registry.isBuiltin_builtins, start, careful,
    (s.served_objects_placed Registry.isBuiltin_builtins calls start).1 careful⟩

/-- A host can write a room to an object that is carried. -/
theorem carried_object_in_room :
    let s : Surroundings := { registry := .builtins, library := [], settings := {}, draws := .ofSeed 7 }
    let r : Run := { world := { objects := [{ id := "lamp" }], player := { inventory := ["lamp"] } } }
    let w := (s.serve [(0, .setProperty "Object" "lamp" "RoomId" (.string "hall"))] r).2.world
    r.world.Placed ∧ ¬ w.Placed := by
  intro s r w
  have start : r.world.Placed := ⟨by decide +kernel, by decide +kernel⟩
  have twice : ¬ ∀ o ∈ w.objects, w.player.hasItem o.id = true → o.roomId = "" := by decide +kernel
  exact ⟨start, fun placed => twice placed.carried⟩

end Surroundings

end StoryGraph
