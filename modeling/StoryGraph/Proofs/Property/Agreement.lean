import Mathlib.Data.List.Basic
import StoryGraph.Property.Access
import StoryGraph.Proofs.World.Lookup

/-!
The three tables of properties against each other. Main statements: what is listed can be read and written under its
name, and nothing else can; so one row stands for what the tables hold under a name, and a write changes the entity
that is found by the row that is found.
-/

namespace StoryGraph

/-- What the tables hold under a name: how the property is read and how a value is written to it. -/
structure Property (ε : Type) where
  name : String
  kind : Kind
  get : ε → Value
  set : Value → ε → ε

namespace Property

variable {ε : Type} {listed : List (String × Kind)} {getter? : String → Option (ε → Value)}
  {setter? : String → Option (Value → ε → ε)}

/-- The rows of a list, each with what the other two tables hold under its name. -/
def rows (listed : List (String × Kind)) (getter? : String → Option (ε → Value))
    (setter? : String → Option (Value → ε → ε)) : List (Property ε) :=
  listed.filterMap fun p => do
    let get ← getter? (Text.fold p.1)
    let set ← setter? (Text.fold p.1)
    return ⟨p.1, p.2, get, set⟩

/-- The property of a name in any case, with white space around it. -/
def find? (table : List (Property ε)) (name : String) : Option (Property ε) :=
  table.find? fun p => Text.sameName p.name (Text.trim name)

theorem find?_eq_some {table : List (Property ε)} {property : String} {p : Property ε}
    (h : find? table property = some p) : p ∈ table ∧ Text.sameName p.name (Text.trim property) = true := by
  simp only [find?] at h
  have named := List.find?_some h
  exact ⟨List.mem_of_find?_eq_some h, named⟩

theorem find?_of_sameName (table : List (Property ε)) {property name : String}
    (h : Text.sameName name (Text.trim property) = true) :
    find? table property = table.find? fun p => Text.sameName p.name name := by
  simp only [find?, Text.sameName_congr h]

theorem mem_rows {p : Property ε} : p ∈ rows listed getter? setter? ↔ (p.name, p.kind) ∈ listed ∧
    getter? (Text.fold p.name) = some p.get ∧ setter? (Text.fold p.name) = some p.set := by
  simp only [rows, List.mem_filterMap, Option.bind_eq_bind, Option.bind_eq_some_iff]
  constructor
  · rintro ⟨⟨name, kind⟩, mem, get, read, set, written, made⟩
    cases made
    exact ⟨mem, read, written⟩
  · rintro ⟨mem, read, written⟩
    exact ⟨_, mem, p.get, read, p.set, written, rfl⟩

/-- The tables hold the same names. -/
structure Agree (listed : List (String × Kind)) (getter? : String → Option (ε → Value))
    (setter? : String → Option (Value → ε → ε)) : Prop where
  read : ∀ p ∈ listed, (getter? (Text.fold p.1)).isSome
  written : ∀ p ∈ listed, (setter? (Text.fold p.1)).isSome
  getters : ∀ k, (getter? k).isSome → k ∈ listed.map fun p => Text.fold p.1
  setters : ∀ k, (setter? k).isSome → k ∈ listed.map fun p => Text.fold p.1

namespace Agree

variable (agree : Agree listed getter? setter?)
include agree

/-- No row stands for a name only if nothing is listed under it. -/
theorem isSome_find? {name : String} (listed' : key name ∈ listed.map fun p => Text.fold p.1) :
    (find? (rows listed getter? setter?) name).isSome := by
  obtain ⟨p, mem, same⟩ := List.mem_map.1 listed'
  obtain ⟨get, read⟩ := Option.isSome_iff_exists.1 (agree.read p mem)
  obtain ⟨set, written⟩ := Option.isSome_iff_exists.1 (agree.written p mem)
  have row : ⟨p.1, p.2, get, set⟩ ∈ rows listed getter? setter? := mem_rows.2 ⟨mem, read, written⟩
  exact List.find?_isSome.2 ⟨_, row, Text.sameName_iff.2 same⟩

theorem getter?_key (name : String) :
    getter? (key name) = (find? (rows listed getter? setter?) name).map Property.get := by
  cases found : find? (rows listed getter? setter?) name with
  | none =>
    rw [Option.map_none, ← Option.not_isSome_iff_eq_none]
    intro read
    exact absurd (agree.isSome_find? (agree.getters _ read)) (by simp [found])
  | some p =>
    obtain ⟨mem, named⟩ := find?_eq_some found
    rw [key, ← Text.sameName_iff.1 named]
    exact (mem_rows.1 mem).2.1

theorem setter?_key (name : String) :
    setter? (key name) = (find? (rows listed getter? setter?) name).map Property.set := by
  cases found : find? (rows listed getter? setter?) name with
  | none =>
    rw [Option.map_none, ← Option.not_isSome_iff_eq_none]
    intro written
    exact absurd (agree.isSome_find? (agree.setters _ written)) (by simp [found])
  | some p =>
    obtain ⟨mem, named⟩ := find?_eq_some found
    rw [key, ← Text.sameName_iff.1 named]
    exact (mem_rows.1 mem).2.2

/-- Nothing that is listed is left out of the rows. -/
theorem map_rows : (rows listed getter? setter?).map (fun p => (p.name, p.kind)) = listed := by
  rw [rows, List.map_filterMap]
  refine (List.filterMap_congr fun p mem => ?_).trans List.filterMap_some
  obtain ⟨get, read⟩ := Option.isSome_iff_exists.1 (agree.read p mem)
  obtain ⟨set, written⟩ := Option.isSome_iff_exists.1 (agree.written p mem)
  simp only [read, written]
  rfl

end Agree

end Property

/-! The tables of each type agree: every listed name has both of its arms, and every arm is listed. -/

theorem Room.agree : Property.Agree EntityType.room.properties getter? setter? where
  read := by decide
  written := by decide
  getters k read := by
    unfold getter? at read
    split at read <;> first | decide | cases read
  setters k written := by
    unfold setter? at written
    split at written <;> first | decide | cases written

theorem Door.agree : Property.Agree EntityType.door.properties getter? setter? where
  read := by decide
  written := by decide
  getters k read := by
    unfold getter? at read
    split at read <;> first | decide | cases read
  setters k written := by
    unfold setter? at written
    split at written <;> first | decide | cases written

theorem Npc.agree : Property.Agree EntityType.npc.properties getter? setter? where
  read := by decide
  written := by decide
  getters k read := by
    unfold getter? at read
    split at read <;> first | decide | cases read
  setters k written := by
    unfold setter? at written
    split at written <;> first | decide | cases written

theorem GameObject.agree : Property.Agree EntityType.object.properties getter? setter? where
  read := by decide
  written := by decide
  getters k read := by
    unfold getter? at read
    split at read <;> first | decide | cases read
  setters k written := by
    unfold setter? at written
    split at written <;> first | decide | cases written

theorem Player.agree : Property.Agree EntityType.player.properties getter? setter? where
  read := by decide
  written := by decide
  getters k read := by
    unfold getter? at read
    split at read <;> first | decide | cases read
  setters k written := by
    unfold setter? at written
    split at written <;> first | decide | cases written

theorem GameState.agree : Property.Agree EntityType.game.properties getter? setter? where
  read := by decide
  written := by decide
  getters k read := by
    unfold getter? at read
    split at read <;> first | decide | cases read
  setters k written := by
    unfold setter? at written
    split at written <;> first | decide | cases written

/-! The rows of each type. -/

def Room.properties : List (Property Room) := Property.rows EntityType.room.properties getter? setter?

theorem Room.properties_eq : properties =
    [⟨"Name", .string, fun e => .string e.name, fun v e => { e with name := v.toText }⟩,
     ⟨"Description", .string, fun e => .string e.description, fun v e => { e with description := v.toText }⟩,
     ⟨"IsDark", .bool, fun e => .bool e.isDark, fun v e => { e with isDark := v.toBool }⟩,
     ⟨"IsVisited", .bool, fun e => .bool e.isVisited, fun v e => { e with isVisited := v.toBool }⟩,
     ⟨"MusicId", .string, fun e => .string e.musicId, fun v e => { e with musicId := v.toText }⟩] := by
  rfl

def Door.properties : List (Property Door) := Property.rows EntityType.door.properties getter? setter?

theorem Door.properties_eq : properties =
    [⟨"Name", .string, fun e => .string e.name, fun v e => { e with name := v.toText }⟩,
     ⟨"IsOpen", .bool, fun e => .bool e.isOpen, fun v e => { e with isOpen := v.toBool }⟩,
     ⟨"IsLocked", .bool, fun e => .bool e.isLocked, fun v e => { e with isLocked := v.toBool }⟩,
     ⟨"IsVisible", .bool, fun e => .bool e.isVisible, fun v e => { e with isVisible := v.toBool }⟩,
     ⟨"KeyObjectId", .string, fun e => .string e.keyObjectId, fun v e => { e with keyObjectId := v.toText }⟩] := by
  rfl

def Npc.properties : List (Property Npc) := Property.rows EntityType.npc.properties getter? setter?

theorem Npc.properties_eq : properties =
    [⟨"Name", .string, fun e => .string e.name, fun v e => { e with name := v.toText }⟩,
     ⟨"Description", .string, fun e => .string e.description, fun v e => { e with description := v.toText }⟩,
     ⟨"RoomId", .string, fun e => .string e.roomId, fun v e => { e with roomId := v.toText }⟩,
     ⟨"Health", .int, fun e => .int e.health, fun v e => e.setHealth v.toInt⟩,
     ⟨"MaxHealth", .int, fun e => .int e.maxHealth, fun v e => e.setMaxHealth v.toInt⟩,
     ⟨"IsHostile", .bool, fun e => .bool e.isHostile, fun v e => { e with isHostile := v.toBool }⟩,
     ⟨"IsCorpse", .bool, fun e => .bool e.isCorpse, fun v e => { e with isCorpse := v.toBool }⟩,
     ⟨"IsVisible", .bool, fun e => .bool e.isVisible, fun v e => { e with isVisible := v.toBool }⟩,
     ⟨"Gold", .int, fun e => .int e.gold, fun v e => { e with gold := max v.toInt 0 }⟩,
     ⟨"Greeting", .string, fun e => .string e.greeting, fun v e => { e with greeting := v.toText }⟩] := by
  rfl

def GameObject.properties : List (Property GameObject) := Property.rows EntityType.object.properties getter? setter?

theorem GameObject.properties_eq : properties =
    [⟨"Name", .string, fun e => .string e.name, fun v e => { e with name := v.toText }⟩,
     ⟨"Description", .string, fun e => .string e.description, fun v e => { e with description := v.toText }⟩,
     ⟨"RoomId", .string, fun e => .string e.roomId, fun v e => { e with roomId := v.toText }⟩,
     ⟨"IsVisible", .bool, fun e => .bool e.isVisible, fun v e => { e with isVisible := v.toBool }⟩,
     ⟨"IsTakeable", .bool, fun e => .bool e.isTakeable, fun v e => { e with isTakeable := v.toBool }⟩,
     ⟨"IsOpen", .bool, fun e => .bool e.isOpen, fun v e => { e with isOpen := v.toBool }⟩,
     ⟨"IsLocked", .bool, fun e => .bool e.isLocked, fun v e => { e with isLocked := v.toBool }⟩,
     ⟨"Value", .int, fun e => .int e.value, fun v e => { e with value := max v.toInt 0 }⟩,
     ⟨"Weight", .float, fun e => .float e.weight, fun v e => { e with weight := Property.notNegative v.toFloat }⟩] := by
  rfl

def Player.properties : List (Property Player) := Property.rows EntityType.player.properties getter? setter?

theorem Player.properties_eq : properties =
    [⟨"Name", .string, fun e => .string e.name, fun v e => { e with name := v.toText }⟩,
     ⟨"Health", .int, fun e => .int e.health, fun v e => e.setHealth v.toInt⟩,
     ⟨"MaxHealth", .int, fun e => .int e.maxHealth, fun v e => e.setMaxHealth v.toInt⟩,
     ⟨"Gold", .int, fun e => .int e.gold, fun v e => { e with gold := max v.toInt 0 }⟩,
     ⟨"Experience", .int, fun e => .int e.experience, fun v e => { e with experience := max v.toInt 0 }⟩,
     ⟨"RoomId", .string, fun e => .string e.roomId, fun v e => { e with roomId := v.toText }⟩] := by
  rfl

def GameState.properties : List (Property GameState) := Property.rows EntityType.game.properties getter? setter?

theorem GameState.properties_eq : properties =
    [⟨"Turn", .int, fun e => .int e.turn, fun v e => { e with turn := max v.toInt 0 }⟩,
     ⟨"Hour", .int, fun e => .int e.hour, fun v e => { e with hour := Whole.hourOf v.toInt }⟩,
     ⟨"Weather", .string, fun e => .string e.weather, fun v e => { e with weather := v.toText }⟩,
     ⟨"IsAdventureCompleted", .bool, fun e => .bool e.isAdventureCompleted,
       fun v e => { e with isAdventureCompleted := v.toBool }⟩,
     ⟨"Score", .int, fun e => .int e.score, fun v e => { e with score := v.toInt }⟩] := by
  rfl

namespace EntityType

/-- What the entities of a type are. -/
def Entity : EntityType → Type
  | room => Room
  | door => Door
  | npc => Npc
  | object => GameObject
  | player => Player
  | game => GameState

def table : (t : EntityType) → List (Property t.Entity)
  | room => Room.properties
  | door => Door.properties
  | npc => Npc.properties
  | object => GameObject.properties
  | player => Player.properties
  | game => GameState.properties

theorem properties_eq (t : EntityType) : t.properties = t.table.map fun p => (p.name, p.kind) := by
  cases t with
  | room => exact Room.agree.map_rows.symm
  | door => exact Door.agree.map_rows.symm
  | npc => exact Npc.agree.map_rows.symm
  | object => exact GameObject.agree.map_rows.symm
  | player => exact Player.agree.map_rows.symm
  | game => exact GameState.agree.map_rows.symm

theorem canonicalProperty?_eq (t : EntityType) (property : String) :
    t.canonicalProperty? property = (Property.find? t.table property).map Property.name := by
  rw [canonicalProperty?, properties_eq, List.find?_map, Option.map_map]
  rfl

end EntityType

namespace World

variable {w w' : World} {t : EntityType} {id property : String} {v : Value}

def entity? (w : World) : (t : EntityType) → String → Option t.Entity
  | .room, id => w.room? id
  | .door, id => w.door? id
  | .npc, id => w.npc? id
  | .object, id => w.object? id
  | .player, _ => some w.player
  | .game, _ => some w.game

def modifyEntity (w : World) : (t : EntityType) → String → (t.Entity → t.Entity) → World
  | .room, id, f => w.modifyRoom id f
  | .door, id, f => w.modifyDoor id f
  | .npc, id, f => w.modifyNpc id f
  | .object, id, f => w.modifyObject id f
  | .player, _, f => { w with player := f w.player }
  | .game, _, f => { w with game := f w.game }

section

variable {ε : Type} {listed : List (String × Kind)} {getter? : String → Option (ε → Value)}
  {setter? : String → Option (Value → ε → ε)} (agree : Property.Agree listed getter? setter?) (property : String)
include agree

theorem read_rows (found : Option ε) :
    (do let e ← found; let get ← getter? (Property.key property); return get e) =
      found.bind fun e => (Property.find? (Property.rows listed getter? setter?) property).map fun p => p.get e := by
  rw [agree.getter?_key]
  cases found <;> cases Property.find? (Property.rows listed getter? setter?) property <;> rfl

theorem read_alone (e : ε) : (getter? (Property.key property)).map (fun get => get e) =
    (some e).bind fun e => (Property.find? (Property.rows listed getter? setter?) property).map fun p => p.get e := by
  rw [agree.getter?_key, Option.map_map]
  rfl

theorem write_rows (found : Option ε) (v : Value) (modify : (ε → ε) → World) :
    (do let _ ← found; let set ← setter? (Property.key property); return modify (set v)) =
      found.bind fun _ =>
        (Property.find? (Property.rows listed getter? setter?) property).map fun p => modify (p.set v) := by
  rw [agree.setter?_key]
  cases found <;> cases Property.find? (Property.rows listed getter? setter?) property <;> rfl

theorem write_alone (e : ε) (v : Value) (modify : (ε → ε) → World) :
    (setter? (Property.key property)).map (fun set => modify (set v)) =
      (some e).bind fun _ =>
        (Property.find? (Property.rows listed getter? setter?) property).map fun p => modify (p.set v) := by
  rw [agree.setter?_key, Option.map_map]
  rfl

end

theorem getProperty?_eq (w : World) (t : EntityType) (id property : String) :
    w.getProperty? t id property =
      (w.entity? t id).bind fun e => (Property.find? t.table property).map fun p => p.get e := by
  cases t with
  | room => exact read_rows Room.agree property (w.room? id)
  | door => exact read_rows Door.agree property (w.door? id)
  | npc => exact read_rows Npc.agree property (w.npc? id)
  | object => exact read_rows GameObject.agree property (w.object? id)
  | player => exact read_alone Player.agree property w.player
  | game => exact read_alone GameState.agree property w.game

theorem setProperty?_eq (w : World) (t : EntityType) (id property : String) (v : Value) :
    w.setProperty? t id property v =
      (w.entity? t id).bind fun _ => (Property.find? t.table property).map fun p => w.modifyEntity t id (p.set v) := by
  cases t with
  | room => exact write_rows Room.agree property (w.room? id) v (w.modifyRoom id)
  | door => exact write_rows Door.agree property (w.door? id) v (w.modifyDoor id)
  | npc => exact write_rows Npc.agree property (w.npc? id) v (w.modifyNpc id)
  | object => exact write_rows GameObject.agree property (w.object? id) v (w.modifyObject id)
  | player => exact write_alone Player.agree property w.player v fun f => { w with player := f w.player }
  | game => exact write_alone GameState.agree property w.game v fun f => { w with game := f w.game }

theorem getProperty?_of_found {e : t.Entity} {p : Property t.Entity} (found : w.entity? t id = some e)
    (listed : Property.find? t.table property = some p) : w.getProperty? t id property = some (p.get e) := by
  rw [getProperty?_eq, found, listed, Option.bind_some, Option.map_some]

theorem setProperty?_of_found {e : t.Entity} {p : Property t.Entity} (found : w.entity? t id = some e)
    (listed : Property.find? t.table property = some p) :
    w.setProperty? t id property v = some (w.modifyEntity t id (p.set v)) := by
  rw [setProperty?_eq, found, listed, Option.bind_some, Option.map_some]

/-- What can be written is one listed property of one entity. -/
theorem exists_of_setProperty? (written : w.setProperty? t id property v = some w') :
    ∃ e p, w.entity? t id = some e ∧ Property.find? t.table property = some p ∧ w.modifyEntity t id (p.set v) = w' := by
  rw [setProperty?_eq, Option.bind_eq_some_iff] at written
  obtain ⟨e, found, written⟩ := written
  obtain ⟨p, listed, made⟩ := Option.map_eq_some_iff.1 written
  exact ⟨e, p, found, listed, made⟩

end World

end StoryGraph
