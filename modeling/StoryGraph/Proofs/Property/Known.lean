import Mathlib.Data.List.Nodup
import StoryGraph.Proofs.Engine.Deeds
import StoryGraph.Proofs.Property.Entity

/-!
Which properties there are. Main statement: those that are listed, those that can be read and those that can be written
are the same, what is read is of the kind that is listed, and a write that is refused changes nothing and starts no
walk.
-/

namespace StoryGraph

/-- What is read is of the kind that the table names. -/
def Property.Typed {ε : Type} (table : List (Property ε)) : Prop := ∀ p ∈ table, ∀ e, (p.get e).kind? = some p.kind

namespace EntityType

theorem typed_table (t : EntityType) : Property.Typed t.table := by
  have room : Property.Typed Room.properties := by simp [Property.Typed, Room.properties_eq, Value.kind?]
  have door : Property.Typed Door.properties := by simp [Property.Typed, Door.properties_eq, Value.kind?]
  have npc : Property.Typed Npc.properties := by simp [Property.Typed, Npc.properties_eq, Value.kind?]
  have object : Property.Typed GameObject.properties := by simp [Property.Typed, GameObject.properties_eq, Value.kind?]
  have player : Property.Typed Player.properties := by simp [Property.Typed, Player.properties_eq, Value.kind?]
  have game : Property.Typed GameState.properties := by simp [Property.Typed, GameState.properties_eq, Value.kind?]
  cases t with
  | room => exact room
  | door => exact door
  | npc => exact npc
  | object => exact object
  | player => exact player
  | game => exact game

theorem nodup_properties (t : EntityType) : (t.properties.map Prod.fst).Nodup := by cases t <;> decide

/-- A property is listed once. -/
theorem listed_iff {t : EntityType} {p : Property t.Entity} (mem : p ∈ t.table) {kind : Kind} :
    (p.name, kind) ∈ t.properties ↔ kind = p.kind := by
  have entry : (p.name, p.kind) ∈ t.properties := by
    rw [properties_eq]
    exact List.mem_map_of_mem mem
  constructor
  · intro other
    have same : (p.name, kind) = (p.name, p.kind) := List.inj_on_of_nodup_map t.nodup_properties other entry rfl
    exact congrArg Prod.snd same
  · rintro rfl
    exact entry

end EntityType

namespace World

variable {w : World} {t : EntityType} {id property : String} {v : Value}

/-- There is an entity of this type and id. There always is a player and a game. -/
def Has (w : World) : EntityType → String → Prop
  | .room, id => ∃ e ∈ w.rooms, Text.sameName e.id id
  | .door, id => ∃ e ∈ w.doors, Text.sameName e.id id
  | .npc, id => ∃ e ∈ w.npcs, Text.sameName e.id id
  | .object, id => ∃ e ∈ w.objects, Text.sameName e.id id
  | .player, _ | .game, _ => True

theorem isSome_entity? (w : World) (t : EntityType) (id : String) : (w.entity? t id).isSome ↔ w.Has t id := by
  cases t with
  | room | door | npc | object => exact List.find?_isSome
  | player | game => exact iff_of_true rfl trivial

theorem isSome_getProperty?_iff :
    (w.getProperty? t id property).isSome ↔ w.Has t id ∧ (t.canonicalProperty? property).isSome := by
  rw [← isSome_entity?, getProperty?_eq, EntityType.canonicalProperty?_eq, Option.isSome_map]
  cases w.entity? t id <;> simp

/-- What is read has the one kind that is listed under the property's name. -/
theorem kind_of_getProperty? {value : Value} (read : w.getProperty? t id property = some value) :
    ∃ name kind, t.canonicalProperty? property = some name ∧ value.kind? = some kind ∧
      ∀ k, (name, k) ∈ t.properties ↔ k = kind := by
  rw [getProperty?_eq, Option.bind_eq_some_iff] at read
  obtain ⟨e, -, read⟩ := read
  obtain ⟨p, found, rfl⟩ := Option.map_eq_some_iff.1 read
  have mem := (Property.find?_eq_some found).1
  refine ⟨p.name, p.kind, ?_, t.typed_table p mem e, fun k => EntityType.listed_iff mem⟩
  rw [EntityType.canonicalProperty?_eq, found, Option.map_some]

/-- A write comes to nothing exactly where it meets nothing. -/
theorem writeProperty_unmatched_iff :
    (w.writeProperty t id property v).2 = .unmatched ↔ w.setProperty? t id property v = none := by
  rw [← Option.not_isSome_iff_eq_none, isSome_setProperty?]
  obtain ⟨outcome, unmet⟩ | ⟨e, p, found, listed, outcome⟩ := w.writeProperty_cases t id property v
  · rw [outcome, getProperty?_eq]
    cases unmet with
    | inl absent => simp [absent]
    | inr unlisted => cases w.entity? t id <;> simp [unlisted]
  · have read : (w.getProperty? t id property).isSome := by simp [getProperty?_eq, found, listed]
    obtain ⟨outcome, -⟩ | ⟨outcome, -⟩ := outcome <;> simp [outcome, read]

end World

/-- A node that writes to nothing does nothing. -/
theorem Act.setProperty_of_unset {c : Call} {t : EntityType} {id property : String}
    (target : c.target? = some (t, id, property))
    (unset : c.world.setProperty? t id property (Bag.getValue c.node.properties "Value") = none) :
    setProperty c = idle c := by
  rw [setProperty, target]
  dsimp only
  have unmatched := World.writeProperty_unmatched_iff.2 unset
  cases written : c.world.writeProperty t id property (Bag.getValue c.node.properties "Value") with
  | mk w outcome =>
    obtain rfl : outcome = .unmatched := by rw [written] at unmatched; exact unmatched
    rw [World.writeProperty_unmatched written]
    rfl

namespace Surroundings

variable {s : Surroundings} {r : Run} {type id property : String} {v : Value}

/-- A host is refused a write to what cannot be written. -/
theorem setProperty_refused_iff : (∃ e, (s.setProperty type id property v r).1 = .error e) ↔
    ∀ t, EntityType.ofName? type = some t → r.world.setProperty? t id property v = none := by
  rw [setProperty]
  cases EntityType.ofName? type with
  | none => simp
  | some t =>
    simp only [Option.some.injEq, forall_eq', ← World.writeProperty_unmatched_iff]
    cases r.world.writeProperty t id property v with
    | mk w outcome => cases outcome <;> simp

/-- A write that is refused leaves the run as it is and starts nothing. -/
theorem setProperty_refused {e : EngineError} (refused : (s.setProperty type id property v r).1 = .error e) :
    (s.setProperty type id property v r).2 = r ∧ ((Command.setProperty type id property v).starts s r).1 = [] := by
  rw [setProperty] at refused ⊢
  rw [Command.starts]
  cases known : EntityType.ofName? type with
  | none => exact ⟨rfl, rfl⟩
  | some t =>
    simp only [known, Option.map_some] at refused ⊢
    cases written : r.world.writeProperty t id property v with
    | mk w outcome =>
      simp only [written] at refused ⊢
      cases outcome with
      | unmatched => exact ⟨rfl, rfl⟩
      | unchanged | changed => cases refused

/-- No node is called while a write is refused. -/
theorem does_refused {e : EngineError} (refused : (s.setProperty type id property v r).1 = .error e) {time : Nat}
    {d : World.Deed} (does : s.Does [(time, .setProperty type id property v)] r d) (kind : NodeType) (c : Call) :
    d ≠ .ran kind c := by
  have world : (r.resume time).world = r.world := rfl
  have unset := setProperty_refused_iff.1 ⟨e, refused⟩
  rw [← world] at unset
  obtain ⟨_, again⟩ := setProperty_refused_iff.2 unset
  have quiet := (setProperty_refused again).2
  cases (does_quiet quiet).1 does with
  | inl own =>
    simp only [Command.deed?, Option.map_eq_some_iff] at own
    obtain ⟨t, -, rfl⟩ := own
    intro same
    cases same
  | inr later => exact absurd later not_does_nil

/-- A property can be read exactly if it is listed and there is an entity that has it, exactly if it can be written.
What is read is of the kind that is listed. Nothing comes of a write to what cannot be written, whether a node or a
host writes; a host is told so. -/
theorem properties_agree (s : Surroundings) (r : Run) (t : EntityType) (id property : String) :
    ((r.world.getProperty? t id property).isSome ↔ r.world.Has t id ∧ (t.canonicalProperty? property).isSome) ∧
    (∀ v, (r.world.setProperty? t id property v).isSome = (r.world.getProperty? t id property).isSome) ∧
    (∀ value, r.world.getProperty? t id property = some value →
      ∃ name kind, t.canonicalProperty? property = some name ∧ value.kind? = some kind ∧
        ∀ k, (name, k) ∈ t.properties ↔ k = kind) ∧
    (∀ c : Call, c.target? = some (t, id, property) →
      c.world.setProperty? t id property (Bag.getValue c.node.properties "Value") = none →
      Act.setProperty c = Act.idle c) ∧
    ∀ type v,
      ((∃ e, (s.setProperty type id property v r).1 = .error e) ↔
        ∀ t, EntityType.ofName? type = some t → r.world.setProperty? t id property v = none) ∧
      ∀ e, (s.setProperty type id property v r).1 = .error e →
        (s.setProperty type id property v r).2 = r ∧
        ∀ time d, s.Does [(time, .setProperty type id property v)] r d → ∀ kind c, d ≠ .ran kind c :=
  ⟨World.isSome_getProperty?_iff, fun _ => World.isSome_setProperty?, fun _ => World.kind_of_getProperty?,
    fun _ => Act.setProperty_of_unset, fun _ _ => ⟨setProperty_refused_iff, fun _ refused =>
      ⟨(setProperty_refused refused).1, fun _ _ does => does_refused refused does⟩⟩⟩

/-- The guard can be asked for his greatest health in any spelling; he has no mana, and a node that writes it does
nothing either. -/
theorem properties_agree_guard :
    let s : Surroundings := { registry := .builtins, library := [], settings := {}, draws := .ofSeed 7 }
    let r : Run := { world := { npcs := [{ id := "Guard", maxHealth := 10 }] } }
    let enchant : Node :=
      { id := "enchant", typeTag := "Action_SetProperty",
        properties := .ofList [("EntityType", .string "Npc"), ("EntityId", .string "guard"),
          ("PropertyName", .string "Mana"), ("Value", .int 3)] }
    let c : Call :=
      { node := enchant, graphId := "tower", inputPort := Port.exec, depth := 0, outputs := .empty, world := r.world,
        draws := .ofSeed 7 }
    r.world.getProperty? .npc "guard" " maxhealth " = some (.int 10) ∧
      (∃ name, EntityType.npc.canonicalProperty? " maxhealth " = some name ∧ (name, Kind.int) ∈ EntityType.npc.properties) ∧
      Act.setProperty c = Act.idle c ∧ (s.setProperty "NPC" "guard" "Mana" (.int 3) r).2 = r := by
  intro s r enchant c
  have read : r.world.getProperty? .npc "guard" " maxhealth " = some (.int 10) := by decide +kernel
  obtain ⟨-, -, kinds, -, -⟩ := s.properties_agree r .npc "guard" " maxhealth "
  obtain ⟨-, -, -, nodes, hosts⟩ := s.properties_agree r .npc "guard" "Mana"
  obtain ⟨name, kind, canonical, declared, listed⟩ := kinds _ read
  have target : c.target? = some (.npc, "guard", "Mana") := by decide +kernel
  have unset : r.world.setProperty? .npc "guard" "Mana" (.int 3) = none := by
    rw [← Option.not_isSome_iff_eq_none, World.isSome_setProperty?]
    decide +kernel
  have known : EntityType.ofName? "NPC" = some .npc := by decide +kernel
  obtain ⟨refused, kept⟩ := hosts "NPC" (.int 3)
  obtain ⟨e, error⟩ := refused.2 fun t named => by
    obtain rfl : .npc = t := Option.some.inj (known.symm.trans named)
    exact unset
  exact ⟨read, ⟨name, canonical, (listed .int).2 (Option.some.inj declared)⟩, nodes c target unset, (kept e error).1⟩

end Surroundings

end StoryGraph
