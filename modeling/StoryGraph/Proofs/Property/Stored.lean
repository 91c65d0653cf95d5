import StoryGraph.Proofs.Property.Told

/-!
What a write leaves behind. Main statement: the property that is written then reads as the value does in the kind and
within the bounds of the property, everything else in the world is as it was, but for the health that a greatest
health lowers, and the same write once more changes nothing.
-/

namespace StoryGraph

/-- The value as one of a kind. What does not read as that counts as false, zero or the empty text. -/
def Value.ofKind (v : Value) : Kind → Value
  | .bool => bool v.toBool
  | .int => int v.toInt
  | .float => float v.toFloat
  | .string => string v.toText

/-- Where the numbers of a property lie. -/
inductive Bounds where
  | none
  | atLeast (least : Int)
  /-- From zero to the greatest health of the entity. -/
  | health
  /-- An hour of the day. -/
  | hour

namespace Bounds

/-- The bounds of the properties of a name. -/
def ofName : String → Bounds
  | "Health" => health
  | "MaxHealth" => atLeast 1
  | "Gold" | "Experience" | "Value" | "Weight" | "Turn" => atLeast 0
  | "Hour" => hour
  | _ => none

/-- The second value is the first one, moved into the bounds. What is no number lies at the least one. -/
def Moves (greatest : Int64) : Bounds → Value → Value → Prop
  | none, v, v' => v' = v
  | atLeast least, .int n, .int n' => n'.toInt = max n.toInt least
  | atLeast least, .float x, .float x' => x' = if Float.ofInt least < x then x else Float.ofInt least
  | health, .int n, .int n' => n'.toInt = max 0 (min n.toInt (max greatest.toInt 0))
  | hour, .int n, .int n' => n'.toInt = n.toInt % 24
  | _, _, _ => False

end Bounds

/-! What is read after a write. -/

/-- A property holds the value that is written to it, within its bounds. `greatest` is the greatest health. -/
def Property.Keeps {ε : Type} (greatest : ε → Int64) (p : Property ε) : Prop :=
  ∀ v e, (Bounds.ofName p.name).Moves (greatest e) (v.ofKind p.kind) (p.get (p.set v e))

theorem Room.keeps {p : Property Room} (listed : p ∈ properties) : p.Keeps fun _ => 0 := by
  simp only [properties_eq, List.mem_cons, List.not_mem_nil, or_false] at listed
  intro v e
  obtain rfl | rfl | rfl | rfl | rfl := listed <;> rfl

theorem Door.keeps {p : Property Door} (listed : p ∈ properties) : p.Keeps fun _ => 0 := by
  simp only [properties_eq, List.mem_cons, List.not_mem_nil, or_false] at listed
  intro v e
  obtain rfl | rfl | rfl | rfl | rfl := listed <;> rfl

/-- Health as it is written, between zero and the greatest health. -/
theorem Whole.toInt_setHealth (greatest h : Int64) :
    (clampTo 0 (max greatest 0) h (le_max_right _ _)).toInt = max 0 (min h.toInt (max greatest.toInt 0)) := by
  rw [toInt_clampTo, toInt_max, Int64.toInt_zero]

theorem Npc.keeps {p : Property Npc} (listed : p ∈ properties) : p.Keeps Npc.maxHealth := by
  simp only [properties_eq, List.mem_cons, List.not_mem_nil, or_false] at listed
  intro v e
  obtain rfl | rfl | rfl | rfl | rfl | rfl | rfl | rfl | rfl | rfl := listed
  case inr.inr.inr.inl => exact Whole.toInt_setHealth e.maxHealth v.toInt
  case inr.inr.inr.inr.inl => exact Whole.toInt_max v.toInt 1
  case inr.inr.inr.inr.inr.inr.inr.inr.inl => exact Whole.toInt_max v.toInt 0
  all_goals rfl

theorem GameObject.keeps {p : Property GameObject} (listed : p ∈ properties) : p.Keeps fun _ => 0 := by
  simp only [properties_eq, List.mem_cons, List.not_mem_nil, or_false] at listed
  intro v e
  obtain rfl | rfl | rfl | rfl | rfl | rfl | rfl | rfl | rfl := listed
  case inr.inr.inr.inr.inr.inr.inr.inl => exact Whole.toInt_max v.toInt 0
  all_goals rfl

theorem Player.keeps {p : Property Player} (listed : p ∈ properties) : p.Keeps Player.maxHealth := by
  simp only [properties_eq, List.mem_cons, List.not_mem_nil, or_false] at listed
  intro v e
  obtain rfl | rfl | rfl | rfl | rfl | rfl := listed
  case inr.inl => exact Whole.toInt_setHealth e.maxHealth v.toInt
  case inr.inr.inl => exact Whole.toInt_max v.toInt 1
  case inr.inr.inr.inl => exact Whole.toInt_max v.toInt 0
  case inr.inr.inr.inr.inl => exact Whole.toInt_max v.toInt 0
  all_goals rfl

theorem GameState.keeps {p : Property GameState} (listed : p ∈ properties) : p.Keeps fun _ => 0 := by
  simp only [properties_eq, List.mem_cons, List.not_mem_nil, or_false] at listed
  intro v e
  obtain rfl | rfl | rfl | rfl | rfl := listed
  case inl => exact Whole.toInt_max v.toInt 0
  case inr.inl => exact Whole.toInt_hourOf v.toInt
  all_goals rfl

/-! Writes of one value, one after the other. -/

/-- The second one of two writes changes nothing. -/
def Property.Settles {ε : Type} (p : Property ε) : Prop := ∀ v e, p.set v (p.set v e) = p.set v e

theorem Whole.min_min (h m : Int64) : min (min h m) m = min h m := by
  apply Int64.toInt_inj.1
  simp only [toInt_min]
  omega

theorem Room.settles {p : Property Room} (listed : p ∈ properties) : p.Settles := by
  simp only [properties_eq, List.mem_cons, List.not_mem_nil, or_false] at listed
  intro v e
  obtain rfl | rfl | rfl | rfl | rfl := listed <;> rfl

theorem Door.settles {p : Property Door} (listed : p ∈ properties) : p.Settles := by
  simp only [properties_eq, List.mem_cons, List.not_mem_nil, or_false] at listed
  intro v e
  obtain rfl | rfl | rfl | rfl | rfl := listed <;> rfl

theorem Npc.settles {p : Property Npc} (listed : p ∈ properties) : p.Settles := by
  simp only [properties_eq, List.mem_cons, List.not_mem_nil, or_false] at listed
  intro v e
  obtain rfl | rfl | rfl | rfl | rfl | rfl | rfl | rfl | rfl | rfl := listed
  case inr.inr.inr.inr.inl => simp only [setMaxHealth, Whole.min_min]
  all_goals rfl

theorem GameObject.settles {p : Property GameObject} (listed : p ∈ properties) : p.Settles := by
  simp only [properties_eq, List.mem_cons, List.not_mem_nil, or_false] at listed
  intro v e
  obtain rfl | rfl | rfl | rfl | rfl | rfl | rfl | rfl | rfl := listed <;> rfl

theorem Player.settles {p : Property Player} (listed : p ∈ properties) : p.Settles := by
  simp only [properties_eq, List.mem_cons, List.not_mem_nil, or_false] at listed
  intro v e
  obtain rfl | rfl | rfl | rfl | rfl | rfl := listed
  case inr.inr.inl => simp only [setMaxHealth, Whole.min_min]
  all_goals rfl

theorem GameState.settles {p : Property GameState} (listed : p ∈ properties) : p.Settles := by
  simp only [properties_eq, List.mem_cons, List.not_mem_nil, or_false] at listed
  intro v e
  obtain rfl | rfl | rfl | rfl | rfl := listed <;> rfl

/-! A greatest health against the health. -/

theorem Npc.lowers {p q : Property Npc} (written : p ∈ properties) (greatest : p.name = "MaxHealth")
    (read : q ∈ properties) (health : q.name = "Health") : p.Lowers q := by
  simp only [properties_eq, List.mem_cons, List.not_mem_nil, or_false] at written read
  obtain rfl | rfl | rfl | rfl | rfl | rfl | rfl | rfl | rfl | rfl := written
  case inr.inr.inr.inr.inl =>
    obtain rfl | rfl | rfl | rfl | rfl | rfl | rfl | rfl | rfl | rfl := read
    case inr.inr.inr.inl => exact ⟨rfl, rfl, fun v e => ⟨e.health, max v.toInt 1, rfl, rfl, rfl⟩⟩
    all_goals exact absurd health (by decide)
  all_goals exact absurd greatest (by decide)

theorem Player.lowers {p q : Property Player} (written : p ∈ properties) (greatest : p.name = "MaxHealth")
    (read : q ∈ properties) (health : q.name = "Health") : p.Lowers q := by
  simp only [properties_eq, List.mem_cons, List.not_mem_nil, or_false] at written read
  obtain rfl | rfl | rfl | rfl | rfl | rfl := written
  case inr.inr.inl =>
    obtain rfl | rfl | rfl | rfl | rfl | rfl := read
    case inr.inl => exact ⟨rfl, rfl, fun v e => ⟨e.health, max v.toInt 1, rfl, rfl, rfl⟩⟩
    all_goals exact absurd health (by decide)
  all_goals exact absurd greatest (by decide)

namespace EntityType

variable {t : EntityType} {p q : Property t.Entity}

/-- The greatest health of an entity that has one. -/
def greatest : (t : EntityType) → t.Entity → Int64
  | npc => Npc.maxHealth
  | player => Player.maxHealth
  | room | door | object | game => fun _ => 0

theorem keeps (listed : p ∈ t.table) : p.Keeps t.greatest := by
  cases t with
  | room => exact Room.keeps listed
  | door => exact Door.keeps listed
  | npc => exact Npc.keeps listed
  | object => exact GameObject.keeps listed
  | player => exact Player.keeps listed
  | game => exact GameState.keeps listed

theorem settles (listed : p ∈ t.table) : p.Settles := by
  cases t with
  | room => exact Room.settles listed
  | door => exact Door.settles listed
  | npc => exact Npc.settles listed
  | object => exact GameObject.settles listed
  | player => exact Player.settles listed
  | game => exact GameState.settles listed

theorem lowers (written : p ∈ t.table) (greatest : p.name = "MaxHealth") (read : q ∈ t.table)
    (health : q.name = "Health") : p.Lowers q := by
  have listed : "MaxHealth" ∈ t.properties.map Prod.fst := by
    rw [properties_eq, List.map_map, ← greatest]
    exact List.mem_map_of_mem written
  cases t with
  | room | door | object | game => exact absurd listed (by decide)
  | npc => exact Npc.lowers written greatest read health
  | player => exact Player.lowers written greatest read health

/-- All that an entity has beside its properties is the same. -/
def Beside : (t : EntityType) → t.Entity → t.Entity → Prop
  | room, (e : Room), (e' : Room) => e'.id = e.id
  | door, (e : Door), (e' : Door) => e'.id = e.id ∧ e'.fromRoomId = e.fromRoomId ∧ e'.toRoomId = e.toRoomId
  | npc, (e : Npc), (e' : Npc) => e'.id = e.id
  | object, (e : GameObject), (e' : GameObject) => e'.id = e.id
  | player, (e : Player), (e' : Player) => e'.inventory = e.inventory
  | game, _, _ => True

end EntityType

theorem Door.rooms_set {p : Property Door} (listed : p ∈ properties) (v : Value) (e : Door) :
    (p.set v e).fromRoomId = e.fromRoomId ∧ (p.set v e).toRoomId = e.toRoomId := by
  simp only [properties_eq, List.mem_cons, List.not_mem_nil, or_false] at listed
  obtain rfl | rfl | rfl | rfl | rfl := listed <;> exact ⟨rfl, rfl⟩

namespace EntityType

variable {t : EntityType} {p : Property t.Entity}

theorem beside_set (listed : p ∈ t.table) (v : Value) (e : t.Entity) : t.Beside e (p.set v e) := by
  cases t with
  | room => exact Room.id_set listed v e
  | door => exact ⟨Door.id_set listed v e, Door.rooms_set listed v e⟩
  | npc => exact Npc.id_set listed v e
  | object => exact GameObject.id_set listed v e
  | player => exact Player.inventory_set listed v e
  | game => trivial

/-- What an entity comes to by a write of this value to this property. -/
structure Stores (t : EntityType) (p : Property t.Entity) (v : Value) (e e' : t.Entity) : Prop where
  written : (Bounds.ofName p.name).Moves (t.greatest e) (v.ofKind p.kind) (p.get e')
  lowered : ∀ q ∈ t.table, p.name = "MaxHealth" → q.name = "Health" →
    ∃ h m, q.get e = .int h ∧ p.get e' = .int m ∧ q.get e' = .int (min h m)
  others : ∀ q ∈ t.table, q.name ≠ p.name → ¬ (p.name = "MaxHealth" ∧ q.name = "Health") → q.get e' = q.get e
  beside : t.Beside e e'

theorem stores_set (listed : p ∈ t.table) (v : Value) (e : t.Entity) : t.Stores p v e (p.set v e) where
  written := keeps listed v e
  lowered q read greatest health := (lowers listed greatest read health).2.2 v e
  others q read other plain := by
    cases t.independent p listed q read other with
    | inl apart => exact apart v e
    | inr lowers => exact absurd ⟨lowers.1, lowers.2.1⟩ plain
  beside := beside_set listed v e

end EntityType

namespace World

variable {w : World} {t : EntityType} {id property : String}

/-- A write stores the value, as one of the kind of the property and within its bounds, and changes nothing else. -/
theorem write_stored {e : t.Entity} {p : Property t.Entity} (found : w.entity? t id = some e)
    (listed : Property.find? t.table property = some p) (v : Value) :
    ∃ w' e', w.setProperty? t id property v = some w' ∧ t.Stores p v e e' ∧ w'.getProperty? t id property = some (p.get e') ∧
      w'.entity? t id = some e' ∧ Touches (some (t, id)) w w' ∧ ChangesOnly [t.part] w w' ∧
      w'.setProperty? t id property v = some w' := by
  have mem := (Property.find?_eq_some listed).1
  have written : w.setProperty? t id property v = some (w.modifyEntity t id (p.set v)) :=
    setProperty?_of_found found listed
  have now : (w.modifyEntity t id (p.set v)).entity? t id = some (p.set v e) := by
    rw [entity?_modifyEntity (EntityType.key_set mem v) (sameEntity_refl t id), found, Option.map_some]
  have again : (w.modifyEntity t id (p.set v)).setProperty? t id property v =
      some (w.modifyEntity t id (p.set v)) := by
    rw [setProperty?_of_found now listed]
    refine congrArg some (Eq.trans (modifyEntity_congr fun e' here => ?_) (modifyEntity_id _ t id))
    obtain rfl := Option.some.inj (now.symm.trans here)
    exact EntityType.settles mem v e
  exact ⟨_, _, written, EntityType.stores_set mem v e, getProperty?_of_found now listed, now,
    Touches.setProperty? written, changesOnly_setProperty? written, again⟩

/-- Someone who has more health than he may have. -/
def barracks : World where
  npcs := [{ id := "Captain", health := 50, maxHealth := 10, gold := 3 }]

/-- The greatest health of the captain is written as a text with a fraction, and lowers his health with it. -/
theorem write_stored_captain :
    ∃ w', barracks.setProperty? .npc "captain" " maxhealth " (.string " 7.9 ") = some w' ∧
      w'.getProperty? .npc "captain" "MaxHealth" = some (.int 7) ∧
      w'.getProperty? .npc "captain" "Health" = some (.int 7) ∧
      w'.getProperty? .npc "captain" "Gold" = some (.int 3) ∧
      w'.setProperty? .npc "captain" " maxhealth " (.string " 7.9 ") = some w' := by
  have found : barracks.npc? "captain" = some { id := "Captain", health := 50, maxHealth := 10, gold := 3 } := by
    decide
  have known : (Property.find? EntityType.npc.table " maxhealth ").isSome := by decide
  obtain ⟨p, listed⟩ := Option.isSome_iff_exists.1 known
  obtain ⟨w', e', written, -, -, -, -, -, again⟩ := write_stored (t := .npc) found listed (.string " 7.9 ")
  have reads (property : String) : (barracks.setProperty? .npc "captain" " maxhealth " (.string " 7.9 ")).bind
      (fun w => w.getProperty? .npc "captain" property) = w'.getProperty? .npc "captain" property := by
    rw [written, Option.bind_some]
  refine ⟨w', written, ?_, ?_, ?_, again⟩
  · rw [← reads]
    decide
  · rw [← reads]
    decide
  · rw [← reads]
    decide

end World

end StoryGraph
