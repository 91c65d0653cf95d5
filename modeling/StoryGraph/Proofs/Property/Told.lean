import StoryGraph.Proofs.Property.Entity

/-!
What a write tells of itself. Main statement: a write that reports no change leaves the world as it was, and a write
that reports one has changed what it names, from the old value to the new one, and nothing else that can be read. To
both there is one exception: a written greatest health lowers the health to it, and that is not told.
-/

namespace StoryGraph

/-! One property of an entity against another. -/

namespace Property

variable {ε : Type}

/-- Writes of the first property do not show in the second. -/
def Apart (p q : Property ε) : Prop := ∀ v e, q.get (p.set v e) = q.get e

/-- A write of the greatest health lowers the health to it. -/
def Lowers (p q : Property ε) : Prop :=
  p.name = "MaxHealth" ∧ q.name = "Health" ∧
    ∀ v e, ∃ h m, q.get e = .int h ∧ p.get (p.set v e) = .int m ∧ q.get (p.set v e) = .int (min h m)

/-- A write of one property shows in no other one, but for the greatest health. -/
def Independent (table : List (Property ε)) : Prop :=
  ∀ p ∈ table, ∀ q ∈ table, q.name ≠ p.name → p.Apart q ∨ p.Lowers q

end Property

theorem Room.independent : Property.Independent properties := by
  intro p written q read other
  simp only [properties_eq, List.mem_cons, List.not_mem_nil, or_false] at written read
  obtain rfl | rfl | rfl | rfl | rfl := written <;> obtain rfl | rfl | rfl | rfl | rfl := read <;>
    first
    | exact absurd rfl other
    | exact .inl fun _ _ => rfl

theorem Door.independent : Property.Independent properties := by
  intro p written q read other
  simp only [properties_eq, List.mem_cons, List.not_mem_nil, or_false] at written read
  obtain rfl | rfl | rfl | rfl | rfl := written <;> obtain rfl | rfl | rfl | rfl | rfl := read <;>
    first
    | exact absurd rfl other
    | exact .inl fun _ _ => rfl

theorem Npc.independent : Property.Independent properties := by
  intro p written q read other
  simp only [properties_eq, List.mem_cons, List.not_mem_nil, or_false] at written read
  obtain rfl | rfl | rfl | rfl | rfl | rfl | rfl | rfl | rfl | rfl := written <;>
    obtain rfl | rfl | rfl | rfl | rfl | rfl | rfl | rfl | rfl | rfl := read <;>
    first
    | exact absurd rfl other
    | exact .inl fun _ _ => rfl
    | exact .inr ⟨rfl, rfl, fun _ _ => ⟨_, _, rfl, rfl, rfl⟩⟩

theorem GameObject.independent : Property.Independent properties := by
  intro p written q read other
  simp only [properties_eq, List.mem_cons, List.not_mem_nil, or_false] at written read
  obtain rfl | rfl | rfl | rfl | rfl | rfl | rfl | rfl | rfl := written <;>
    obtain rfl | rfl | rfl | rfl | rfl | rfl | rfl | rfl | rfl := read <;>
    first
    | exact absurd rfl other
    | exact .inl fun _ _ => rfl

theorem Player.independent : Property.Independent properties := by
  intro p written q read other
  simp only [properties_eq, List.mem_cons, List.not_mem_nil, or_false] at written read
  obtain rfl | rfl | rfl | rfl | rfl | rfl := written <;> obtain rfl | rfl | rfl | rfl | rfl | rfl := read <;>
    first
    | exact absurd rfl other
    | exact .inl fun _ _ => rfl
    | exact .inr ⟨rfl, rfl, fun _ _ => ⟨_, _, rfl, rfl, rfl⟩⟩

theorem GameState.independent : Property.Independent properties := by
  intro p written q read other
  simp only [properties_eq, List.mem_cons, List.not_mem_nil, or_false] at written read
  obtain rfl | rfl | rfl | rfl | rfl := written <;> obtain rfl | rfl | rfl | rfl | rfl := read <;>
    first
    | exact absurd rfl other
    | exact .inl fun _ _ => rfl

/-! Writes of what is there already. -/

theorem Room.set_same {p : Property Room} (listed : p ∈ properties) {v : Value} {e : Room}
    (same : (p.get e).same (p.get (p.set v e)) = true) : p.set v e = e := by
  simp only [properties_eq, List.mem_cons, List.not_mem_nil, or_false] at listed
  obtain rfl | rfl | rfl | rfl | rfl := listed <;>
    · simp only [Value.same, beq_iff_eq] at same
      simp only [← same]

theorem Door.set_same {p : Property Door} (listed : p ∈ properties) {v : Value} {e : Door}
    (same : (p.get e).same (p.get (p.set v e)) = true) : p.set v e = e := by
  simp only [properties_eq, List.mem_cons, List.not_mem_nil, or_false] at listed
  obtain rfl | rfl | rfl | rfl | rfl := listed <;>
    · simp only [Value.same, beq_iff_eq] at same
      simp only [← same]

theorem Npc.set_same {p : Property Npc} (listed : p ∈ properties) {v : Value} {e : Npc}
    (same : (p.get e).same (p.get (p.set v e)) = true) :
    p.set v e = e ∨ p.name = "MaxHealth" ∧ p.set v e = { e with health := min e.health e.maxHealth } := by
  simp only [properties_eq, List.mem_cons, List.not_mem_nil, or_false] at listed
  obtain rfl | rfl | rfl | rfl | rfl | rfl | rfl | rfl | rfl | rfl := listed
  case inr.inr.inr.inr.inl =>
    simp only [Value.same, setMaxHealth, beq_iff_eq] at same
    refine .inr ⟨rfl, ?_⟩
    simp only [setMaxHealth, ← same]
  all_goals
    simp only [Value.same, setHealth, beq_iff_eq] at same
    refine .inl ?_
    simp only [setHealth, ← same]

theorem GameObject.set_same {p : Property GameObject} (listed : p ∈ properties) {v : Value} {e : GameObject}
    (same : (p.get e).same (p.get (p.set v e)) = true) :
    p.set v e = e ∨ ∃ x, (e.weight == x) = true ∧ p.set v e = { e with weight := x } := by
  simp only [properties_eq, List.mem_cons, List.not_mem_nil, or_false] at listed
  obtain rfl | rfl | rfl | rfl | rfl | rfl | rfl | rfl | rfl := listed
  case inr.inr.inr.inr.inr.inr.inr.inr => exact .inr ⟨_, same, rfl⟩
  all_goals
    simp only [Value.same, beq_iff_eq] at same
    refine .inl ?_
    simp only [← same]

theorem Player.set_same {p : Property Player} (listed : p ∈ properties) {v : Value} {e : Player}
    (same : (p.get e).same (p.get (p.set v e)) = true) :
    p.set v e = e ∨ p.name = "MaxHealth" ∧ p.set v e = { e with health := min e.health e.maxHealth } := by
  simp only [properties_eq, List.mem_cons, List.not_mem_nil, or_false] at listed
  obtain rfl | rfl | rfl | rfl | rfl | rfl := listed
  case inr.inr.inl =>
    simp only [Value.same, setMaxHealth, beq_iff_eq] at same
    refine .inr ⟨rfl, ?_⟩
    simp only [setMaxHealth, ← same]
  all_goals
    simp only [Value.same, setHealth, beq_iff_eq] at same
    refine .inl ?_
    simp only [setHealth, ← same]

theorem GameState.set_same {p : Property GameState} (listed : p ∈ properties) {v : Value} {e : GameState}
    (same : (p.get e).same (p.get (p.set v e)) = true) : p.set v e = e := by
  simp only [properties_eq, List.mem_cons, List.not_mem_nil, or_false] at listed
  obtain rfl | rfl | rfl | rfl | rfl := listed <;>
    · simp only [Value.same, beq_iff_eq] at same
      simp only [← same]

namespace EntityType

/-- The same entity, where the two zeros are one number. -/
def Equal : (t : EntityType) → t.Entity → t.Entity → Prop
  | object, (e : GameObject), e' => e' = e ∨ ∃ x, (e.weight == x) = true ∧ e' = { e with weight := x }
  | room, e, e' | door, e, e' | npc, e, e' | player, e, e' | game, e, e' => e' = e

/-- The entity with its health lowered to the greatest. -/
def lowered : (t : EntityType) → t.Entity → t.Entity
  | npc, (e : Npc) => ({ e with health := min e.health e.maxHealth } : Npc)
  | player, (e : Player) => ({ e with health := min e.health e.maxHealth } : Player)
  | room, e | door, e | object, e | game, e => e

variable {t : EntityType} {p : Property t.Entity}

theorem independent (t : EntityType) : Property.Independent t.table := by
  cases t with
  | room => exact Room.independent
  | door => exact Door.independent
  | npc => exact Npc.independent
  | object => exact GameObject.independent
  | player => exact Player.independent
  | game => exact GameState.independent

theorem set_same (listed : p ∈ t.table) {v : Value} {e : t.Entity}
    (same : (p.get e).same (p.get (p.set v e)) = true) :
    t.Equal e (p.set v e) ∨ p.name = "MaxHealth" ∧ p.set v e = t.lowered e := by
  cases t with
  | room => exact .inl (Room.set_same listed same)
  | door => exact .inl (Door.set_same listed same)
  | npc => exact Npc.set_same listed same
  | object => exact .inl (GameObject.set_same listed same)
  | player => exact Player.set_same listed same
  | game => exact .inl (GameState.set_same listed same)

/-- A listed name is its own spelling. -/
theorem find?_name {property : String} (found : Property.find? t.table property = some p) :
    Property.find? t.table p.name = some p := by
  obtain ⟨listed, named⟩ := Property.find?_eq_some found
  have plain : ∀ q ∈ t.properties, Text.trim q.1 = q.1 := by cases t <;> decide
  rw [properties_eq, List.forall_mem_map] at plain
  rw [Property.find?, plain p listed, ← Property.find?_of_sameName _ named, found]

end EntityType

/-- Whether a change is one of this property of this entity. -/
structure Change.Names (c : Change) (t : EntityType) (id property : String) : Prop where
  type : c.entityType = t
  entity : t.sameEntity id c.entityId = true
  property : Text.sameName c.property (Text.trim property) = true

namespace World

variable {w w' : World} {t : EntityType} {id property : String} {v : Value}

/-- The same world, where the two zeros are one number in the weights of objects. -/
def Equal (w w' : World) : Prop :=
  w' = w ∨ ∃ id o x, w.object? id = some o ∧ (o.weight == x) = true ∧
    w' = w.modifyObject id fun o => { o with weight := x }

/-- Of all that can be read, between the two worlds nothing changes but what is told, and the health of an entity whose
greatest health is told: it comes out as the lesser of both. -/
structure Told (w w' : World) (c : Change) : Prop where
  before : w.getProperty? c.entityType c.entityId c.property = some c.oldValue
  after : w'.getProperty? c.entityType c.entityId c.property = some c.newValue
  differs : c.oldValue.same c.newValue = false
  others : ∀ t id property, ¬ c.Names t id property → w'.getProperty? t id property = w.getProperty? t id property ∨
    c.property = "MaxHealth" ∧ { c with property := "Health" : Change }.Names t id property ∧
      ∃ h m, w.getProperty? t id property = some (.int h) ∧ c.newValue = .int m ∧
        w'.getProperty? t id property = some (.int (min h m))

theorem equal_modifyEntity {f : t.Entity → t.Entity} {e : t.Entity} (found : w.entity? t id = some e)
    (equal : t.Equal e (f e)) : w.Equal (w.modifyEntity t id f) := by
  have unchanged (same : f e = e) : w.modifyEntity t id f = w := by
    rw [modifyEntity_congr (g := fun e => e) fun a here => ?_, modifyEntity_id]
    obtain rfl := Option.some.inj (here.symm.trans found)
    exact same
  cases t with
  | object =>
    cases equal with
    | inl same => exact .inl (unchanged same)
    | inr zero =>
      obtain ⟨x, equal, same⟩ := zero
      refine .inr ⟨id, e, x, found, equal, modifyEntity_congr fun a here => ?_⟩
      obtain rfl := Option.some.inj (here.symm.trans found)
      exact same
  | room | door | npc | player | game => exact .inl (unchanged equal)

theorem told_modifyEntity {e : t.Entity} {p : Property t.Entity} (found : w.entity? t id = some e)
    (listed : Property.find? t.table property = some p) (differs : (p.get e).same (p.get (p.set v e)) = false) :
    w.Told (w.modifyEntity t id (p.set v))
      ⟨t, (w.modifyEntity t id (p.set v)).canonicalId t id, p.name, p.get e, p.get (p.set v e)⟩ := by
  have mem := (Property.find?_eq_some listed).1
  have keeps := EntityType.key_set mem v
  have spelled := sameEntity_canonicalId (w.modifyEntity t id (p.set v)) t id
  have name := EntityType.find?_name listed
  constructor
  case before =>
    refine getProperty?_of_found ?_ name
    rw [entity?_congr spelled, found]
  case after =>
    refine getProperty?_of_found ?_ name
    rw [entity?_modifyEntity keeps spelled, found, Option.map_some]
  case differs => exact differs
  case others =>
    intro t' id' property' unnamed
    by_cases here : t' = t ∧ t.sameEntity id' id = true
    · obtain ⟨rfl, same⟩ := here
      have first : w.entity? t' id' = some e := by rw [entity?_congr same, found]
      have later : (w.modifyEntity t' id (p.set v)).entity? t' id' = some (p.set v e) := by
        rw [entity?_modifyEntity keeps same, found, Option.map_some]
      cases read : Property.find? t'.table property' with
      | none => exact .inl (by rw [getProperty?_eq, getProperty?_eq, first, later, read]; rfl)
      | some q =>
        have sameId := sameEntity_join same spelled
        obtain ⟨listed', named⟩ := Property.find?_eq_some read
        have other : q.name ≠ p.name := fun same => unnamed ⟨rfl, sameId, same ▸ named⟩
        rw [getProperty?_of_found first read, getProperty?_of_found later read]
        cases t'.independent p mem q listed' other with
        | inl apart => exact .inl (congrArg some (apart v e))
        | inr lowers =>
          obtain ⟨max, health, lowers⟩ := lowers
          obtain ⟨h, m, old, greatest, new⟩ := lowers v e
          exact .inr ⟨max, ⟨rfl, sameId, health ▸ named⟩, h, m, congrArg some old, greatest, congrArg some new⟩
    · refine .inl ?_
      rw [getProperty?_eq, getProperty?_eq, entity?_modifyEntity_other keeps here]

/-- A write tells what it changes, and that is what it was to write; but it does not tell of the health that a greatest
health lowers. -/
theorem writes_told (w : World) (t : EntityType) (id property : String) (v : Value) :
    match w.writeProperty t id property v with
    | (w', .unmatched) => w' = w
    | (w', .unchanged) => w.Equal w' ∨
        Text.sameName "MaxHealth" (Text.trim property) = true ∧ w' = w.modifyEntity t id t.lowered
    | (w', .changed c) => c.Names t id property ∧ w.Told w' c := by
  obtain ⟨outcome, -⟩ | ⟨e, p, found, listed, ⟨outcome, same⟩ | ⟨outcome, differs⟩⟩ :=
    w.writeProperty_cases t id property v
  · rw [outcome]
  · rw [outcome]
    obtain ⟨mem, named⟩ := Property.find?_eq_some listed
    cases EntityType.set_same mem same with
    | inl equal => exact .inl (equal_modifyEntity found equal)
    | inr lowered =>
      refine .inr ⟨lowered.1 ▸ named, modifyEntity_congr fun a here => ?_⟩
      obtain rfl := Option.some.inj (here.symm.trans found)
      exact lowered.2
  · rw [outcome]
    have spelled := sameEntity_canonicalId (w.modifyEntity t id (p.set v)) t id
    have names := (Property.find?_eq_some listed).2
    exact ⟨⟨rfl, sameEntity_join (sameEntity_refl t id) spelled, names⟩, told_modifyEntity found listed differs⟩

/-- A guard who is well, and one who has more health than he may have. -/
def garrison : World where
  npcs := [{ id := "guard", health := 8, maxHealth := 10 }, { id := "captain", health := 50, maxHealth := 10 }]

/-- The health of the guard is lowered by a change that names another property, and the health of the captain by a write
that reports no change. -/
theorem health_lowered_untold :
    (∃ w' c, garrison.writeProperty .npc "guard" "MaxHealth" (.int 5) = (w', .changed c) ∧
      ¬ c.Names .npc "guard" "Health" ∧ garrison.getProperty? .npc "guard" "Health" = some (.int 8) ∧
      w'.getProperty? .npc "guard" "Health" = some (.int 5)) ∧
    ∃ w', garrison.writeProperty .npc "captain" "MaxHealth" (.int 10) = (w', .unchanged) ∧
      garrison.getProperty? .npc "captain" "Health" = some (.int 50) ∧
      w'.getProperty? .npc "captain" "Health" = some (.int 10) := by
  have changed : (garrison.writeProperty .npc "guard" "MaxHealth" (.int 5)).2 =
      .changed ⟨.npc, "guard", "MaxHealth", .int 10, .int 5⟩ := by decide +kernel
  have unchanged : (garrison.writeProperty .npc "captain" "MaxHealth" (.int 10)).2 = .unchanged := by decide +kernel
  refine ⟨⟨_, _, Prod.ext rfl changed, fun named => ?_, by decide +kernel, by decide +kernel⟩,
    _, Prod.ext rfl unchanged, by decide +kernel, by decide +kernel⟩
  exact absurd named.property (by decide +kernel)

end World

end StoryGraph
