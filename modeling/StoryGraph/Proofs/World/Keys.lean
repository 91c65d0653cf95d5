import Mathlib.Data.List.Nodup
import StoryGraph.Proofs.Engine.Deeds
import StoryGraph.Proofs.Handler.Footprint
import StoryGraph.Proofs.NodeType.Tags
import StoryGraph.Proofs.Property.Writing
import StoryGraph.Proofs.World.Places

/-!
The names under which a world keeps things: flags, variables, quests, modifiers and what the player carries. The
sets and lists that hold them tell names apart by case. Main statement: names that are distinct without regard to
case stay so, whatever is done to the world.
-/

namespace StoryGraph

/-! Distinct names. -/

namespace Text

variable {names names' : List String} {k : String}

theorem Distinct.sublist (h : Distinct names) (part : names'.Sublist names) : Distinct names' :=
  (part.map fold).nodup h

theorem distinct_iff (nodup : names.Nodup) :
    Distinct names ↔ ∀ a ∈ names, ∀ b ∈ names, sameName a b = true → a = b := by
  simp only [Distinct, List.nodup_map_iff_inj_on nodup, sameName_iff]

/-- A name comes to others where it, or none like it, is among them. -/
theorem Distinct.insert (h : Distinct names) (nodup : names.Nodup) (nodup' : names'.Nodup)
    (mem : ∀ a, a ∈ names' ↔ a = k ∨ a ∈ names) (alone : ∀ a ∈ names, sameName a k = true → a = k) :
    Distinct names' := by
  rw [distinct_iff nodup] at h
  rw [distinct_iff nodup']
  intro a ha b hb same
  rcases (mem a).1 ha with rfl | ha <;> rcases (mem b).1 hb with rfl | hb
  · rfl
  · rw [sameName_comm] at same
    exact (alone b hb same).symm
  · exact alone a ha same
  · exact h a ha b hb same

theorem Distinct.concat (h : Distinct names) (fresh : names.any (fun a => sameName a k) = false) :
    Distinct (names ++ [k]) := by
  have unlike : ∀ a ∈ names, fold a ≠ fold k := by
    intro a mem same
    exact absurd (sameName_iff.2 same) (List.any_eq_false.1 fresh a mem)
  simp only [Distinct, List.map_append, List.map_cons, List.map_nil]
  refine List.nodup_append.2 ⟨h, List.nodup_singleton _, ?_⟩
  intro x hx y hy
  obtain ⟨a, mem, rfl⟩ := List.mem_map.1 hx
  rw [List.mem_singleton.1 hy]
  exact unlike a mem

end Text

/-! Sets and maps of names. -/

theorem NameSet.nodup_names (s : NameSet) : s.names.Nodup :=
  s.ascending.imp fun {a b} (less : a < b) (same : a = b) => String.lt_irrefl b (same ▸ less)

namespace NameMap

variable {β : Type}

def keys (m : NameMap β) : List String := m.entries.map Prod.fst

theorem nodup_keys (m : NameMap β) : m.keys.Nodup :=
  List.pairwise_map.2 (m.ascending.imp fun {a b} (less : a.1 < b.1) (same : a.1 = b.1) =>
    String.lt_irrefl b.1 (same ▸ less))

theorem mem_keys_insert {m : NameMap β} {k : String} {v : β} {a : String} :
    a ∈ (m.insert k v).keys ↔ a = k ∨ a ∈ m.keys := by
  obtain ⟨entries, ascending⟩ := m
  simp only [keys, insert]
  clear ascending
  induction entries with
  | nil => simp [putEntry]
  | cons e rest ih =>
    obtain ⟨b, x⟩ := e
    simp only [putEntry]
    split
    · simp
    · split
      case isTrue same => simp [same]
      case isFalse => simp only [List.map_cons, List.mem_cons, ih, or_left_comm]

theorem isSome_get? {m : NameMap β} {a : String} : (m.get? a).isSome ↔ a ∈ m.keys := by
  simp [get?, keys]

end NameMap

namespace World

variable {w w' : World}

/-- Among names that are distinct without regard to case, the first spelling in use is the only one. -/
theorem eq_variableKey (distinct : Text.Distinct w.vars.keys) {name a : String} (mem : a ∈ w.vars.keys)
    (same : Text.sameName a (w.variableKey name) = true) : a = w.variableKey name := by
  rw [variableKey] at same ⊢
  cases found : w.vars.entries.find? fun e => Text.sameName e.1 name with
  | some e =>
    rw [found] at same
    have used : e.1 ∈ w.vars.keys := List.mem_map_of_mem (List.mem_of_find?_eq_some found)
    exact (Text.distinct_iff w.vars.nodup_keys).1 distinct a mem e.1 used same
  | none =>
    rw [found] at same
    obtain ⟨e, used, rfl⟩ := List.mem_map.1 mem
    exact absurd same (List.find?_eq_none.1 found e used)

/-- Whatever the world keeps by name, it keeps under distinct names. -/
structure Keyed (w : World) : Prop where
  flags : Text.Distinct w.flags.names
  vars : Text.Distinct w.vars.keys
  quests : Text.Distinct (w.quests.map Quest.id)
  modifiers : Text.Distinct (w.modifiers.map Modifier.id)
  inventory : Text.Distinct w.player.inventory

/-- Where things are kept by name. -/
def Part.named : List Part := [.flags, .vars, .quests, .modifiers, .player]

namespace Keyed

theorem of_changesOnly {parts : List Part} (h : w.Keyed) (change : ChangesOnly parts w w')
    (others : ∀ p ∈ Part.named, p ∉ parts) : w'.Keyed := by
  have flags : w'.flags = w.flags := change .flags (others _ (by decide))
  have vars : w'.vars = w.vars := change .vars (others _ (by decide))
  have quests : w'.quests = w.quests := change .quests (others _ (by decide))
  have modifiers : w'.modifiers = w.modifiers := change .modifiers (others _ (by decide))
  have player : w'.player = w.player := change .player (others _ (by decide))
  constructor
  · rw [flags]
    exact h.flags
  · rw [vars]
    exact h.vars
  · rw [quests]
    exact h.quests
  · rw [modifiers]
    exact h.modifiers
  · rw [player]
    exact h.inventory

theorem withPlayer (h : w.Keyed) {p : Player} (inventory : Text.Distinct p.inventory) :
    ({ w with player := p } : World).Keyed :=
  { h with inventory }

theorem setFlag (h : w.Keyed) (flag : String) : (w.setFlag flag).Keyed := by
  rw [World.setFlag]
  split
  case isTrue => exact h
  case isFalse unset =>
    have inserted : Text.Distinct (w.flags.insert flag).names := by
      refine h.flags.insert w.flags.nodup_names (NameSet.nodup_names _) (fun a => NameSet.mem_putName) ?_
      intro a mem same
      exact absurd (List.any_eq_true.2 ⟨a, mem, same⟩) unset
    exact { h with flags := inserted }

theorem clearFlag (h : w.Keyed) (flag : String) : (w.clearFlag flag).Keyed :=
  { h with flags := h.flags.sublist List.filter_sublist }

theorem setVariable (h : w.Keyed) (name : String) (v : Value) : (w.setVariable name v).Keyed := by
  have inserted : Text.Distinct (w.vars.insert (w.variableKey name) v).keys :=
    h.vars.insert w.vars.nodup_keys (NameMap.nodup_keys _) (fun _ => NameMap.mem_keys_insert)
      fun _ mem same => eq_variableKey h.vars mem same
  exact { h with vars := inserted }

theorem withQuest (h : w.Keyed) (id : String) : (w.withQuest id).Keyed := by
  rw [World.withQuest]
  split
  case isTrue => exact h
  case isFalse none =>
    have fresh : (w.quests.map Quest.id).any (fun a => Text.sameName a id) = false := by
      rw [List.any_map]
      exact Bool.eq_false_iff.2 none
    have added : Text.Distinct ((w.quests ++ [({ id, name := id } : Quest)]).map Quest.id) := by
      rw [List.map_append]
      exact h.quests.concat fresh
    exact { h with quests := added }

theorem modifyQuests (h : w.Keyed) (p : Quest → Bool) {f : Quest → Quest} (keeps : ∀ q, (f q).id = q.id) :
    ({ w with quests := modifyFirst p f w.quests } : World).Keyed := by
  have same : (modifyFirst p f w.quests).map Quest.id = w.quests.map Quest.id := map_modifyFirst p f Quest.id keeps _
  exact { h with quests := same ▸ h.quests }

theorem modifyQuest (h : w.Keyed) (id : String) {f : Quest → Quest} (keeps : ∀ q, (f q).id = q.id) :
    (w.modifyQuest id f).Keyed :=
  (h.withQuest id).modifyQuests _ keeps

theorem addItem (h : w.Keyed) (id : String) : Text.Distinct (w.player.addItem id).inventory := by
  rw [Player.addItem]
  split
  case isTrue => exact h.inventory
  case isFalse lacking => exact h.inventory.concat (Bool.eq_false_iff.2 lacking)

theorem giveItem (h : w.Keyed) (id : String) : (w.giveItem id).Keyed :=
  { h with inventory := h.addItem (w.canonicalObjectId id) }

theorem removeItem (h : w.Keyed) (id : String) : Text.Distinct (w.player.removeItem id).inventory :=
  h.inventory.sublist List.filter_sublist

/-- A modifier takes the place of the one of its id, in its own spelling. -/
theorem replaceModifier (h : w.Keyed) {m : Modifier} {id : String} (named : m.id = id) :
    ({ w with modifiers := modifyFirst (fun e => Text.sameName e.id id) (fun _ => m) w.modifiers } : World).Keyed := by
  refine { h with modifiers := ?_ }
  rw [Text.Distinct, List.map_map, map_modifyFirst_found, ← List.map_map]
  · exact h.modifiers
  · intro e found
    exact (congrArg Text.fold named).trans (Text.sameName_iff.1 found).symm

theorem appendModifier (h : w.Keyed) {m : Modifier} {id : String} (named : m.id = id)
    (fresh : (w.modifier? id).isSome = false) : ({ w with modifiers := w.modifiers ++ [m] } : World).Keyed := by
  have unlike : (w.modifiers.map Modifier.id).any (fun a => Text.sameName a m.id) = false := by
    rw [List.any_map, named, ← fresh, modifier?, List.isSome_find?]
    rfl
  have added : Text.Distinct ((w.modifiers ++ [m]).map Modifier.id) := by
    rw [List.map_append]
    exact h.modifiers.concat unlike
  exact { h with modifiers := added }

theorem tick (h : w.Keyed) : w.tick.Keyed := by
  have left : (w.tick.modifiers.map Modifier.id).Sublist (w.modifiers.map Modifier.id) := by
    have aged : (w.modifiers.map fun m => { m with remainingTurns := Whole.minus m.remainingTurns 1 }).map Modifier.id =
        w.modifiers.map Modifier.id := by
      rw [List.map_map]
      rfl
    rw [← aged]
    exact List.filter_sublist.map Modifier.id
  exact { h with modifiers := h.modifiers.sublist left }

theorem setProperty? (h : w.Keyed) {t : EntityType} {id property : String} {v : Value}
    (written : w.setProperty? t id property v = some w') : w'.Keyed := by
  cases t with
  | player =>
    obtain ⟨_, p, -, found, rfl⟩ := World.exists_of_setProperty? written
    refine h.withPlayer ?_
    rw [Player.inventory_set (Property.find?_eq_some found).1]
    exact h.inventory
  | room | door | npc | object | game => exact h.of_changesOnly (changesOnly_setProperty? written) (by decide)

theorem writeProperty (h : w.Keyed) (t : EntityType) (id property : String) (v : Value) :
    (w.writeProperty t id property v).1.Keyed :=
  writeProperty_induction h fun _ => h.setProperty?

end Keyed

end World

/-! Handlers. -/

namespace Act

theorem activate_id (q : Quest) : (activate q).id = q.id := by
  rw [activate]
  split <;> rfl

/-- The action leaves names distinct. -/
def Keyed (a : Act) : Prop := a.world.Keyed

theorem keyed_of (t : ActionType) {c : Call} (h : c.world.Keyed) : (of t c).Keyed := by
  have idle : (idle c).Keyed := h
  cases t with
  | setFlag => exact withArg_induction idle fun flag => h.setFlag flag
  | clearFlag => exact withArg_induction idle fun flag => h.clearFlag flag
  | setVariable => exact withArg_induction idle fun name => h.setVariable name _
  | incrementVariable => exact withArg_induction idle fun name => h.setVariable name _
  | startQuest => exact withArg_induction idle fun id => h.modifyQuest id activate_id
  | advanceQuest =>
    refine withArg_induction idle fun id => ?_
    refine h.modifyQuests (fun q => Text.sameName q.id id)
      (f := fun q => if q.state == .active then { q with stage := Whole.plus q.stage 1 } else q) fun q => ?_
    split <;> rfl
  | setQuestStage =>
    exact withArg_induction idle fun id => withAmount_induction idle fun stage =>
      h.modifyQuest id fun q => activate_id { q with stage }
  | completeQuest | failQuest => exact withArg_induction idle fun id => h.modifyQuest id fun _ => rfl
  | addModifier =>
    refine withArg_induction idle fun id => withArg_induction idle fun stat => ?_
    split
    case isTrue => exact h.replaceModifier rfl
    case isFalse fresh => exact h.appendModifier rfl (Bool.eq_false_iff.2 fresh)
  | removeModifier =>
    exact withArg_induction idle fun id => { h with modifiers := h.modifiers.sublist (List.filter_sublist.map Modifier.id) }
  | giveItem => exact withObject_induction idle fun o => h.giveItem o.id
  | removeItem => exact withArg_induction idle fun id => h.withPlayer (h.removeItem id)
  | consumeItem =>
    simp only [of, consumeItem]
    split
    · split
      · exact h.withPlayer (h.removeItem _)
      · exact idle
    · exact idle
  | moveObject =>
    exact withObject_induction idle fun o => withRoom_induction idle fun r => { h with inventory := h.removeItem o.id }
  | teleportPlayer => exact withRoom_induction idle fun r => { h with inventory := h.inventory }
  | damagePlayer | healPlayer | addGold | addExperience =>
    exact withAmount_induction idle fun a => h.withPlayer h.inventory
  | removeGold =>
    refine withAmount_induction idle fun a => ?_
    split
    · exact idle
    · exact h.withPlayer h.inventory
  | setProperty => exact setProperty_induction h h.writeProperty
  | _ => exact h.of_changesOnly (changesOnly_of _ c) (by decide)

end Act

theorem World.invariant_keyed : Invariant Keyed where
  act t _ := Act.keyed_of t
  dialogue t c h := h.of_changesOnly (Dialogue.changesOnly_act t c) (by cases t <;> decide)
  write _ t id property v h := h.writeProperty t id property v
  tick _ h := h.tick

/-- Gives haste anew, under another spelling. -/
def Node.hasten : Node where
  id := "hasten"
  typeTag := "Action_AddModifier"
  properties := .ofList [("ModifierId", .string "Haste"), ("Stat", .string "speed")]

namespace Surroundings

/-- Where flags, variables, quests, modifiers and what the player carries have names that are distinct without regard
to case, they have such names after whatever a host has the engine do, and at each deed on the way. -/
theorem served_keys_distinct (s : Surroundings) (builtins : s.registry.IsBuiltin) (calls : List (Nat × Command))
    {r : Run} (start : r.world.Keyed) :
    (s.serve calls r).2.world.Keyed ∧ ∀ d, s.Does calls r d → d.before.Keyed ∧ d.after.Keyed := by
  have kept := World.invariant_keyed
  refine ⟨kept.serve builtins calls start, fun d does => ?_⟩
  have before := kept.before builtins does start
  exact ⟨before, kept.after d before⟩

/-- The modifier is replaced, and its name is spelled anew. -/
theorem served_keys_distinct_haste :
    let s : Surroundings := { registry := .builtins, library := [], settings := {}, draws := .ofSeed 7 }
    let r : Run :=
      { world :=
          { modifiers := [{ id := "HASTE", remainingTurns := 2 }, { id := "slow", remainingTurns := 1 }],
            flags := .ofList ["Met"], vars := .ofList [("Mood", .int 1)], quests := [{ id := "hunt" }],
            player := { inventory := ["lamp"] } } }
    let w := (s.serve [(0, .executeNode .hasten)] r).2.world
    s.registry.IsBuiltin ∧ r.world.Keyed ∧ w.Keyed ∧ w.modifiers.map Modifier.id = ["Haste", "slow"] := by
  intro s r w
  have kind : Node.hasten.kind? = some (.action .addModifier) := by
    rw [Node.kind?, NodeType.ofTag?_eq]
    decide +kernel
  have after := world_serve_action (s := s) rfl (by decide) kind (w := r.world) rfl
  have start : r.world.Keyed :=
    ⟨by decide +kernel, by decide +kernel, by decide +kernel, by decide +kernel, by decide +kernel⟩
  have kept := (s.served_keys_distinct Registry.isBuiltin_builtins [(0, .executeNode .hasten)] start).1
  refine ⟨Registry.isBuiltin_builtins, start, kept, ?_⟩
  rw [show w = _ from after]
  decide +kernel

end Surroundings

end StoryGraph
