import StoryGraph.Proofs.Engine.Deeds
import StoryGraph.Proofs.World.Range

/-!
What the engine reckons. In worlds whose numbers are in their ranges no sum or difference comes out on the other
side of the 64 bits: it is the exact one, or the end of the range where the exact one lies beyond. Main statement:
this is so in every deed of every host, and the numbers stay in their ranges throughout.
-/

namespace StoryGraph

open Whole (nearest)

/-- The numbers that an action of this type leaves in the world, if it reckons: what comes of the numbers before it
as integers, moved into the 64 bits where it can lie beyond. -/
def ActionType.Reckons (c : Call) (w : World) : ActionType → Prop
  | damageNpc => ∀ a n, c.amount "Amount" = some a → (c.arg "NpcId").bind c.world.npc? = some n →
      (w.npc? n.id).map (fun e => e.health.toInt) = some (max (n.health.toInt - max a.toInt 0) 0)
  | healNpc => ∀ a n, c.amount "Amount" = some a → (c.arg "NpcId").bind c.world.npc? = some n →
      n.isCorpse = false → (w.npc? n.id).map (fun e => e.health.toInt) =
        some (min (n.health.toInt + max a.toInt 0) n.maxHealth.toInt)
  | damagePlayer => ∀ a, c.amount "Amount" = some a →
      w.player.health.toInt = max (c.world.player.health.toInt - max a.toInt 0) 0
  | healPlayer => ∀ a, c.amount "Amount" = some a → w.player.health.toInt =
      min (c.world.player.health.toInt + max a.toInt 0) c.world.player.maxHealth.toInt
  | addGold => ∀ a, c.amount "Amount" = some a →
      w.player.gold.toInt = max (nearest (c.world.player.gold.toInt + a.toInt)) 0
  | removeGold => ∀ a, c.amount "Amount" = some a → a.toInt ≤ c.world.player.gold.toInt →
      w.player.gold.toInt = c.world.player.gold.toInt - max a.toInt 0
  | addExperience => ∀ a, c.amount "Amount" = some a →
      w.player.experience.toInt = max (nearest (c.world.player.experience.toInt + a.toInt)) 0
  | advanceQuest => ∀ id q, c.arg "QuestId" = some id → c.world.quest? id = some q → q.state = .active →
      (w.quest? id).map (fun e => e.stage.toInt) = some (nearest (q.stage.toInt + 1))
  | incrementVariable => ∀ name a b, c.arg "Name" = some name →
      (c.world.variableValue? name).getD (.int 0) = .int a →
      (Bag.find? c.node.properties "Amount").getD (.int 1) = .int b →
      ∃ sum, w = c.world.setVariable name (.int sum) ∧ sum.toInt = nearest (a.toInt + b.toInt)
  | advanceTime => ∀ a, c.amount "Hours" = some a →
      w.game.hour.toInt = (c.world.game.hour.toInt + a.toInt) % 24
  | addScore => ∀ a, c.amount "Amount" = some a →
      w.game.score.toInt = nearest (c.world.game.score.toInt + a.toInt)
  | _ => True

/-- The numbers that a source gives, if it reckons. An inventory of any machine is shorter than the bound. -/
def SourceType.Reckons (c : Call) : SourceType → Prop
  | inventoryCount => c.world.player.inventory.length ≤ Int64.maxValue.toInt → ∃ count,
      Source.value .inventoryCount c = .ok (.int count) ∧ count.toInt = c.world.player.inventory.length
  | randomNumber =>
    let a := Bag.getInt c.node.properties "Min" 0
    let b := Bag.getInt c.node.properties "Max" 100
    ∃ i, Source.value .randomNumber c = .ok (.int i) ∧ min a b ≤ i ∧ i ≤ max a b
  | _ => True

namespace World

/-- The numbers of the world after the end of a turn. -/
structure TurnReckons (w : World) : Prop where
  turn : w.tick.game.turn.toInt = nearest (w.game.turn.toInt + 1)
  modifiers : w.tick.modifiers.map (fun m => (m.id, m.remainingTurns.toInt)) =
    (w.modifiers.map fun m => (m.id, m.remainingTurns.toInt - 1)).filter fun m => decide (0 < m.2)
  round : w.tick.combat.map (fun k => (k.npcId, k.round.toInt)) =
    w.combat.map fun k => (k.npcId, nearest (k.round.toInt + 1))

/-- The numbers that a deed reckons are those of integers. -/
structure Deed.Reckons (d : Deed) : Prop where
  action : ∀ t c, d = .ran (.action t) c → t.Reckons c d.after
  source : ∀ t c, d = .ran (.source t) c → t.Reckons c
  turn : ∀ w, d = .turned w → w.TurnReckons
  hour : ∀ id property v, d.writes? = some (.game, id, property, v) →
    Text.sameName "Hour" (Text.trim property) = true → d.after.game.hour.toInt = v.toInt.toInt % 24

end World

namespace Act

theorem npc?_withoutCombat (w : World) (npcId id : String) : (withoutCombat w npcId).npc? id = w.npc? id := by
  rw [withoutCombat]
  split <;> rfl

theorem reckons_of (t : ActionType) {c : Call} (h : c.world.InRange) : t.Reckons c (of t c).world := by
  have player : c.world.player.InRange := h .player
  cases t with
  | damageNpc =>
    intro a n amount named
    have here := npc?_of_named named
    have health : (lower n.health a).toInt = _ := toInt_lower (h.npc? here).vital.low
    simp only [of, damageNpc, withAmount, amount, withNpc, named]
    split
    · rw [World.npc?_modifyNpc, here]
      exact congrArg some health
    · rw [npc?_withoutCombat, World.npc?_modifyNpc, here]
      exact congrArg some health
  | healNpc =>
    intro a n amount named living
    simp only [of, healNpc, withAmount, amount, withNpc, named, living, Bool.false_eq_true, if_false]
    rw [World.npc?_modifyNpc, npc?_of_named named]
    exact congrArg some (toInt_raise n.health a n.maxHealth)
  | damagePlayer =>
    intro a amount
    simp only [of, damagePlayer, withAmount, amount]
    exact toInt_lower player.vital.low
  | healPlayer =>
    intro a amount
    simp only [of, withAmount, amount]
    exact toInt_raise _ a _
  | addGold | addExperience =>
    intro a amount
    simp [of, withAmount, amount, Act.player]
  | removeGold =>
    intro a amount enough
    have enough : ¬ c.world.player.gold < a := by
      rw [Int64.lt_iff_toInt_lt]
      exact Int.not_lt.2 enough
    simp only [of, removeGold, withAmount, amount, if_neg enough]
    exact toInt_spend player.gold enough
  | advanceQuest =>
    intro id q named found active
    have after := find?_modifyFirst (p := fun e : Quest => Text.sameName e.id id)
      (f := fun e => if e.state == .active then { e with stage := Whole.plus e.stage 1 } else e)
      (fun e => by split <;> rfl) c.world.quests
    simp only [World.quest?] at found
    simp only [of, advanceQuest, withArg, named, World.quest?, after, found, Option.map_some, active, beq_self_eq_true,
      if_true, Whole.toInt_plus, Int64.toInt_one]
  | incrementVariable =>
    intro name a b named current step
    simp only [of, incrementVariable, withArg, named, current, step]
    exact ⟨_, rfl, Whole.toInt_plus a b⟩
  | advanceTime =>
    intro a amount
    obtain ⟨sum, added⟩ := Whole.exists_add_hours c.world.game.hour a
    have exact := Whole.toInt_of_add added
    rw [Whole.toInt_hourOf, Whole.toInt_hourOf] at exact
    simp only [of, advanceTime, withAmount, amount, added, game, Whole.toInt_hourOf, exact]
    omega
  | addScore =>
    intro a amount
    simp [of, withAmount, amount, Act.game]
  | _ => trivial

end Act

theorem Source.reckons_value (t : SourceType) (c : Call) : t.Reckons c := by
  cases t with
  | inventoryCount =>
    intro short
    rw [Int64.toInt_maxValue] at short
    exact ⟨_, rfl, Int64.toInt_ofNat_of_lt (by omega)⟩
  | randomNumber => exact exists_randomNumber c
  | _ => trivial

namespace World

variable {w : World}

theorem InRange.turnReckons (h : w.InRange) : w.TurnReckons where
  turn := by simp [World.tick]
  modifiers := by
    have exact : ∀ m ∈ w.modifiers, (Whole.minus m.remainingTurns 1).toInt = m.remainingTurns.toInt - 1 := by
      intro m mem
      have running : 1 ≤ m.remainingTurns.toInt := h .modifiers m mem
      have nonneg : (0 : Int64).toInt ≤ m.remainingTurns.toInt - 1 := by
        rw [Int64.toInt_zero]
        omega
      rw [Whole.toInt_minus, Int64.toInt_one, Whole.nearest_of_between nonneg (b := m.remainingTurns) (by omega)]
    have lasting : ∀ m ∈ w.modifiers, decide (0 < Whole.minus m.remainingTurns 1) =
        decide (0 < m.remainingTurns.toInt - 1) := by
      intro m mem
      rw [decide_eq_decide, Int64.lt_iff_toInt_lt, exact m mem, Int64.toInt_zero]
    simp only [World.tick, List.filter_map, List.map_map, Function.comp_def, List.filter_congr lasting]
    refine List.map_congr_left fun m mem => ?_
    rw [exact m (List.mem_filter.1 mem).1]
  round := by
    cases running : w.combat <;> simp [World.tick, running]

theorem Deed.reckons {d : Deed} (h : d.before.InRange) : d.Reckons where
  action t c ran := by
    subst ran
    exact Act.reckons_of t h
  source t c _ := Source.reckons_value t c
  turn w turned := by
    subst turned
    exact InRange.turnReckons h
  hour id property v writes named := by
    rw [after_of_writes? writes, world_writeProperty]
    rw [setProperty?_eq, Property.find?_of_sameName _ named]
    exact Whole.toInt_hourOf v.toInt

end World

namespace Surroundings

/-- Whatever a host has the engine do on a world whose numbers are in their ranges, they stay there, at the end and
in every deed on the way, and no sum or difference comes out on the other side of the 64 bits. -/
theorem served_world_inRange (s : Surroundings) (builtins : s.registry.IsBuiltin) (calls : List (Nat × Command))
    {r : Run} (start : r.world.InRange) :
    (s.serve calls r).2.world.InRange ∧
      ∀ d, s.Does calls r d → d.before.InRange ∧ d.after.InRange ∧ d.Reckons := by
  have invariant := World.invariant_inRange
  refine ⟨invariant.serve builtins calls start, fun d does => ?_⟩
  have before := invariant.before builtins does start
  exact ⟨before, invariant.after d before, World.Deed.reckons before⟩

theorem served_world_inRange_weakened :
    let s : Surroundings := { registry := .builtins, library := [], settings := {}, draws := .ofSeed 7 }
    let r : Run := { world := {} }
    let calls := [(0, Command.setProperty "Player" "" "MaxHealth" (.int 0)), (0, .advanceTurn)]
    let w := (s.serve calls r).2.world
    s.registry.IsBuiltin ∧ r.world.InRange ∧ w.player.health = 1 ∧ w.game.turn = 1 ∧ w.InRange ∧
      ∀ d, s.Does calls r d → d.before.InRange ∧ d.after.InRange ∧ d.Reckons := by
  intro s r calls w
  have start : r.world.InRange := by
    intro p
    cases p with
    | npcs | objects | modifiers => exact fun _ mem => absurd mem List.not_mem_nil
    | combat => exact fun _ none => nomatch none
    | player => exact ⟨⟨by decide, by decide, by decide⟩, by decide, by decide⟩
    | game => exact ⟨by decide, by decide⟩
    | rooms | doors | quests | flags | vars => trivial
  obtain ⟨ending, deeds⟩ := s.served_world_inRange Registry.isBuiltin_builtins calls start
  exact ⟨Registry.isBuiltin_builtins, start, by decide +kernel, by decide +kernel, ending, deeds⟩

end Surroundings

end StoryGraph
