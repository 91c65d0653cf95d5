import StoryGraph.Proofs.Engine.Invariant
import StoryGraph.Proofs.Handler.Amounts
import StoryGraph.Proofs.Handler.Footprint
import StoryGraph.Proofs.Property.Writing

/-!
The ranges of the numbers in a world. Main statement: whatever the built-in handlers and the host do, health
stays between zero and the greatest health, which stays positive; gold, experience, the values of objects and
the turn do not get negative; the hour is one of a day; and modifiers and combats that are over are gone.
-/

namespace StoryGraph

/-- Health from zero to the greatest health, which is at least one. -/
structure Vital (health greatest : Int64) : Prop where
  positive : 1 ≤ greatest.toInt
  low : 0 ≤ health.toInt
  high : health.toInt ≤ greatest.toInt

namespace Vital

variable {health greatest : Int64}

theorem lower (h : Vital health greatest) (amount : Int64) : Vital (Act.lower health amount) greatest := by
  obtain ⟨positive, low, high⟩ := h
  have exact : (Act.lower health amount).toInt = _ := Act.toInt_lower low
  exact ⟨positive, by omega, by omega⟩

theorem raise (h : Vital health greatest) (amount : Int64) : Vital (Act.raise health amount greatest) greatest := by
  obtain ⟨positive, low, high⟩ := h
  have exact := Act.toInt_raise health amount greatest
  exact ⟨positive, by omega, by omega⟩

theorem zero (h : Vital health greatest) : Vital 0 greatest :=
  ⟨h.positive, Int.le_refl 0, Int.le_trans h.low h.high⟩

theorem clampTo (h : Vital health greatest) (a : Int64) (order : 0 ≤ max greatest 0) :
    Vital (Whole.clampTo 0 (max greatest 0) a order) greatest := by
  obtain ⟨positive, -, -⟩ := h
  have exact := Whole.toInt_clampTo 0 (max greatest 0) a order
  simp only [Int64.toInt_zero, Whole.toInt_max] at exact
  exact ⟨positive, by omega, by omega⟩

/-- Where the greatest health is lowered, health is lowered with it. -/
theorem withGreatest (h : Vital health greatest) (a : Int64) : Vital (min health (max a 1)) (max a 1) := by
  obtain ⟨-, low, -⟩ := h
  have top : (max a 1).toInt = max a.toInt 1 := by simp
  have exact : (min health (max a 1)).toInt = min health.toInt (max a.toInt 1) := by simp
  exact ⟨by omega, by omega, by omega⟩

end Vital

structure Npc.InRange (n : Npc) : Prop where
  vital : Vital n.health n.maxHealth
  gold : 0 ≤ n.gold.toInt

structure Player.InRange (p : Player) : Prop where
  vital : Vital p.health p.maxHealth
  gold : 0 ≤ p.gold.toInt
  experience : 0 ≤ p.experience.toInt

theorem Player.InRange.addItem {p : Player} (h : p.InRange) (id : String) : (p.addItem id).InRange := by
  rw [Player.addItem]
  split
  · exact h
  · exact ⟨h.vital, h.gold, h.experience⟩

structure GameState.InRange (g : GameState) : Prop where
  turn : 0 ≤ g.turn.toInt
  hour : 0 ≤ g.hour.toInt ∧ g.hour.toInt < 24

namespace World

/-- The numbers in a part of the world are in their ranges. -/
def Part.InRange (w : World) : Part → Prop
  | npcs => ∀ n ∈ w.npcs, n.InRange
  | objects => ∀ o ∈ w.objects, 0 ≤ o.value.toInt
  | player => w.player.InRange
  | modifiers => ∀ m ∈ w.modifiers, 1 ≤ m.remainingTurns.toInt
  | combat => ∀ k, w.combat = some k → 1 ≤ k.round.toInt
  | game => w.game.InRange
  | rooms | doors | quests | flags | vars => True

/-- All numbers that have a range are in it. -/
def InRange (w : World) : Prop := ∀ p : Part, p.InRange w

/-- Whether there are numbers with a range in this part. -/
def Part.isRanged : Part → Bool
  | npcs | objects | player | modifiers | combat | game => true
  | rooms | doors | quests | flags | vars => false

theorem Part.inRange_of_not_isRanged {p : Part} (h : p.isRanged = false) (w : World) : p.InRange w := by
  cases p with
  | rooms | doors | quests | flags | vars => trivial
  | npcs | objects | player | modifiers | combat | game => cases h

variable {w w' : World}

theorem Part.Same.inRange {p : Part} (same : p.Same w w') (h : p.InRange w) : p.InRange w' := by
  cases p with
  | rooms | doors | quests | flags | vars => trivial
  | npcs | objects | player | modifiers | combat | game =>
    simp only [Part.Same] at same
    simp only [Part.InRange, same]
    exact h

namespace InRange

theorem of_changesOnly {parts : List Part} (h : w.InRange) (change : ChangesOnly parts w w')
    (parts_inRange : ∀ p ∈ parts, p.InRange w') : w'.InRange := by
  intro p
  by_cases changed : p ∈ parts
  · exact parts_inRange p changed
  · exact (change p changed).inRange (h p)

theorem of_unranged {parts : List Part} (h : w.InRange) (change : ChangesOnly parts w w')
    (unranged : ∀ p ∈ parts, p.isRanged = false) : w'.InRange :=
  h.of_changesOnly change fun p mem => Part.inRange_of_not_isRanged (unranged p mem) w'

/-- For an update of one field the equation holds by computation. -/
theorem of_put (h : w.InRange) (p : Part) (made : putAll [p] w w' = w') (inRange : p.InRange w') : w'.InRange :=
  h.of_changesOnly (.of_putAll made) (List.forall_mem_singleton.2 inRange)

theorem npc? (h : w.InRange) {id : String} {n : Npc} (found : w.npc? id = some n) : n.InRange :=
  h .npcs n (List.mem_of_find?_eq_some found)

theorem modifyNpc (h : w.InRange) {id : String} {f : Npc → Npc} (keeps : ∀ n, w.npc? id = some n → (f n).InRange) :
    (w.modifyNpc id f).InRange := by
  refine h.of_put .npcs rfl fun n mem => ?_
  cases mem_modifyFirst mem with
  | inl mem => exact h .npcs n mem
  | inr changed =>
    obtain ⟨n, found, rfl⟩ := changed
    exact keeps n found

theorem modifyObject (h : w.InRange) (id : String) {f : GameObject → GameObject}
    (keeps : ∀ o : GameObject, 0 ≤ o.value.toInt → 0 ≤ (f o).value.toInt) : (w.modifyObject id f).InRange := by
  refine h.of_put .objects rfl fun o mem => ?_
  cases mem_modifyFirst mem with
  | inl mem => exact h .objects o mem
  | inr changed =>
    obtain ⟨o, found, rfl⟩ := changed
    exact keeps o (h .objects o (List.mem_of_find?_eq_some found))

theorem withPlayer (h : w.InRange) {p : Player} (inRange : p.InRange) : ({ w with player := p } : World).InRange :=
  h.of_put .player rfl inRange

theorem withGame (h : w.InRange) {g : GameState} (inRange : g.InRange) : ({ w with game := g } : World).InRange :=
  h.of_put .game rfl inRange

theorem withModifiers (h : w.InRange) {l : List Modifier} (inRange : ∀ m ∈ l, 1 ≤ m.remainingTurns.toInt) :
    ({ w with modifiers := l } : World).InRange :=
  h.of_put .modifiers rfl inRange

theorem withCombat (h : w.InRange) {k : Option Combat} (inRange : ∀ c, k = some c → 1 ≤ c.round.toInt) :
    ({ w with combat := k } : World).InRange :=
  h.of_put .combat rfl inRange

end InRange

end World

/-! Written properties. -/

theorem Npc.inRange_set {p : Property Npc} (listed : p ∈ properties) (v : Value) {n : Npc} (h : n.InRange) :
    (p.set v n).InRange := by
  simp only [properties_eq, List.mem_cons, List.not_mem_nil, or_false] at listed
  obtain rfl | rfl | rfl | rfl | rfl | rfl | rfl | rfl | rfl | rfl := listed
  case inr.inr.inr.inl => exact ⟨h.vital.clampTo _ (Whole.le_max_right _ _), h.gold⟩
  case inr.inr.inr.inr.inl => exact ⟨h.vital.withGreatest _, h.gold⟩
  case inr.inr.inr.inr.inr.inr.inr.inr.inl => exact ⟨h.vital, Whole.toInt_max_zero _⟩
  all_goals exact ⟨h.vital, h.gold⟩

theorem GameObject.inRange_set {p : Property GameObject} (listed : p ∈ properties) (v : Value) {o : GameObject}
    (h : 0 ≤ o.value.toInt) : 0 ≤ (p.set v o).value.toInt := by
  simp only [properties_eq, List.mem_cons, List.not_mem_nil, or_false] at listed
  obtain rfl | rfl | rfl | rfl | rfl | rfl | rfl | rfl | rfl := listed
  case inr.inr.inr.inr.inr.inr.inr.inl => exact Whole.toInt_max_zero _
  all_goals exact h

theorem Player.inRange_set {p : Property Player} (listed : p ∈ properties) (v : Value) {e : Player}
    (h : e.InRange) : (p.set v e).InRange := by
  simp only [properties_eq, List.mem_cons, List.not_mem_nil, or_false] at listed
  obtain rfl | rfl | rfl | rfl | rfl | rfl := listed
  case inr.inl => exact ⟨h.vital.clampTo _ (Whole.le_max_right _ _), h.gold, h.experience⟩
  case inr.inr.inl => exact ⟨h.vital.withGreatest _, h.gold, h.experience⟩
  case inr.inr.inr.inl => exact ⟨h.vital, Whole.toInt_max_zero _, h.experience⟩
  case inr.inr.inr.inr.inl => exact ⟨h.vital, h.gold, Whole.toInt_max_zero _⟩
  all_goals exact ⟨h.vital, h.gold, h.experience⟩

theorem GameState.inRange_set {p : Property GameState} (listed : p ∈ properties) (v : Value) {g : GameState}
    (h : g.InRange) : (p.set v g).InRange := by
  simp only [properties_eq, List.mem_cons, List.not_mem_nil, or_false] at listed
  obtain rfl | rfl | rfl | rfl | rfl := listed
  case inl => exact ⟨Whole.toInt_max_zero _, h.hour⟩
  case inr.inl => exact ⟨h.turn, Whole.hourOf_bounds _⟩
  all_goals exact ⟨h.turn, h.hour⟩

namespace World

variable {w w' : World}

theorem InRange.setProperty? (h : w.InRange) {t : EntityType} {id property : String} {v : Value}
    (written : w.setProperty? t id property v = some w') : w'.InRange := by
  cases t with
  | room | door => exact h.of_unranged (changesOnly_setProperty? written) (by decide)
  | npc =>
    obtain ⟨_, p, -, found, rfl⟩ := exists_of_setProperty? written
    exact h.modifyNpc fun n here => Npc.inRange_set (List.mem_of_find?_eq_some found) v (h.npc? here)
  | object =>
    obtain ⟨_, p, -, found, rfl⟩ := exists_of_setProperty? written
    exact h.modifyObject id fun o => GameObject.inRange_set (List.mem_of_find?_eq_some found) v
  | player =>
    obtain ⟨_, p, -, found, rfl⟩ := exists_of_setProperty? written
    exact h.withPlayer (Player.inRange_set (List.mem_of_find?_eq_some found) v (h .player))
  | game =>
    obtain ⟨_, p, -, found, rfl⟩ := exists_of_setProperty? written
    exact h.withGame (GameState.inRange_set (List.mem_of_find?_eq_some found) v (h .game))

theorem InRange.writeProperty (h : w.InRange) (t : EntityType) (id property : String) (v : Value) :
    (w.writeProperty t id property v).1.InRange :=
  writeProperty_induction h fun _ => h.setProperty?

theorem InRange.tick (h : w.InRange) : w.tick.InRange := by
  have modifiers : Part.modifiers.InRange w.tick := by
    intro m mem
    have left : 0 < m.remainingTurns := by simpa using (List.mem_filter.1 mem).2
    have left : 0 < m.remainingTurns.toInt := Int64.lt_iff_toInt_lt.1 left
    exact left
  have combat : Part.combat.InRange w.tick := by
    intro k running
    obtain ⟨k, before, rfl⟩ := Option.map_eq_some_iff.1 running
    have round : 1 ≤ k.round.toInt := h .combat k before
    rw [Whole.toInt_plus]
    exact Whole.le_nearest (a := 1) (Int.le_trans round (Int.le_add_of_nonneg_right (by decide)))
  have game : Part.game.InRange w.tick := by
    have turn : 0 ≤ w.game.turn.toInt := (h .game).turn
    refine ⟨?_, (h .game).hour⟩
    simp only [World.tick, Whole.toInt_plus]
    exact Whole.le_nearest (a := 0) (Int.add_nonneg turn (by decide))
  refine h.of_changesOnly w.changesOnly_tick fun p mem => ?_
  simp only [List.mem_cons, List.not_mem_nil, or_false] at mem
  obtain rfl | rfl | rfl := mem
  · exact modifiers
  · exact combat
  · exact game

theorem InRange.withoutCombat (h : w.InRange) (id : String) : (Act.withoutCombat w id).InRange := by
  rw [Act.withoutCombat]
  split
  · refine h.withCombat fun _ none => ?_
    cases none
  · exact h

end World

/-! Handlers. -/

namespace Act

def InRange (a : Act) : Prop := a.world.InRange

theorem inRange_of (t : ActionType) {c : Call} (h : c.world.InRange) : (of t c).InRange := by
  have idle : (idle c).InRange := h
  have player : c.world.player.InRange := h .player
  have game : c.world.game.InRange := h .game
  cases t with
  | teleportPlayer =>
    refine withRoom_induction idle fun r => ?_
    have visited : (c.world.modifyRoom r.id fun e => { e with isVisited := true }).InRange :=
      h.of_put .rooms rfl trivial
    exact visited.withPlayer ⟨player.vital, player.gold, player.experience⟩
  | startCombat =>
    refine withNpc_induction idle fun n => ?_
    split
    · refine h.withCombat fun k here => ?_
      cases here
      exact Int.le_refl 1
    · exact idle
  | endCombat => exact h.withCombat fun _ none => nomatch none
  | completeAdventure => exact h.withGame ⟨game.turn, game.hour⟩
  | giveItem =>
    refine withObject_induction idle fun o => ?_
    have moved : (c.world.modifyObject (c.world.canonicalObjectId o.id) fun e => { e with roomId := "" }).InRange :=
      h.modifyObject _ fun _ ho => ho
    exact moved.withPlayer (player.addItem _)
  | removeItem =>
    exact withArg_induction idle fun _ => h.withPlayer ⟨player.vital, player.gold, player.experience⟩
  | consumeItem =>
    simp only [of, consumeItem]
    split
    · split
      · exact h.withPlayer ⟨player.vital, player.gold, player.experience⟩
      · exact idle
    · exact idle
  | moveObject =>
    refine withObject_induction idle fun o => withRoom_induction idle fun r => ?_
    have moved : (c.world.modifyObject o.id fun e => { e with roomId := r.id }).InRange :=
      h.modifyObject _ fun _ ho => ho
    exact moved.withPlayer ⟨player.vital, player.gold, player.experience⟩
  | setObjectVisible | setObjectDescription =>
    exact withObject_induction idle fun o => h.modifyObject _ fun _ ho => ho
  | moveNpc =>
    exact withNpc_induction idle fun n => withRoom_induction idle fun r =>
      h.modifyNpc fun n found => ⟨(h.npc? found).vital, (h.npc? found).gold⟩
  | setNpcHostile =>
    exact withNpc_induction idle fun n => h.modifyNpc fun n found => ⟨(h.npc? found).vital, (h.npc? found).gold⟩
  | damageNpc =>
    refine withAmount_induction idle fun a => withNpc_named idle fun n named => ?_
    have found := npc?_of_named named
    have wound : ∀ e, c.world.npc? n.id = some e → Vital (lower n.health a) e.maxHealth := by
      intro e here
      cases found.symm.trans here
      exact (h.npc? here).vital.lower a
    dsimp only
    split
    · exact h.modifyNpc fun e here => ⟨wound e here, (h.npc? here).gold⟩
    · refine World.InRange.withoutCombat (h.modifyNpc fun e here => ?_) n.id
      exact ⟨wound e here, (h.npc? here).gold⟩
  | healNpc =>
    refine withAmount_induction idle fun a => withNpc_induction idle fun n => ?_
    split
    · exact idle
    · exact h.modifyNpc fun e here => ⟨(h.npc? here).vital.raise a, (h.npc? here).gold⟩
  | killNpc =>
    refine withNpc_induction idle fun n => ?_
    refine World.InRange.withoutCombat (h.modifyNpc fun e here => ?_) n.id
    exact ⟨(h.npc? here).vital.zero, (h.npc? here).gold⟩
  | damagePlayer =>
    exact withAmount_induction idle fun a => h.withPlayer ⟨player.vital.lower a, player.gold, player.experience⟩
  | healPlayer =>
    exact withAmount_induction idle fun a => h.withPlayer ⟨player.vital.raise a, player.gold, player.experience⟩
  | addGold =>
    exact withAmount_induction idle fun a =>
      h.withPlayer ⟨player.vital, Whole.toInt_max_zero _, player.experience⟩
  | removeGold =>
    refine withAmount_induction idle fun a => ?_
    split
    · exact idle
    · rename_i enough
      have left : 0 ≤ (Whole.minus c.world.player.gold (max a 0)).toInt := by
        have gold := player.gold
        rw [toInt_spend gold enough]
        rw [Int64.lt_iff_toInt_lt] at enough
        omega
      exact h.withPlayer ⟨player.vital, left, player.experience⟩
  | addExperience =>
    exact withAmount_induction idle fun a => h.withPlayer ⟨player.vital, player.gold, Whole.toInt_max_zero _⟩
  | setProperty => exact setProperty_induction h h.writeProperty
  | addModifier =>
    refine withArg_induction idle fun id => withArg_induction idle fun stat => ?_
    have lasts : 1 ≤ (max (Bag.getInt c.node.properties "Turns" 1) 1).toInt := by
      rw [Whole.toInt_max]
      exact Int.le_max_right _ _
    dsimp only
    split
    · refine h.withModifiers fun m mem => ?_
      cases mem_modifyFirst mem with
      | inl mem => exact h .modifiers m mem
      | inr changed =>
        obtain ⟨-, -, rfl⟩ := changed
        exact lasts
    · refine h.withModifiers fun m mem => ?_
      cases List.mem_append.1 mem with
      | inl mem => exact h .modifiers m mem
      | inr new =>
        cases List.mem_singleton.1 new
        exact lasts
  | removeModifier =>
    exact withArg_induction idle fun id => h.withModifiers fun m mem => h .modifiers m (List.mem_filter.1 mem).1
  | advanceTime =>
    refine withAmount_induction idle fun hours => ?_
    split
    · exact h.withGame ⟨game.turn, Whole.hourOf_bounds _⟩
    · exact idle
  | setWeather => exact withArg_induction idle fun _ => h.withGame ⟨game.turn, game.hour⟩
  | addScore => exact withAmount_induction idle fun _ => h.withGame ⟨game.turn, game.hour⟩
  | _ => exact h.of_unranged (changesOnly_of _ c) (by decide)

end Act

theorem World.invariant_inRange : Invariant InRange where
  act t _ := Act.inRange_of t
  dialogue t c h := by
    cases t with
    | say | narrate | playVoice => exact h.of_unranged (Dialogue.changesOnly_act _ c) (by decide)
    | setGreeting =>
      exact Act.withNpc_induction (P := Act.InRange) h fun n =>
        h.modifyNpc fun e here => ⟨(h.npc? here).vital, (h.npc? here).gold⟩
  write _ t id property v h := h.writeProperty t id property v
  tick _ h := h.tick

end StoryGraph
