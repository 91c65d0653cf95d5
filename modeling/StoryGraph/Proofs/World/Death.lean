import StoryGraph.Proofs.Engine.Deeds
import StoryGraph.Proofs.Handler.Amounts
import StoryGraph.Proofs.Handler.Footprint
import StoryGraph.Proofs.NodeType.Tags
import StoryGraph.Proofs.Property.Writing

/-!
Who is dead. A corpse has no health and is no enemy, and a combat is one against somebody who is there and alive.
Wounds, deaths and the beginning of combats keep to that. Three things do not look at all of it: making somebody an
enemy, healing, and writing the properties of a person. Main statement: by these only, and exactly in the cases that
are listed here, a world loses it.
-/

namespace StoryGraph

theorem Npc.isAlive_iff {n : Npc} : n.isAlive = true ↔ n.isCorpse = false ∧ 0 < n.health := by
  simp [isAlive]

theorem Npc.id_set {p : Property Npc} (listed : p ∈ properties) (v : Value) (n : Npc) : (p.set v n).id = n.id := by
  simp only [properties_eq, List.mem_cons, List.not_mem_nil, or_false] at listed
  obtain rfl | rfl | rfl | rfl | rfl | rfl | rfl | rfl | rfl | rfl := listed <;> rfl

namespace World

/-- A combat is going on against the person of this id. -/
def Fights (w : World) (id : String) : Prop := ∃ k, w.combat = some k ∧ Text.sameName k.npcId id = true

/-- The ids of people are distinct, corpses have no health and are no enemies, and whoever is fought is there and
alive. -/
structure Coherent (w : World) : Prop where
  distinct : Text.Distinct (w.npcs.map Npc.id)
  corpses : ∀ n ∈ w.npcs, n.isCorpse = true → n.health = 0 ∧ n.isHostile = false
  combat : ∀ k, w.combat = some k → ∃ n, w.npc? k.npcId = some n ∧ n.isAlive = true

/-- The person would be a corpse with health or an enemy, or fallen and still in combat. -/
def Upset (w : World) (n : Npc) : Prop :=
  (n.isCorpse = true ∧ (n.health = 0 → n.isHostile = true)) ∨ (w.Fights n.id ∧ n.isAlive = false)

variable {w w' : World} {id : String} {n : Npc}

namespace Coherent

theorem of_same (h : w.Coherent) (npcs : w'.npcs = w.npcs) (combat : w'.combat = w.combat) : w'.Coherent := by
  refine ⟨?_, ?_, ?_⟩
  · rw [npcs]
    exact h.distinct
  · rw [npcs]
    exact h.corpses
  · rw [combat]
    simp only [npc?, npcs]
    exact h.combat

theorem of_changesOnly {parts : List Part} (h : w.Coherent) (change : ChangesOnly parts w w')
    (others : Part.npcs ∉ parts ∧ Part.combat ∉ parts) : w'.Coherent :=
  h.of_same (change .npcs others.1) (change .combat others.2)

theorem isAlive_of_fights (h : w.Coherent) (found : w.npc? id = some n) (fights : w.Fights n.id) :
    n.isAlive = true := by
  obtain ⟨k, running, same⟩ := fights
  obtain ⟨m, here, alive⟩ := h.combat k running
  rw [npc?_congr same, npc?_id found] at here
  cases here
  exact alive

theorem not_upset (h : w.Coherent) (found : w.npc? id = some n) : ¬ w.Upset n := by
  rintro (⟨corpse, enemy⟩ | ⟨fights, fallen⟩)
  · obtain ⟨health, peaceful⟩ := h.corpses n (List.mem_of_find?_eq_some found) corpse
    exact Bool.false_ne_true (peaceful.symm.trans (enemy health))
  · exact Bool.false_ne_true (fallen.symm.trans (h.isAlive_of_fights found fights))

/-- To change a person is all right exactly if the person is not upset by it. -/
theorem modifyNpc_iff (h : w.Coherent) {f : Npc → Npc} (keeps : ∀ n, (f n).id = n.id := by exact fun _ => rfl) :
    (w.modifyNpc id f).Coherent ↔ ∀ n, w.npc? id = some n → ¬ w.Upset (f n) := by
  have changed {n} (found : w.npc? id = some n) : (w.modifyNpc id f).npc? id = some (f n) := by
    rw [npc?_modifyNpc keeps, found, Option.map_some]
  constructor
  · rintro coherent n found
    exact coherent.not_upset (changed found)
  · intro settled
    refine ⟨?_, ?_, ?_⟩
    · simp only [modifyNpc, map_modifyFirst _ _ _ keeps]
      exact h.distinct
    · intro m mem corpse
      cases mem_modifyFirst mem with
      | inl mem => exact h.corpses m mem corpse
      | inr made =>
        obtain ⟨n, found, rfl⟩ := made
        have calm : ¬ ((f n).health = 0 → (f n).isHostile = true) := fun enemy => settled n found (.inl ⟨corpse, enemy⟩)
        simpa using calm
    · intro k running
      obtain ⟨n, found, alive⟩ := h.combat k running
      cases same : Text.sameName k.npcId id with
      | true =>
        rw [npc?_congr same] at found ⊢
        have named : Text.sameName n.id id = true := sameName_of_npc? found
        have fought : Text.sameName k.npcId (f n).id = true := by
          rw [keeps, Text.sameName_congr named, same]
        refine ⟨f n, changed found, ?_⟩
        cases fallen : (f n).isAlive with
        | true => rfl
        | false => exact absurd (.inr ⟨⟨k, running, fought⟩, fallen⟩) (settled n found)
      | false =>
        rw [npc?_modifyNpc_other same keeps]
        exact ⟨n, found, alive⟩

theorem endCombat (h : w.Coherent) : ({ w with combat := none } : World).Coherent :=
  ⟨h.distinct, h.corpses, fun _ none => nomatch none⟩

theorem startCombat (h : w.Coherent) (found : w.npc? n.id = some n) (alive : n.isAlive = true) (round : Int64) :
    ({ w with combat := some ⟨n.id, round⟩ } : World).Coherent := by
  refine ⟨h.distinct, h.corpses, fun k begun => ?_⟩
  cases begun
  exact ⟨n, found, alive⟩

theorem tick (h : w.Coherent) : w.tick.Coherent := by
  refine ⟨h.distinct, h.corpses, fun k running => ?_⟩
  obtain ⟨k, before, rfl⟩ := Option.map_eq_some_iff.1 running
  exact h.combat k before

/-- Somebody falls, and a combat against this person is over. -/
theorem fall (h : w.Coherent) {f : Npc → Npc}
    (falls : ∀ n, w.npc? id = some n → (f n).health = 0 ∧ (f n).isHostile = false)
    (keeps : ∀ n, (f n).id = n.id := by exact fun _ => rfl) :
    (Act.withoutCombat (w.modifyNpc id f) id).Coherent := by
  have corpse {n} (found : w.npc? id = some n) :
      ¬ ((f n).isCorpse = true ∧ ((f n).health = 0 → (f n).isHostile = true)) := by
    rintro ⟨-, enemy⟩
    obtain ⟨health, peaceful⟩ := falls n found
    exact Bool.false_ne_true (peaceful.symm.trans (enemy health))
  rw [Act.withoutCombat]
  split
  case isTrue =>
    refine (h.endCombat.modifyNpc_iff keeps).2 fun n found upset => ?_
    obtain fallen | ⟨⟨k, running, -⟩, -⟩ := upset
    · exact corpse found fallen
    · cases running
  case isFalse other =>
    refine (h.modifyNpc_iff keeps).2 fun n found upset => ?_
    obtain fallen | ⟨⟨k, running, same⟩, -⟩ := upset
    · exact corpse found fallen
    · refine other ?_
      rw [keeps, Text.sameName_congr (sameName_of_npc? found)] at same
      have running : (w.modifyNpc id f).combat = some k := running
      rw [running]
      exact same

/-! When a person is upset by what is changed of it. -/

theorem upset_health_iff (h : w.Coherent) (found : w.npc? id = some n) (x : Int64) :
    w.Upset { n with health := x } ↔ if n.isCorpse then x ≠ 0 else w.Fights n.id ∧ ¬ 0 < x := by
  cases dead : n.isCorpse with
  | true =>
    have peaceful := (h.corpses n (List.mem_of_find?_eq_some found) dead).2
    have unfought : ¬ w.Fights n.id := fun fights => by
      have living := (Npc.isAlive_iff.1 (h.isAlive_of_fights found fights)).1
      exact Bool.false_ne_true (living.symm.trans dead)
    simp [Upset, peaceful, unfought]
  | false => simp [Upset, Npc.isAlive]

theorem upset_isHostile_iff (h : w.Coherent) (found : w.npc? id = some n) (hostile : Bool) :
    w.Upset { n with isHostile := hostile } ↔ n.isCorpse = true ∧ hostile = true := by
  constructor
  · rintro (⟨corpse, enemy⟩ | fallen)
    · exact ⟨corpse, enemy (h.corpses n (List.mem_of_find?_eq_some found) corpse).1⟩
    · exact absurd (.inr fallen) (h.not_upset found)
  · rintro ⟨corpse, enemy⟩
    exact .inl ⟨corpse, fun _ => enemy⟩

theorem upset_isCorpse_iff (h : w.Coherent) (found : w.npc? id = some n) (corpse : Bool) :
    w.Upset { n with isCorpse := corpse } ↔
      corpse = true ∧ (n.health ≠ 0 ∨ n.isHostile = true ∨ w.Fights n.id) := by
  cases corpse with
  | true =>
    simp only [Upset, Npc.isAlive, true_and, Bool.not_true, Bool.false_and, and_true]
    rw [Decidable.imp_iff_not_or, or_assoc]
  | false =>
    refine iff_of_false ?_ fun dead => Bool.false_ne_true dead.1
    rintro (⟨dead, -⟩ | ⟨fights, fallen⟩)
    · exact Bool.false_ne_true dead
    · have alive := (Npc.isAlive_iff.1 (h.isAlive_of_fights found fights)).2
      simp only [Npc.isAlive, Bool.not_false, Bool.true_and, decide_eq_false_iff_not] at fallen
      exact fallen alive

theorem not_upset_setMaxHealth (h : w.Coherent) (found : w.npc? id = some n) (x : Int64) :
    ¬ w.Upset (n.setMaxHealth x) := by
  have top : 1 ≤ (max x 1).toInt := by
    rw [Whole.toInt_max]
    exact Int.le_max_right _ _
  have health : (min n.health (max x 1)).toInt = min n.health.toInt (max x 1).toInt := Whole.toInt_min _ _
  intro upset
  have upset := (h.upset_health_iff found (min n.health (max x 1))).1 upset
  split at upset
  case isTrue corpse =>
    have none : n.health.toInt = 0 := congrArg Int64.toInt (h.corpses n (List.mem_of_find?_eq_some found) corpse).1
    exact upset (Int64.toInt_inj.1 (health.trans (by rw [none, Int64.toInt_zero]; omega)))
  case isFalse =>
    obtain ⟨fights, fallen⟩ := upset
    have alive := (Npc.isAlive_iff.1 (h.isAlive_of_fights found fights)).2
    rw [Int64.lt_iff_toInt_lt, Int64.toInt_zero] at alive
    refine fallen (Int64.lt_iff_toInt_lt.2 ?_)
    rw [health, Int64.toInt_zero]
    omega

end Coherent

/-- The property of a person that is written does not go with the rest: a corpse is given health or made an enemy,
somebody who is fought loses all health, or somebody becomes a corpse who has health, is an enemy or is fought. -/
def Jars (w : World) (n : Npc) (p : Property Npc) (v : Value) : Prop :=
  (p.name = "Health" ∧ if n.isCorpse then (n.setHealth v.toInt).health ≠ 0
    else w.Fights n.id ∧ ¬ 0 < (n.setHealth v.toInt).health) ∨
  (p.name = "IsHostile" ∧ n.isCorpse = true ∧ v.toBool = true) ∨
  (p.name = "IsCorpse" ∧ v.toBool = true ∧ (n.health ≠ 0 ∨ n.isHostile = true ∨ w.Fights n.id))

theorem Coherent.upset_set_iff (h : w.Coherent) (found : w.npc? id = some n) {p : Property Npc}
    (listed : p ∈ Npc.properties) (v : Value) : w.Upset (p.set v n) ↔ w.Jars n p v := by
  have calm := h.not_upset found
  simp only [Npc.properties_eq, List.mem_cons, List.not_mem_nil, or_false] at listed
  obtain rfl | rfl | rfl | rfl | rfl | rfl | rfl | rfl | rfl | rfl := listed
  case inr.inr.inr.inl =>
    refine (h.upset_health_iff found (n.setHealth v.toInt).health).trans ?_
    simp [Jars]
  case inr.inr.inr.inr.inl => exact iff_of_false (h.not_upset_setMaxHealth found _) (by simp [Jars])
  case inr.inr.inr.inr.inr.inl => simpa [Jars] using h.upset_isHostile_iff found v.toBool
  case inr.inr.inr.inr.inr.inr.inl => simpa [Jars] using h.upset_isCorpse_iff found v.toBool
  all_goals exact iff_of_false calm (by simp [Jars])

theorem Coherent.setProperty?_npc (h : w.Coherent) {property : String} {v : Value}
    (written : w.setProperty? .npc id property v = some w') :
    w'.Coherent ↔ ∀ n p, w.npc? id = some n → Property.find? Npc.properties property = some p → ¬ w.Jars n p v := by
  obtain ⟨n, p, found, listed, rfl⟩ := exists_of_setProperty? written
  have inTable : p ∈ Npc.properties := (Property.find?_eq_some listed).1
  rw [modifyEntity, h.modifyNpc_iff fun n => Npc.id_set inTable v n]
  constructor
  · intro settled n p' found' listed' jars
    cases listed.symm.trans listed'
    exact settled n found' ((h.upset_set_iff found' inTable v).2 jars)
  · intro settled n found' upset
    exact settled n p found' listed ((h.upset_set_iff found' inTable v).1 upset)

/-- A deed by which death is no longer coherent. -/
inductive Deed.Upsets : Deed → Prop where
  /-- A corpse is made an enemy. -/
  | enemy {c : Call} {n : Npc} (named : (c.arg "NpcId").bind c.world.npc? = some n) (corpse : n.isCorpse = true)
      (hostile : Bag.getBool c.node.properties "Hostile" true = true) : Upsets (.ran (.action .setNpcHostile) c)
  /-- Somebody who is fought is healed up to a greatest health that is not positive. -/
  | healed {c : Call} {a : Int64} {n : Npc} (amount : c.amount "Amount" = some a)
      (named : (c.arg "NpcId").bind c.world.npc? = some n) (fought : c.world.Fights n.id)
      (mortal : ¬ 0 < n.maxHealth) : Upsets (.ran (.action .healNpc) c)
  | wrote {d : Deed} {id property : String} {v : Value} {n : Npc} {p : Property Npc}
      (writes : d.writes? = some (.npc, id, property, v)) (found : d.before.npc? id = some n)
      (listed : Property.find? Npc.properties property = some p) (jars : d.before.Jars n p v) : Upsets d

end World

namespace Act

def Coherent (a : Act) : Prop := a.world.Coherent

variable {c : Call}

/-- Healing lets somebody who is alive live, if the greatest health is positive. -/
theorem raise_pos_iff {health amount greatest : Int64} (alive : 0 < health) :
    0 < raise health amount greatest ↔ 0 < greatest := by
  simp only [Int64.lt_iff_toInt_lt, toInt_raise, Int64.toInt_zero] at *
  omega

theorem coherent_damageNpc (h : c.world.Coherent) : (damageNpc c).Coherent := by
  refine withAmount_induction h fun a => withNpc_named h fun n named => ?_
  have here := npc?_of_named named
  dsimp only
  split
  case isTrue left =>
    refine h.modifyNpc_iff.2 fun e found upset => ?_
    cases here.symm.trans found
    have upset := (h.upset_health_iff found (lower n.health a)).1 upset
    split at upset
    case isTrue corpse =>
      have none := (h.corpses n (List.mem_of_find?_eq_some found) corpse).1
      have exact : (lower n.health a).toInt = _ := toInt_lower (by rw [none]; exact Int.le_refl 0)
      rw [Int64.lt_iff_toInt_lt, exact, none, Int64.toInt_zero] at left
      omega
    case isFalse => exact upset.2 left
  case isFalse none =>
    have zero : lower n.health a = 0 := by
      rw [Int64.lt_iff_toInt_lt, Int64.toInt_zero] at none
      have low : 0 ≤ (lower n.health a).toInt := toInt_lower_nonneg
      exact Int64.toInt_inj.1 (by rw [Int64.toInt_zero]; omega)
    exact h.fall fun _ _ => ⟨zero, rfl⟩

theorem coherent_of {t : ActionType} (h : c.world.Coherent) (other : t ≠ .setProperty)
    (settled : ¬ World.Deed.Upsets (.ran (.action t) c)) : (of t c).Coherent := by
  have idle : (idle c).Coherent := h
  cases t with
  | startCombat =>
    refine withNpc_named idle fun n named => ?_
    split
    case isTrue alive => exact h.startCombat (npc?_of_named named) alive 1
    case isFalse => exact idle
  | endCombat => exact h.endCombat
  | moveNpc =>
    refine withNpc_induction idle fun n => withRoom_induction idle fun r => h.modifyNpc_iff.2 fun e found => ?_
    have calm := h.not_upset found
    exact calm
  | damageNpc => exact coherent_damageNpc h
  | killNpc => exact withNpc_induction idle fun n => h.fall fun _ _ => ⟨rfl, rfl⟩
  | setNpcHostile =>
    refine withNpc_named idle fun n named => h.modifyNpc_iff.2 fun e found upset => ?_
    cases (npc?_of_named named).symm.trans found
    obtain ⟨corpse, hostile⟩ := (h.upset_isHostile_iff found _).1 upset
    exact settled (.enemy named corpse hostile)
  | healNpc =>
    refine withAmount_given idle fun a amount => withNpc_named idle fun n named => ?_
    split
    case isTrue => exact idle
    case isFalse living =>
      refine h.modifyNpc_iff.2 fun e found upset => ?_
      cases (npc?_of_named named).symm.trans found
      have upset := (h.upset_health_iff found (raise n.health a n.maxHealth)).1 upset
      rw [if_neg living] at upset
      obtain ⟨fights, fallen⟩ := upset
      rw [raise_pos_iff (Npc.isAlive_iff.1 (h.isAlive_of_fights found fights)).2] at fallen
      exact settled (.healed amount named fights fallen)
  | setProperty => exact absurd rfl other
  | _ => exact h.of_changesOnly (changesOnly_of _ c) (by decide)

end Act

namespace World

variable {d : Deed}

theorem Deed.Upsets.not_coherent_after (u : d.Upsets) (h : d.before.Coherent) : ¬ d.after.Coherent := by
  cases u with
  | @enemy c n named corpse hostile =>
    have here := Act.npc?_of_named named
    show ¬ (Act.of .setNpcHostile c).world.Coherent
    simp only [Act.of, Act.withNpc, named]
    intro coherent
    exact (Coherent.modifyNpc_iff h).1 coherent n here ((Coherent.upset_isHostile_iff h here _).2 ⟨corpse, hostile⟩)
  | @healed c a n amount named fought mortal =>
    have here := Act.npc?_of_named named
    obtain ⟨living, alive⟩ := Npc.isAlive_iff.1 (Coherent.isAlive_of_fights h here fought)
    have fallen : ¬ 0 < Act.raise n.health a n.maxHealth := by
      rw [Act.raise_pos_iff alive]
      exact mortal
    show ¬ (Act.of .healNpc c).world.Coherent
    simp only [Act.of, Act.healNpc, Act.withAmount, amount, Act.withNpc, named, living, Bool.false_eq_true, if_false]
    intro coherent
    refine (Coherent.modifyNpc_iff h).1 coherent n here ((Coherent.upset_health_iff h here _).2 ?_)
    rw [if_neg (by rw [living]; exact Bool.false_ne_true)]
    exact ⟨fought, fallen⟩
  | @wrote _ id property v n p writes found listed jars =>
    have written : d.before.setProperty? .npc id property v = some (d.before.modifyNpc id (p.set v)) :=
      setProperty?_of_found (t := .npc) found listed
    rw [Deed.after_of_writes? writes, world_writeProperty, written, Option.getD_some, h.setProperty?_npc written]
    exact fun settled => settled n p found listed jars

theorem Coherent.after (h : d.before.Coherent) (settled : ¬ d.Upsets) : d.after.Coherent := by
  cases writes : d.writes? with
  | some write =>
    obtain ⟨t, id, property, v⟩ := write
    rw [Deed.after_of_writes? writes]
    refine writeProperty_induction h fun w' written => ?_
    cases t with
    | npc => exact (h.setProperty?_npc written).2 fun n p found listed jars => settled (.wrote writes found listed jars)
    | room | door | object | player | game => exact h.of_changesOnly (changesOnly_setProperty? written) (by decide)
  | none =>
    refine Deed.after_induction writes h ?_ ?_ ?_
    · rintro t c rfl other
      exact Act.coherent_of h other settled
    · rintro t c rfl
      cases t with
      | say | narrate | playVoice => exact Coherent.of_changesOnly h (Dialogue.changesOnly_act _ c) (by decide)
      | setGreeting =>
        refine Act.withNpc_induction (P := Act.Coherent) h fun n => (Coherent.modifyNpc_iff h).2 fun e found => ?_
        have calm := Coherent.not_upset h found
        exact calm
    · rintro w rfl
      exact Coherent.tick h

/-- In a world in which death is coherent a deed leaves it so, unless it is one of those that upset it. -/
theorem Coherent.after_iff (h : d.before.Coherent) : d.after.Coherent ↔ ¬ d.Upsets :=
  ⟨fun coherent upsets => upsets.not_coherent_after h coherent, h.after⟩

end World

namespace Surroundings

/-- Starting from a world in which death is coherent, whatever a host has the engine do leaves it so, unless one of the
deeds upsets it: a corpse that is made an enemy, somebody who is fought and healed up to no health, or a property of a
person that is written without the rest. Each such deed breaks it. -/
theorem served_death_coherent (s : Surroundings) (builtins : s.registry.IsBuiltin) (calls : List (Nat × Command))
    {r : Run} (start : r.world.Coherent) :
    ((∀ d, s.Does calls r d → ¬ d.Upsets) → (s.serve calls r).2.world.Coherent) ∧
      ∀ d, s.Does calls r d → d.before.Coherent → (d.after.Coherent ↔ ¬ d.Upsets) :=
  ⟨fun careful => serve_induction builtins (fun d does coherent => coherent.after_iff.2 (careful d does)) start,
    fun _ _ coherent => coherent.after_iff⟩

theorem served_death_coherent_wounded :
    let s : Surroundings := { registry := .builtins, library := [], settings := {}, draws := .ofSeed 7 }
    let r : Run :=
      { world :=
          { npcs := [{ id := "guard", isHostile := true }, { id := "wolf", health := 0, isCorpse := true }],
            combat := some ⟨"GUARD", 1⟩ } }
    let calls := [(0, Command.setProperty "Npc" "guard" "Health" (.int 5)), (0, .advanceTurn)]
    s.registry.IsBuiltin ∧ r.world.Coherent ∧ (∀ d, s.Does calls r d → ¬ d.Upsets) ∧
      (s.serve calls r).2.world.Coherent := by
  intro s r calls
  have start : r.world.Coherent := by
    refine ⟨by decide +kernel, by decide +kernel, fun k running => ?_⟩
    cases running
    exact ⟨{ id := "guard", isHostile := true }, rfl, rfl⟩
  have careful : ∀ d, s.Does calls r d → ¬ d.Upsets := by
    intro d does upsets
    rw [does_quiet (by decide +kernel), does_quiet (by decide +kernel)] at does
    obtain wrote | turned | none := does
    · cases wrote
      cases upsets with
      | wrote writes found listed jars =>
        cases writes
        have guard : r.world.npc? "guard" = some { id := "guard", isHostile := true } := rfl
        cases guard.symm.trans found
        have health : Property.find? Npc.properties "Health" = Npc.properties[3]? := rfl
        cases health.symm.trans listed
        obtain ⟨-, weak⟩ | ⟨other, -⟩ | ⟨other, -⟩ := jars
        · rw [if_neg (by decide)] at weak
          exact weak.2 (by decide +kernel)
        · exact absurd other (by decide)
        · exact absurd other (by decide)
    · cases turned
      cases upsets with
      | wrote writes => cases writes
    · exact not_does_nil none
  exact ⟨Registry.isBuiltin_builtins, start, careful,
    (s.served_death_coherent Registry.isBuiltin_builtins calls start).1 careful⟩

end Surroundings

/-- Makes the guard an enemy. -/
def Node.anger : Node where
  id := "anger"
  typeTag := "Action_SetNpcHostile"
  properties := .ofList [("NpcId", .string "guard")]

namespace Surroundings

/-- A corpse can be made an enemy, and somebody who is fought can lose all health and be fought on. -/
theorem death_upset :
    let s : Surroundings := { registry := .builtins, library := [], settings := {}, draws := .ofSeed 7 }
    let fallen : World := { npcs := [{ id := "guard", health := 0, isCorpse := true }] }
    let fought : World := { npcs := [{ id := "guard" }], combat := some ⟨"guard", 1⟩ }
    (fallen.Coherent ∧ ¬ (s.serve [(0, .executeNode .anger)] { world := fallen }).2.world.Coherent) ∧
      fought.Coherent ∧
        ¬ (s.serve [(0, .setProperty "Npc" "guard" "Health" (.int 0))] { world := fought }).2.world.Coherent := by
  intro s fallen fought
  have kind : Node.anger.kind? = some (.action .setNpcHostile) := by
    rw [Node.kind?, NodeType.ofTag?_eq]
    decide +kernel
  have handler : s.registry.handlerFor .anger = some (builtin (.action .setNpcHostile)) := by
    rw [Registry.handlerFor, kind]
    rfl
  have after : (s.serve [(0, .executeNode .anger)] { world := fallen }).2.world =
      (Act.of .setNpcHostile (Walk.call s (.single .anger) 0 .anger ⟨"anger", Port.exec, []⟩
        { run := { world := fallen } })).world := by
    exact congrArg Run.world (single_plain { world := fallen } handler (by decide) (Act.fits_of .setNpcHostile _).response)
  have calm : fallen.Coherent := ⟨by decide +kernel, by decide +kernel, fun _ none => nomatch none⟩
  have fighting : fought.Coherent := by
    refine ⟨by decide +kernel, by decide +kernel, fun k running => ?_⟩
    cases running
    exact ⟨{ id := "guard" }, rfl, rfl⟩
  refine ⟨⟨calm, fun coherent => ?_⟩, fighting, fun coherent => ?_⟩
  · have corpses := coherent.corpses
    rw [after] at corpses
    exact absurd corpses (by decide +kernel)
  · obtain ⟨n, found, alive⟩ := coherent.combat ⟨"guard", 1⟩ (by decide +kernel)
    have dead : ((s.serve [(0, .setProperty "Npc" "guard" "Health" (.int 0))] { world := fought }).2.world.npc?
        "guard").any Npc.isAlive = false := by decide +kernel
    rw [found, Option.any_some, alive] at dead
    cases dead

end Surroundings

end StoryGraph
