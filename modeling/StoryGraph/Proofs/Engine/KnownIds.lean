import StoryGraph.Proofs.Engine.Moments
import StoryGraph.Proofs.Property.Entity

/-!
Ids that leave the engine. A script may name a room or a person in any case, but the host, those who wait for a change
and the combat get the id as the world spells it. Main statement: whatever a host has the engine do, the ids that it is
told are ids of the world at every moment, and so are those of the changes that are announced and of the people who
are fought.
-/

namespace StoryGraph

namespace HostEvent

/-- The room or the person that is named to the host. -/
def subject? : HostEvent → Option Address
  | roomMusicChanged id _ | playerTeleported id => some (.room, id)
  | startConversation id | startCombat id | startTrade id => some (.npc, id)
  | showMessage _ | playSound _ | adventureCompleted | diagnostic _ => none

/-- Whom a combat begins against. -/
def opponent? : HostEvent → Option String
  | startCombat id => some id
  | _ => none

theorem subject?_of_opponent? {e : HostEvent} {id : String} (h : e.opponent? = some id) :
    e.subject? = some (.npc, id) := by
  cases e with
  | startCombat id' =>
    cases h
    rfl
  | _ => cases h

theorem opponent?_of_subject? {e : HostEvent} (h : e.subject? = none) : e.opponent? = none := by
  cases opponent : e.opponent? with
  | none => rfl
  | some id =>
    rw [subject?_of_opponent? opponent] at h
    cases h

/-- Whom the last combat has begun against. -/
def lastOpponent? (events : List HostEvent) : Option String := (events.filterMap opponent?).getLast?

theorem lastOpponent?_append (first later : List HostEvent) :
    lastOpponent? (first ++ later) = (lastOpponent? later).or (lastOpponent? first) := by
  rw [lastOpponent?, List.filterMap_append, List.getLast?_append]
  rfl

theorem exists_opponent {events : List HostEvent} {id : String} (h : lastOpponent? events = some id) :
    ∃ e ∈ events, e.opponent? = some id := List.mem_filterMap.1 (List.mem_of_getLast? h)

theorem opponent?_eq_none {events : List HostEvent} (h : lastOpponent? events = none) :
    ∀ e ∈ events, e.opponent? = none := List.filterMap_eq_nil_iff.1 (List.getLast?_eq_none_iff.1 h)

end HostEvent

open HostEvent (lastOpponent? lastOpponent?_append)

namespace World

/-- The world has an entity of this type whose id is spelled just like this. -/
def Spells (w : World) (a : Address) : Prop := a.2 ∈ w.ids a.1

variable {w : World} {t : EntityType} {id : String}

theorem spells_entity {e : t.Entity} (found : w.entity? t id = some e) (many : t.isSingleton = false) :
    w.Spells (t, t.key e) := by
  cases t with
  | room => exact List.mem_map_of_mem (List.mem_of_find?_eq_some found)
  | door => exact List.mem_map_of_mem (List.mem_of_find?_eq_some found)
  | npc => exact List.mem_map_of_mem (List.mem_of_find?_eq_some found)
  | object => exact List.mem_map_of_mem (List.mem_of_find?_eq_some found)
  | player | game => cases many

/-- A change is announced under the id of the entity that was written. -/
theorem spells_of_changed {property : String} {v : Value} {change : Change}
    (changed : (w.writeProperty t id property v).2 = .changed change) (many : change.entityType.isSingleton = false) :
    w.Spells (change.entityType, change.entityId) := by
  obtain ⟨outcome, -⟩ | ⟨e, p, found, listed, ⟨outcome, -⟩ | ⟨outcome, -⟩⟩ := w.writeProperty_cases t id property v
  · rw [outcome] at changed
    cases changed
  · rw [outcome] at changed
    cases changed
  · rw [outcome] at changed
    cases changed
    have keeps := EntityType.key_set (Property.find?_eq_some listed).1 v
    have spelled : (w.modifyEntity t id (p.set v)).canonicalId t id = t.key e := by
      rw [canonicalId_eq, if_neg (by simpa using many), entity?_modifyEntity keeps (sameEntity_refl t id), found]
      exact keeps e
    show w.Spells (t, (w.modifyEntity t id (p.set v)).canonicalId t id)
    rw [spelled]
    exact spells_entity found many

theorem combat_writeProperty (w : World) (t : EntityType) (id property : String) (v : Value) :
    (w.writeProperty t id property v).1.combat = w.combat :=
  changesOnly_writeProperty w t id property v .combat (by cases t <;> decide)

end World

/-! Handlers. -/

/-- What is announced names entities of the world, and a combat is against the last one that was named for it or goes
on against whom it was. -/
structure Response.NamesKnown (w : World) (a : Response) : Prop where
  notices : ∀ e ∈ a.notices, ∀ x, e.subject? = some x → w.Spells x
  combat : ∀ k, a.world.combat = some k → (lastOpponent? a.notices).or (w.combat.map Combat.npcId) = some k.npcId
  changes : ∀ out, a.result = .ok out → ∀ d, .changed d ∈ out.effects → d.entityType.isSingleton = false →
    w.Spells (d.entityType, d.entityId)

namespace Act

variable {c : Call} {a : Act}

def NamesKnown (c : Call) (a : Act) : Prop := a.response.NamesKnown c.world

theorem effects_of_result {out : Output} (h : a.response.result = .ok out) : out.effects = a.effects := by
  rw [response] at h
  dsimp only at h
  split at h
  · cases h
  · cases h
    rfl

/-- Nothing is told to the host, and no combat begins. -/
theorem namesKnown_quiet (notices : a.notices = []) (combat : ∀ k, a.world.combat = some k → c.world.combat = some k)
    (changes : ∀ d, .changed d ∈ a.effects → d.entityType.isSingleton = false →
      c.world.Spells (d.entityType, d.entityId)) : a.NamesKnown c where
  notices := by
    show ∀ e ∈ a.notices, _
    rw [notices]
    exact fun _ mem => absurd mem List.not_mem_nil
  combat := fun k fought => by
    show (lastOpponent? a.notices).or _ = _
    rw [notices, combat k fought]
    rfl
  changes := fun out result d asked => changes d (effects_of_result result ▸ asked)

/-- Nothing is told to anybody. -/
theorem namesKnown_silent (combat : ∀ k, a.world.combat = some k → c.world.combat = some k)
    (notices : a.notices = [] := by exact rfl) (effects : a.effects = [] := by exact rfl) : a.NamesKnown c := by
  refine namesKnown_quiet notices combat fun d asked => ?_
  rw [effects] at asked
  cases asked

theorem namesKnown_plain (combat : a.world.combat = c.world.combat) (notices : a.notices = [] := by exact rfl)
    (effects : a.effects = [] := by exact rfl) : a.NamesKnown c :=
  namesKnown_silent (fun _ fought => combat ▸ fought) notices effects

/-- The host is told one thing, and no combat begins. -/
theorem namesKnown_one {e : HostEvent} (notices : a.notices = [e]) (effects : a.effects = [])
    (combat : a.world.combat = c.world.combat) (peaceful : e.opponent? = none)
    (known : ∀ x, e.subject? = some x → c.world.Spells x) : a.NamesKnown c where
  notices := by
    show ∀ e ∈ a.notices, _
    rw [notices]
    exact List.forall_mem_singleton.2 known
  combat := fun k fought => by
    have before : c.world.combat = some k := combat.symm.trans fought
    show (lastOpponent? a.notices).or _ = _
    rw [notices, before, lastOpponent?, List.filterMap_cons_none peaceful]
    rfl
  changes := fun out result d asked => by
    rw [effects_of_result result, effects] at asked
    cases asked

theorem namesKnown_nameless {e : HostEvent} (notices : a.notices = [e]) (effects : a.effects = [])
    (combat : a.world.combat = c.world.combat) (nameless : e.subject? = none) : a.NamesKnown c := by
  refine namesKnown_one notices effects combat (HostEvent.opponent?_of_subject? nameless) fun x named => ?_
  rw [nameless] at named
  cases named

theorem spells_room {r : Room} (named : (c.arg "RoomId").bind c.world.room? = some r) :
    c.world.Spells (.room, r.id) := by
  obtain ⟨id, -, found⟩ := Option.bind_eq_some_iff.1 named
  exact World.spells_entity (t := .room) found rfl

theorem spells_npc {n : Npc} (named : (c.arg "NpcId").bind c.world.npc? = some n) :
    c.world.Spells (.npc, n.id) := by
  obtain ⟨id, -, found⟩ := Option.bind_eq_some_iff.1 named
  exact World.spells_entity (t := .npc) found rfl

theorem combat_withoutCombat {w : World} {id : String} {k : Combat} (h : (withoutCombat w id).combat = some k) :
    w.combat = some k := by
  rw [withoutCombat] at h
  split at h
  · cases h
  · exact h

theorem namesKnown_of (t : ActionType) (c : Call) : (of t c).NamesKnown c := by
  have idle : (idle c).NamesKnown c := namesKnown_plain rfl
  cases t with
  | removeItem | clearFlag | setVariable | incrementVariable | advanceQuest | removeModifier | setWeather =>
    exact withArg_induction idle fun _ => namesKnown_plain rfl
  | startQuest | completeQuest | failQuest =>
    exact withArg_induction idle fun _ => namesKnown_plain (World.changesOnly_modifyQuest _ _ _ .combat (by decide))
  | setFlag =>
    exact withArg_induction idle fun _ => namesKnown_plain (World.changesOnly_setFlag _ _ .combat (by decide))
  | setQuestStage =>
    exact withArg_induction idle fun _ => withAmount_induction idle fun _ =>
      namesKnown_plain (World.changesOnly_modifyQuest _ _ _ .combat (by decide))
  | damagePlayer | healPlayer | addGold | addExperience | addScore =>
    exact withAmount_induction idle fun _ => namesKnown_plain rfl
  | setRoomDark | setRoomDescription => exact withRoom_induction idle fun _ => namesKnown_plain rfl
  | openDoor | closeDoor | lockDoor | unlockDoor | setDoorVisible =>
    exact withDoor_induction idle fun _ => namesKnown_plain rfl
  | setNpcHostile => exact withNpc_induction idle fun _ => namesKnown_plain rfl
  | giveItem | setObjectVisible | setObjectDescription => exact withObject_induction idle fun _ => namesKnown_plain rfl
  | moveNpc => exact withNpc_induction idle fun _ => withRoom_induction idle fun _ => namesKnown_plain rfl
  | moveObject => exact withObject_induction idle fun _ => withRoom_induction idle fun _ => namesKnown_plain rfl
  | log => exact namesKnown_plain rfl
  | healNpc =>
    refine withAmount_induction idle fun _ => withNpc_induction idle fun n => ?_
    split <;> exact namesKnown_plain rfl
  | removeGold =>
    refine withAmount_induction idle fun _ => ?_
    split <;> exact namesKnown_plain rfl
  | addModifier =>
    refine withArg_induction idle fun _ => withArg_induction idle fun _ => ?_
    split <;> exact namesKnown_plain rfl
  | advanceTime =>
    refine withAmount_induction idle fun _ => ?_
    split <;> exact namesKnown_plain rfl
  | consumeItem =>
    simp only [of, consumeItem]
    split
    · split <;> exact namesKnown_plain rfl
    · exact namesKnown_plain rfl
  | completeAdventure => exact namesKnown_nameless rfl rfl rfl rfl
  | showMessage | playSound => exact withArg_induction idle fun _ => namesKnown_nameless rfl rfl rfl rfl
  | setRoomMusic =>
    refine withArg_induction idle fun _ => withRoom_named idle fun r named => namesKnown_one rfl rfl rfl rfl ?_
    rintro _ ⟨⟩
    exact spells_room named
  | teleportPlayer =>
    refine withRoom_named idle fun r named => namesKnown_one rfl rfl rfl rfl ?_
    rintro _ ⟨⟩
    exact spells_room named
  | startConversation | startTrade =>
    refine withNpc_named idle fun n named => namesKnown_one rfl rfl rfl rfl ?_
    rintro _ ⟨⟩
    exact spells_npc named
  | startCombat =>
    refine withNpc_named idle fun n named => ?_
    split
    case isTrue alive =>
      constructor
      case notices =>
        refine List.forall_mem_singleton.2 ?_
        rintro _ ⟨⟩
        exact spells_npc named
      case combat =>
        rintro k ⟨⟩
        rfl
      case changes =>
        rintro out ⟨⟩ d asked
        cases asked
    case isFalse dead => exact idle
  | endCombat =>
    refine namesKnown_silent fun k fought => ?_
    cases fought
  | killNpc => exact withNpc_induction idle fun _ => namesKnown_silent fun k => combat_withoutCombat
  | damageNpc =>
    refine withAmount_induction idle fun _ => withNpc_induction idle fun n => ?_
    dsimp only
    split
    · exact namesKnown_plain rfl
    · exact namesKnown_silent fun k => combat_withoutCombat
  | setProperty =>
    simp only [of, setProperty]
    split
    case h_1 => exact idle
    case h_2 t id property _ =>
      have combat := c.world.combat_writeProperty t id property (Bag.getValue c.node.properties "Value")
      split
      case h_1 w change written =>
        rw [written] at combat
        refine namesKnown_quiet rfl (fun k fought => combat ▸ fought) fun d asked many => ?_
        cases List.mem_singleton.1 asked
        exact World.spells_of_changed (congrArg Prod.snd written) many
      case h_2 _ written =>
        rw [written] at combat
        exact namesKnown_plain combat
  | triggerEvent =>
    refine withArg_induction idle fun _ => withArg_induction idle fun _ => withArg_induction idle fun _ => ?_
    refine namesKnown_quiet rfl (fun _ h => h) fun d asked => ?_
    cases List.mem_singleton.1 asked

end Act

theorem Dialogue.namesKnown_act (t : DialogueType) (c : Call) : (act t c).NamesKnown c := by
  have idle : (Act.idle c).NamesKnown c := Act.namesKnown_plain rfl
  cases t with
  | say | narrate | playVoice => exact Act.withArg_induction idle fun _ => Act.namesKnown_nameless rfl rfl rfl rfl
  | setGreeting => exact Act.withNpc_induction idle fun _ => Act.namesKnown_plain rfl

theorem builtin_namesKnown (t : NodeType) (c : Call) : (builtin t c).NamesKnown c.world := by
  have silent {a : Response} (world : a.world = c.world) (notices : a.notices = [])
      (effects : ∀ out, a.result = .ok out → out.effects = []) : a.NamesKnown c.world := by
    constructor
    · rw [notices]
      exact fun _ mem => absurd mem List.not_mem_nil
    · rw [notices, world]
      exact fun k fought => congrArg (Option.map Combat.npcId) fought
    · intro out result d asked
      rw [effects out result] at asked
      cases asked
  cases t with
  | action t => exact Act.namesKnown_of t c
  | dialogue t => exact Dialogue.namesKnown_act t c
  | event t | condition t =>
    refine silent rfl rfl fun out result => ?_
    cases result
    rfl
  | flow t =>
    obtain ⟨n, next, -⟩ := Flow.exists_next t c
    refine silent rfl rfl fun out result => ?_
    cases (congrArg (Except.map _) next).symm.trans result
    rfl
  | source t =>
    obtain ⟨v, value⟩ := Source.exists_value t c
    refine silent rfl rfl fun out result => ?_
    cases (congrArg (Except.map _) value).symm.trans result
    rfl

/-! Runs. -/

/-- From one moment to another no id has changed, and all that the host was told in between names entities of the world.
A combat is against the last one who was named for it, or goes on. -/
structure Run.NamesKnown (r m : Run) : Prop where
  ids : ∀ t, m.world.ids t = r.world.ids t
  events : ∃ sent, m.events = r.events ++ sent ∧ (∀ e ∈ sent, ∀ a, e.2.subject? = some a → r.world.Spells a) ∧
    ∀ k, m.world.combat = some k →
      (lastOpponent? (sent.map Prod.snd)).or (r.world.combat.map Combat.npcId) = some k.npcId

namespace Run.NamesKnown

variable {r r' r'' : Run}

/-- Nothing is told. -/
theorem of_quiet (ids : ∀ t, r'.world.ids t = r.world.ids t) (events : r'.events = r.events)
    (combat : r'.world.combat.map Combat.npcId = r.world.combat.map Combat.npcId) : NamesKnown r r' := by
  refine ⟨ids, [], by rw [events, List.append_nil], fun e mem => absurd mem List.not_mem_nil, fun k fought => ?_⟩
  rw [← combat, fought]
  rfl

theorem refl (r : Run) : NamesKnown r r := of_quiet (fun _ => rfl) rfl rfl

theorem trans (h : NamesKnown r r') (h' : NamesKnown r' r'') : NamesKnown r r'' := by
  obtain ⟨ids, sent, events, known, combat⟩ := h
  obtain ⟨ids', sent', events', known', combat'⟩ := h'
  refine ⟨fun t => (ids' t).trans (ids t), sent ++ sent', ?_, fun e mem a named => ?_, fun k fought => ?_⟩
  · rw [events', events, List.append_assoc]
  · cases List.mem_append.1 mem with
    | inl mem => exact known e mem a named
    | inr mem =>
      have there : r'.world.Spells a := known' e mem a named
      rwa [World.Spells, ids] at there
  · have later := combat' k fought
    rw [List.map_append, lastOpponent?_append]
    cases last : lastOpponent? (sent'.map Prod.snd) with
    | some id =>
      rw [last] at later
      exact later
    | none =>
      rw [last, Option.none_or] at later
      obtain ⟨k', before, same⟩ := Option.map_eq_some_iff.1 later
      rw [Option.none_or, combat k' before, same]

/-- Something else is told that names nobody. -/
theorem diagnose (s : Settings) (r : Run) (text : String) : NamesKnown r (r.diagnose s text) := by
  rw [Run.diagnose]
  split
  case isTrue =>
    refine ⟨fun _ => rfl, [(r.now, .diagnostic text)], rfl, ?_, fun k fought => ?_⟩
    · refine List.forall_mem_singleton.2 fun a named => ?_
      cases named
    · show r.world.combat.map Combat.npcId = some k.npcId
      rw [show r.world.combat = some k from fought]
      rfl
  case isFalse => exact refl r

theorem absorb {a : Response} (ids : ∀ t, a.world.ids t = r.world.ids t) (known : a.NamesKnown r.world) :
    NamesKnown r (r.absorb a) := by
  refine ⟨ids, a.notices.map fun e => (r.now, e), rfl, fun e mem x named => ?_, fun k fought => ?_⟩
  · obtain ⟨notice, given, rfl⟩ := List.mem_map.1 mem
    exact known.notices notice given x named
  · rw [List.map_map]
    have same : Prod.snd ∘ (fun e => (r.now, e)) = (id : HostEvent → HostEvent) := rfl
    rw [same, List.map_id]
    exact known.combat k fought

theorem opening (c : Command) (r : Run) : NamesKnown r (c.opening r) := by
  have ids : ∀ t, (c.opening r).world.ids t = r.world.ids t :=
    (World.invariant_ids r.world).opening c fun _ => rfl
  cases c with
  | trigger | executeNode | getProperty | snapshot => exact refl r
  | advanceTurn =>
    refine of_quiet ids rfl ?_
    show (r.world.combat.map _).map Combat.npcId = _
    rw [Option.map_map]
    rfl
  | setProperty type id property v =>
    rw [Command.opening] at ids ⊢
    split
    case h_1 => exact refl r
    case h_2 t named =>
      rw [named] at ids
      exact of_quiet ids rfl (congrArg (Option.map Combat.npcId) (r.world.combat_writeProperty t id property v))

/-- Every step that a run is made of. -/
theorem steps (s : Surroundings) : s.Steps NamesKnown where
  refl := refl
  trans := trans
  resume := fun _ _ => of_quiet (fun _ => rfl) rfl rfl
  opening := opening
  handler := fun {t c} r world => by
    have known := builtin_namesKnown t c
    rw [world] at known
    refine absorb ?_ known
    exact (World.invariant_ids r.world).handler t fun _ => by rw [world]
  pause := fun r millis => by
    have events : (r.pause s millis).2.events = r.events := by
      rw [Run.pause]
      split
      · rfl
      · split <;> rfl
    have world := Run.world_pause s millis r
    exact of_quiet (fun t => by rw [world]) events (by rw [world])
  diagnose := diagnose s.settings

end Run.NamesKnown

namespace World

/-- The change is handed to those who wait for it: a handler asks for that, or a host has made it. -/
inductive Deed.Announces : Deed → Change → Prop where
  | asked {t c out change} (result : (builtin t c).result = .ok out) (mem : .changed change ∈ out.effects) :
      Announces (.ran t c) change
  | wrote {w t id property v change} (changed : (w.writeProperty t id property v).2 = .changed change) :
      Announces (.wrote w t id property v) change

theorem Deed.Announces.spells {d : Deed} {change : Change} (h : d.Announces change)
    (many : change.entityType.isSingleton = false) : d.before.Spells (change.entityType, change.entityId) := by
  cases h with
  | asked result mem => exact (builtin_namesKnown _ _).changes _ result change mem many
  | wrote changed => exact spells_of_changed changed many

end World

/-- Starts a combat, under another spelling of the name. -/
def Node.challenge : Node where
  id := "challenge"
  typeTag := "Action_StartCombat"
  properties := .ofList [("NpcId", .string " GUARD ")]

namespace Surroundings

/-- The world has the entity at every moment of the run. -/
def Keeps (s : Surroundings) (calls : List (Nat × Command)) (r : Run) (a : Address) : Prop :=
  ∀ m, s.Reaches calls r m → m.world.Spells a

/-- The rooms and people that a host is told of, the entities whose changes are announced and whoever is fought are
entities of the world at every moment, in its own spelling. A combat that nobody has begun in the run is the one that
was going on before it. -/
theorem served_names_known (s : Surroundings) (builtins : s.registry.IsBuiltin) (calls : List (Nat × Command))
    (r : Run) :
    s.Reaches calls r (s.serve calls r).2 ∧
      (∀ m, s.Reaches calls r m → ∃ sent, m.events = r.events ++ sent ∧
        (∀ e ∈ sent, ∀ a, e.2.subject? = some a → s.Keeps calls r a) ∧
        ∀ k, m.world.combat = some k → s.Keeps calls r (.npc, k.npcId) ∨
          (∀ e ∈ sent, e.2.opponent? = none) ∧ r.world.combat.map Combat.npcId = some k.npcId) ∧
      ∀ d, s.Does calls r d →
        (∃ m m', s.Reaches calls r m ∧ s.Reaches calls r m' ∧ m.world = d.before ∧ m'.world = d.after) ∧
        ∀ change, d.Announces change → change.entityType.isSingleton = false →
          s.Keeps calls r (change.entityType, change.entityId) := by
  have known {m : Run} (reaches : s.Reaches calls r m) : r.NamesKnown m :=
    (Run.NamesKnown.steps s).reached builtins reaches
  have keeps {a : Address} (has : r.world.Spells a) : s.Keeps calls r a := fun m reaches => by
    rw [World.Spells, (known reaches).ids]
    exact has
  refine ⟨reaches_serve calls r, fun m reaches => ?_, fun d does => ?_⟩
  · obtain ⟨sent, events, named, combat⟩ := (known reaches).events
    refine ⟨sent, events, fun e mem a subject => keeps (named e mem a subject), fun k fought => ?_⟩
    have last := combat k fought
    cases begun : lastOpponent? (sent.map Prod.snd) with
    | some id =>
      rw [begun] at last
      cases last
      obtain ⟨notice, given, opponent⟩ := HostEvent.exists_opponent begun
      obtain ⟨e, mem, rfl⟩ := List.mem_map.1 given
      exact .inl (keeps (named e mem _ (HostEvent.subject?_of_opponent? opponent)))
    | none =>
      rw [begun, Option.none_or] at last
      have quiet := HostEvent.opponent?_eq_none begun
      exact .inr ⟨List.forall_mem_map.1 quiet, last⟩
  · have moments := does.exists_reached builtins
    obtain ⟨m, m', before, after, world, world'⟩ := moments
    refine ⟨⟨m, m', before, after, world, world'⟩, fun change announced many => keeps ?_⟩
    have has := announced.spells many
    rw [← world, World.Spells, (known before).ids] at has
    exact has

/-- The guard is challenged under another spelling, while somebody is fought who is not there. -/
theorem served_names_known_guard :
    let s : Surroundings := { registry := .builtins, library := [], settings := {}, draws := .ofSeed 7 }
    let r : Run := { world := { npcs := [{ id := "Guard" }], combat := some ⟨"ghost", 3⟩ } }
    let calls := [(0, Command.executeNode .challenge)]
    s.registry.IsBuiltin ∧ (s.serve calls r).2.world.combat = some ⟨"Guard", 1⟩ ∧ s.Keeps calls r (.npc, "Guard") := by
  intro s r calls
  have kind : Node.challenge.kind? = some (.action .startCombat) := by
    rw [Node.kind?, NodeType.ofTag?_eq]
    decide +kernel
  have after := world_serve_action (s := s) rfl (by decide) kind (w := r.world) (by decide +kernel)
  have combat : (s.serve calls r).2.world.combat = some ⟨"Guard", 1⟩ := by
    rw [show (s.serve calls r).2.world = _ from after]
    decide +kernel
  obtain ⟨ends, moments, -⟩ := s.served_names_known Registry.isBuiltin_builtins calls r
  obtain ⟨sent, -, -, fought⟩ := moments _ ends
  refine ⟨Registry.isBuiltin_builtins, combat, ?_⟩
  cases fought _ combat with
  | inl keeps => exact keeps
  | inr before => exact absurd before.2 (by decide +kernel)

end Surroundings

end StoryGraph
