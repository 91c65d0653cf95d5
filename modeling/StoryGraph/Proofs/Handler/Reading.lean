import StoryGraph.Host.Listening
import StoryGraph.Proofs.Handler.Ways

/-!
What the built-in handlers look at, and what they do not tell. Main statements: a built-in handler does not look at
how the type of its node is written, by which port the walk came in, or how deep the walk is; and none tells the host
of faults, which is left to the walks.
-/

namespace StoryGraph

/-- Two calls that differ at most in what no built-in handler looks at. -/
structure Call.Alike (c c' : Call) : Prop where
  id : c'.node.id = c.node.id
  properties : c'.node.properties = c.node.properties
  graphId : c'.graphId = c.graphId
  outputs : c'.outputs = c.outputs
  world : c'.world = c.world
  draws : c'.draws = c.draws

theorem builtin_alike (t : NodeType) {c c' : Call} (h : c.Alike c') : builtin t c' = builtin t c := by
  obtain ⟨⟨id, tag, declared, properties⟩, graphId, port, depth, outputs, world, draws⟩ := c
  obtain ⟨⟨id', tag', declared', properties'⟩, graphId', port', depth', outputs', world', draws'⟩ := c'
  obtain ⟨sameId, sameProperties, sameGraph, sameOutputs, sameWorld, sameDraws⟩ := h
  subst sameId sameProperties sameGraph sameOutputs sameWorld sameDraws
  cases t with
  | event t => rfl
  | condition t | action t | flow t | source t | dialogue t => cases t <;> rfl

def HostEvent.isDiagnostic : HostEvent → Bool
  | .diagnostic _ => true
  | _ => false

/-- The handler never tells the host of a fault. -/
def Handler.Discreet (h : Handler) : Prop := ∀ c, ∀ e ∈ (h c).notices, e.isDiagnostic = false

def Registry.Discreet (registry : Registry) : Prop := ∀ t h, registry t = some h → h.Discreet

theorem Registry.Discreet.of_handlerFor {registry : Registry} (discreet : registry.Discreet) {n : Node} {h : Handler}
    (hn : registry.handlerFor n = some h) : h.Discreet := by
  obtain ⟨t, -, found⟩ := Option.bind_eq_some_iff.1 hn
  exact discreet t h found

namespace HostEvent

def diagnostic? : HostEvent → Option String
  | .diagnostic text => some text
  | _ => none

theorem isSome_diagnostic? (e : HostEvent) : e.diagnostic?.isSome = e.isDiagnostic := by cases e <;> rfl

theorem diagnostics_eq (events : List HostEvent) : diagnostics events = events.filterMap diagnostic? := by
  rw [diagnostics]
  refine congrArg (fun f => events.filterMap f) (funext fun e => ?_)
  cases e <;> rfl

theorem diagnostics_append (first later : List HostEvent) :
    diagnostics (first ++ later) = diagnostics first ++ diagnostics later := List.filterMap_append

theorem length_diagnostics (events : List HostEvent) :
    (diagnostics events).length = events.countP isDiagnostic := by
  rw [diagnostics_eq, List.length_filterMap_eq_countP]
  simp only [isSome_diagnostic?]

theorem diagnostics_eq_nil_iff {events : List HostEvent} :
    diagnostics events = [] ↔ ∀ e ∈ events, e.isDiagnostic = false := by
  rw [diagnostics_eq, List.filterMap_eq_nil_iff]
  simp only [← isSome_diagnostic?, Option.isSome_eq_false_iff, Option.isNone_iff_eq_none]

end HostEvent

namespace Act

variable {c : Call}

def Discreet (a : Act) : Prop := ∀ e ∈ a.notices, e.isDiagnostic = false

theorem discreet_of_nil {a : Act} (silent : a.notices = []) : a.Discreet := by
  rw [Discreet, silent]
  exact fun _ h => absurd h List.not_mem_nil

theorem discreet_of_one {a : Act} {e : HostEvent} (one : a.notices = [e]) (h : e.isDiagnostic = false) :
    a.Discreet := by
  rw [Discreet, one]
  exact List.forall_mem_singleton.2 h

theorem discreet_of (t : ActionType) (c : Call) : (of t c).Discreet := by
  have idle : (idle c).Discreet := discreet_of_nil rfl
  cases t with
  | removeItem | startQuest | completeQuest | failQuest | advanceQuest | setFlag | clearFlag | setVariable
  | incrementVariable | removeModifier | setWeather =>
    exact withArg_induction idle fun _ => discreet_of_nil rfl
  | damagePlayer | healPlayer | addGold | addExperience | addScore =>
    exact withAmount_induction idle fun _ => discreet_of_nil rfl
  | setRoomDark | setRoomDescription => exact withRoom_induction idle fun _ => discreet_of_nil rfl
  | openDoor | closeDoor | lockDoor | unlockDoor | setDoorVisible =>
    exact withDoor_induction idle fun _ => discreet_of_nil rfl
  | setNpcHostile | killNpc => exact withNpc_induction idle fun _ => discreet_of_nil rfl
  | giveItem | setObjectVisible | setObjectDescription =>
    exact withObject_induction idle fun _ => discreet_of_nil rfl
  | endCombat | log => exact discreet_of_nil rfl
  | completeAdventure => exact discreet_of_one rfl rfl
  | showMessage | playSound => exact withArg_induction idle fun _ => discreet_of_one rfl rfl
  | teleportPlayer => exact withRoom_induction idle fun _ => discreet_of_one rfl rfl
  | startConversation | startTrade => exact withNpc_induction idle fun _ => discreet_of_one rfl rfl
  | setRoomMusic => exact withArg_induction idle fun _ => withRoom_induction idle fun _ => discreet_of_one rfl rfl
  | moveNpc => exact withNpc_induction idle fun _ => withRoom_induction idle fun _ => discreet_of_nil rfl
  | moveObject => exact withObject_induction idle fun _ => withRoom_induction idle fun _ => discreet_of_nil rfl
  | setQuestStage => exact withArg_induction idle fun _ => withAmount_induction idle fun _ => discreet_of_nil rfl
  | triggerEvent =>
    exact withArg_induction idle fun _ => withArg_induction idle fun _ => withArg_induction idle fun _ =>
      discreet_of_nil rfl
  | startCombat =>
    refine withNpc_induction idle fun n => ?_
    split
    · exact discreet_of_one rfl rfl
    · exact idle
  | healNpc =>
    refine withAmount_induction idle fun _ => withNpc_induction idle fun n => ?_
    split <;> exact discreet_of_nil rfl
  | damageNpc =>
    refine withAmount_induction idle fun _ => withNpc_induction idle fun n => ?_
    dsimp only
    split <;> exact discreet_of_nil rfl
  | removeGold =>
    refine withAmount_induction idle fun _ => ?_
    split <;> exact discreet_of_nil rfl
  | addModifier =>
    refine withArg_induction idle fun _ => withArg_induction idle fun _ => ?_
    split <;> exact discreet_of_nil rfl
  | advanceTime =>
    refine withAmount_induction idle fun _ => ?_
    split <;> exact discreet_of_nil rfl
  | consumeItem =>
    simp only [of, consumeItem]
    split
    · split <;> exact discreet_of_nil rfl
    · exact discreet_of_nil rfl
  | setProperty =>
    simp only [of, setProperty]
    split
    · exact idle
    · split <;> exact discreet_of_nil rfl

end Act

theorem Dialogue.discreet_act (t : DialogueType) (c : Call) : (act t c).Discreet := by
  have idle : (Act.idle c).Discreet := Act.discreet_of_nil rfl
  cases t with
  | say | narrate | playVoice => exact Act.withArg_induction idle fun _ => Act.discreet_of_one rfl rfl
  | setGreeting => exact Act.withNpc_induction idle fun _ => Act.discreet_of_nil rfl

theorem builtin_discreet (t : NodeType) : (builtin t).Discreet := by
  intro c
  cases t with
  | action t => exact Act.discreet_of t c
  | dialogue t => exact Dialogue.discreet_act t c
  | event t | condition t | flow t | source t => exact fun _ h => absurd h List.not_mem_nil

theorem Registry.IsBuiltin.discreet {registry : Registry} (builtins : registry.IsBuiltin) : registry.Discreet := by
  intro t h found
  rw [builtins t h found]
  exact builtin_discreet t

end StoryGraph
