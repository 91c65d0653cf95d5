import StoryGraph.Proofs.Property.Entity
import StoryGraph.Proofs.Walk.Alone

/-!
What hosts and scripts can both do: write a property, and trigger an event. A host names what it means in texts, a
script in the settings of a node. Main statements: the node of a script does what the host does with the same texts,
the walks that follow included; but an event is triggered by no node if one of its texts is empty.
-/

namespace StoryGraph

theorem Bag.getText?_string {b : Bag} {key text : String} (found : b.find? key = some (.string text)) :
    b.getText? key = if Text.trim text = "" then none else some (Text.trim text) := by
  have read : (b.find? key).bind Value.toText? = some text := by rw [found]; rfl
  rw [getText?, read, Option.map_some, Option.filter_some]
  simp

/-- A node with the settings to write a value to a property. -/
structure Node.Writes (n : Node) (type id property : String) (v : Value) : Prop where
  kind : n.kind? = some (.action .setProperty)
  entityType : Bag.find? n.properties "EntityType" = some (.string type)
  entityId : Bag.find? n.properties "EntityId" = some (.string id)
  propertyName : Bag.find? n.properties "PropertyName" = some (.string property)
  value : Bag.getValue n.properties "Value" = v

/-- A node with the settings to trigger an event. -/
structure Node.Triggers (n : Node) (ownerType ownerId tag : String) : Prop where
  kind : n.kind? = some (.action .triggerEvent)
  ownerType : Bag.find? n.properties "OwnerType" = some (.string ownerType)
  ownerId : Bag.find? n.properties "OwnerId" = some (.string ownerId)
  eventTag : Bag.find? n.properties "EventTag" = some (.string tag)

namespace Call

variable {c : Call} {type id property : String} {v : Value}

theorem target?_eq {ofType ofId ofProperty : Option String} (named : c.arg "EntityType" = ofType)
    (identified : c.arg "EntityId" = ofId) (listed : c.arg "PropertyName" = ofProperty) :
    c.target? = (ofType.bind EntityType.ofName?).bind fun t =>
      if ofId.getD "" == "" && !t.isSingleton then none
      else ofProperty.map fun property => (t, ofId.getD "", property) := by
  rw [target?, named, identified, listed]
  cases ofType with
  | none => rfl
  | some type =>
    cases known : EntityType.ofName? type <;> cases ofProperty <;> simp [known]

theorem ofName?_arg (found : Bag.find? c.node.properties "EntityType" = some (.string type)) :
    (c.arg "EntityType").bind EntityType.ofName? = EntityType.ofName? type := by
  rw [arg, Bag.getText?_string found, ← EntityType.ofName?_trim type]
  split
  case isTrue blank => rw [blank, Option.bind_none]; decide
  case isFalse => rw [Option.bind_some]

theorem getD_arg {key text : String} (found : Bag.find? c.node.properties key = some (.string text)) :
    (c.arg key).getD "" = Text.trim text := by
  rw [arg, Bag.getText?_string found]
  split
  case isTrue blank => rw [Option.getD_none, blank]
  case isFalse => rw [Option.getD_some]

theorem target?_of_writes (writes : c.node.Writes type id property v) (trimmed : Text.trim id = id)
    (named : id = "" → ∀ t, EntityType.ofName? type = some t → t.isSingleton = true) :
    c.target? = (EntityType.ofName? type).bind fun t =>
      if Text.trim property = "" then none else some (t, id, Text.trim property) := by
  rw [target?_eq rfl rfl (Bag.getText?_string writes.propertyName), ofName?_arg writes.entityType,
    getD_arg writes.entityId, trimmed]
  cases known : EntityType.ofName? type with
  | none => rfl
  | some t =>
    have allowed : (id == "" && !t.isSingleton) = false := by
      rw [Bool.and_eq_false_iff, Bool.not_eq_false', beq_eq_false_iff_ne]
      exact (em (id = "")).symm.imp_right fun blank => named blank t known
    rw [Option.bind_some, Option.bind_some, allowed, if_neg Bool.false_ne_true]
    split <;> rfl

end Call

/-- What a node asks for once it has written. -/
def Outcome.effects : Outcome → List Effect
  | changed c => [.changed c]
  | unmatched | unchanged => []

namespace Act

variable {c : Call}

section SetProperty

variable {type id property : String} {v : Value} (writes : c.node.Writes type id property v)
  (trimmed : Text.trim id = id) (named : id = "" → ∀ t, EntityType.ofName? type = some t → t.isSingleton = true)
include writes trimmed named

theorem setProperty_of_unknown (unknown : EntityType.ofName? type = none) : setProperty c = { world := c.world } := by
  rw [setProperty, Call.target?_of_writes writes trimmed named, unknown, Option.bind_none]
  rfl

/-- A node writes as one does who leaves the white space around the property in place. -/
theorem setProperty_of_written {t : EntityType} (known : EntityType.ofName? type = some t) {w : World}
    {outcome : Outcome} (written : c.world.writeProperty t id property v = (w, outcome)) :
    setProperty c = { world := w, effects := outcome.effects } := by
  rw [setProperty, Call.target?_of_writes writes trimmed named, known, Option.bind_some]
  by_cases blank : Text.trim property = ""
  · rw [World.writeProperty_blank c.world t id v blank] at written
    cases written
    rw [if_pos blank]
    rfl
  · simp only [if_neg blank, World.writeProperty_trim, writes.value, written]
    cases outcome <;> rfl

end SetProperty

theorem triggerEvent_of_triggers {ownerType ownerId tag : String} (triggers : c.node.Triggers ownerType ownerId tag)
    (trimmed : Text.trim ownerType = ownerType ∧ Text.trim ownerId = ownerId ∧ Text.trim tag = tag) :
    triggerEvent c =
      if ownerType = "" ∨ ownerId = "" ∨ tag = "" then { world := c.world }
      else { world := c.world, effects := [.trigger ownerType ownerId tag] } := by
  obtain ⟨type, id, event⟩ := trimmed
  simp only [triggerEvent, withArg, Call.arg, Bag.getText?_string triggers.ownerType,
    Bag.getText?_string triggers.ownerId, Bag.getText?_string triggers.eventTag, type, id, event, idle]
  by_cases noType : ownerType = "" <;> by_cases noId : ownerId = "" <;> by_cases noTag : tag = "" <;>
    simp [noType, noId, noTag]

end Act

/-! A graph of the player, and two nodes that start it, each at another of its entries. -/

namespace Purse

def watch : Node where
  id := "watch"
  typeTag := "Event_OnPropertyChanged"
  properties := (Table.empty.insert "EntityType" (.string "Player")).insert "PropertyName" (.string "Gold")

def enter : Node := { id := "enter", typeTag := "Event_OnEnter" }

def graph (ownerId : String) : Graph where
  id := "purse"
  ownerType := "Player"
  ownerId := ownerId
  nodes := [watch, enter]
  connections := []

def engine (ownerId : String) : Surroundings :=
  { registry := .builtins, library := [graph ownerId], settings := { maxWalkSteps := 1, maxFanoutDepth := 1 },
    draws := .ofSeed 7 }

def run : Run := { world := {} }

def pay : Node where
  id := "pay"
  typeTag := "Action_SetProperty"
  properties := (((Table.empty.insert "EntityType" (.string "Player")).insert "EntityId" (.string "")).insert
    "PropertyName" (.string " Gold")).insert "Value" (.int 25)

def knock (ownerId : String) : Node where
  id := "knock"
  typeTag := "Action_TriggerEvent"
  properties := ((Table.empty.insert "OwnerType" (.string "Player")).insert "OwnerId" (.string ownerId)).insert
    "EventTag" (.string "Event_OnEnter")

def paid : Change := ⟨.player, "", "Gold", .int 0, .int 25⟩

variable {ownerId : String}

theorem kind_watch : watch.kind? = some (.event .onPropertyChanged) := by
  rw [Node.kind?, NodeType.ofTag?_eq]
  rfl

theorem kind_enter : enter.kind? = some (.event .onEnter) := by
  rw [Node.kind?, NodeType.ofTag?_eq]
  rfl

theorem kind_pay : pay.kind? = some (.action .setProperty) := by
  rw [Node.kind?, NodeType.ofTag?_eq]
  rfl

theorem kind_knock (ownerId : String) : (knock ownerId).kind? = some (.action .triggerEvent) := by
  have tag : NodeType.ofTag? "Action_TriggerEvent" = some (.action .triggerEvent) := by
    rw [NodeType.ofTag?_eq]
    rfl
  exact tag

theorem pay_writes : pay.Writes "Player" "" " Gold" (.int 25) :=
  ⟨kind_pay, rfl, rfl, rfl, rfl⟩

theorem knock_triggers : (knock "").Triggers "Player" "" "Event_OnEnter" ∧
    (knock "hero").Triggers "Player" "hero" "Event_OnEnter" :=
  ⟨⟨kind_knock _, rfl, rfl, rfl⟩,
    ⟨kind_knock _, rfl, rfl, rfl⟩⟩

def entering (ownerId : String) : Occasion := .event "Player" ownerId "Event_OnEnter"

/-- Both nodes of the graph are events. -/
theorem entryNodes_eq (tag : String) : (graph ownerId).entryNodes tag =
    [watch, enter].filter fun n => Text.sameName n.typeTag (Text.trim tag) := by
  have event {n : Node} {t : EventType} (kind : n.kind? = some (.event t)) : n.isEvent = true := by
    rw [Node.isEvent, Node.category?, kind]
    rfl
  simp only [Graph.entryNodes, graph, List.filter, event kind_watch, event kind_enter, Bool.true_and]

theorem entries_paid : (Occasion.change paid).entries (engine "").library = [⟨graph "", watch.id⟩] := by
  have listens : (((graph "").entryNodes (NodeType.event .onPropertyChanged).tag).find?
      (Library.listensTo paid)).map Node.id = some watch.id := by
    rw [entryNodes_eq]
    rfl
  obtain ⟨n, found, id⟩ := Option.map_eq_some_iff.1 listens
  simp [engine, Occasion.entries, Library.listeners, found, id]

theorem entryNode?_enter : ((graph ownerId).entryNode? "Event_OnEnter").map Node.id = some enter.id := by
  rw [Graph.entryNode?, entryNodes_eq]
  rfl

theorem entries_entering : (entering "").entries (engine "").library = [⟨graph "", enter.id⟩] ∧
    (entering "hero").entries (engine "*").library = [⟨graph "*", enter.id⟩] := by
  have owned : (graph "").isOwnedBy "Player" "" = true ∧ (graph "*").isOwnedBy "Player" "hero" = true := ⟨rfl, rfl⟩
  exact ⟨Library.entriesFor_single owned.1 entryNode?_enter, Library.entriesFor_single owned.2 entryNode?_enter⟩

theorem after_event (id : String) (trail : List String) (r : Run) :
    Walk.after (engine ownerId) (graph ownerId) id trail (.goOn Port.exec) r = (.ok [], r) := rfl

section Event

variable {n : Node} {t : EventType} (found : (graph ownerId).node? n.id = some n)
  (kind : n.kind? = some (.event t)) (depth : Nat) (outputs : Outputs) (r : Run)
include found kind

theorem arrive_event :
    (engine ownerId).arrive depth ⟨graph ownerId, n.id, outputs, r⟩ = (.mk "purse" n.id .completed 1 [], r) := by
  have arrived : (engine ownerId).arrive depth ⟨graph ownerId, n.id, outputs, r⟩ = _ :=
    (engine ownerId).arrive_of_course
      (.answered found List.not_mem_nil Nat.one_pos (Registry.handlerFor_builtins kind) rfl rfl (after_event n.id _ r) .done)
  exact arrived

theorem dropped_event : (engine ownerId).dropped depth ⟨graph ownerId, n.id, outputs, r⟩ = [] := by
  have requested : (engine ownerId).requests depth ⟨graph ownerId, n.id, outputs, r⟩ = _ :=
    Walk.requests_went found List.not_mem_nil Nat.one_pos (Registry.handlerFor_builtins kind) rfl rfl (after_event n.id _ _)
  rw [Surroundings.dropped_eq, requested, List.append_nil, Walk.requests_nil]
  rfl

/-- An occasion that meets one node starts one walk, which ends where it begins. -/
theorem start_event {o : Occasion} (entries : o.entries (engine ownerId).library = [⟨graph ownerId, n.id⟩]) :
    (engine ownerId).start depth o r = ([.mk "purse" n.id .completed 1 []], r) ∧
      (engine ownerId).drops depth o r = [] := by
  have walked (outputs : Outputs) : (engine ownerId).conduct depth (graph ownerId) n.id outputs r = _ :=
    arrive_event found kind depth outputs r
  constructor
  · rw [Surroundings.start_eq, entries, Fanout.walkAll, walked]
    rfl
  · rw [Surroundings.drops, Surroundings.setOut, entries, Surroundings.departures, List.flatMap_cons,
      dropped_event found kind]
    rfl

end Event

theorem pay_known : EntityType.ofName? "Player" = some .player := rfl

/-- The world in which the player has been paid. -/
def rich : World := (run.world.writeProperty .player "" " Gold" (.int 25)).1

theorem pay_written : run.world.writeProperty .player "" " Gold" (.int 25) = (rich, .changed paid) :=
  Prod.ext rfl (rfl)

theorem pay_plain : Text.trim "" = "" ∧
    ("" = "" → ∀ t, EntityType.ofName? "Player" = some t → t.isSingleton = true) := by
  refine ⟨rfl, fun _ t known => ?_⟩
  cases pay_known.symm.trans known
  rfl

theorem pay_asks :
    Act.of .setProperty ((engine "").callAlone pay run) = { world := rich, effects := [.changed paid] } := by
  have asks (c : Call) (node : c.node = pay) (world : c.world = run.world) :
      Act.setProperty c = { world := rich, effects := [.changed paid] } :=
    Act.setProperty_of_written (node ▸ pay_writes) pay_plain.1 pay_plain.2 pay_known (world ▸ pay_written)
  exact asks ((engine "").callAlone pay run) rfl rfl

theorem pay_spared : (engine "").dropped 0 (.alone pay run) = [] := by
  rw [Surroundings.dropped_asking rfl Nat.one_pos pay_writes.kind pay_asks, Surroundings.lost_eq (Nat.le_refl 1)]
  exact (start_event rfl kind_watch 1 _ entries_paid).2

theorem knock_plain (ownerId : String) (plain : Text.trim ownerId = ownerId) : Text.trim "Player" = "Player" ∧
    Text.trim ownerId = ownerId ∧ Text.trim "Event_OnEnter" = "Event_OnEnter" :=
  ⟨rfl, plain, rfl⟩

end Purse

namespace Surroundings

variable (s : Surroundings) {n : Node}

/-- A node that writes a property does what the host does that writes it. -/
theorem single_writes_as_host (registry : s.registry = .builtins) (room : 1 ≤ s.settings.maxWalkSteps)
    {type id property : String} {v : Value} (writes : n.Writes type id property v) (trimmed : Text.trim id = id)
    (named : id = "" → ∀ t, EntityType.ofName? type = some t → t.isSingleton = true) (r : Run)
    (spared : s.dropped 0 (.alone n r) = []) :
    (s.single n r).2 = (s.setProperty type id property v r).2 ∧
      match (s.setProperty type id property v r).1 with
      | .error _ => (s.single n r).1.nested = [] ∧ (s.single n r).2 = r
      | .ok update => (s.single n r).1.nested = update.walks ∧ (update.change = none → update.walks = []) := by
  cases known : EntityType.ofName? type with
  | none =>
    have act : Act.of .setProperty (s.callAlone n r) = _ := Act.setProperty_of_unknown writes trimmed named known
    rw [single_idle registry room writes.kind act, setProperty, known]
    exact ⟨rfl, rfl, rfl⟩
  | some t =>
    cases written : r.world.writeProperty t id property v with
    | mk w outcome =>
      have act : Act.of .setProperty (s.callAlone n r) = _ :=
        Act.setProperty_of_written writes trimmed named known written
      simp only [setProperty, known, written]
      cases outcome with
      | unmatched =>
        cases World.writeProperty_unmatched written
        rw [single_idle registry room writes.kind act]
        exact ⟨rfl, rfl, rfl⟩
      | unchanged =>
        rw [single_idle registry room writes.kind act]
        exact ⟨rfl, rfl, fun _ => rfl⟩
      | changed change =>
        rw [single_asking registry room writes.kind act spared]
        exact ⟨rfl, rfl, fun none => by cases none⟩

theorem single_writes_as_host_purse :
    let s := Purse.engine ""
    s.registry = .builtins ∧ 1 ≤ s.settings.maxWalkSteps ∧ Purse.pay.Writes "Player" "" " Gold" (.int 25) ∧
      Text.trim "" = "" ∧ ("" = "" → ∀ t, EntityType.ofName? "Player" = some t → t.isSingleton = true) ∧
      s.dropped 0 (.alone Purse.pay Purse.run) = [] ∧
      (s.single Purse.pay Purse.run).1.nested = [.mk "purse" "watch" .completed 1 []] ∧
      (s.single Purse.pay Purse.run).2 = (s.setProperty "Player" "" " Gold" (.int 25) Purse.run).2 ∧
      match (s.setProperty "Player" "" " Gold" (.int 25) Purse.run).1 with
      | .error _ => (s.single Purse.pay Purse.run).1.nested = [] ∧ (s.single Purse.pay Purse.run).2 = Purse.run
      | .ok update => (s.single Purse.pay Purse.run).1.nested = update.walks ∧
          (update.change = none → update.walks = []) := by
  intro s
  have room : 1 ≤ s.settings.maxWalkSteps := Nat.le_refl 1
  have watched : (s.single Purse.pay Purse.run).1.nested = [.mk "purse" "watch" .completed 1 []] := by
    rw [single_asking rfl room Purse.pay_writes.kind Purse.pay_asks Purse.pay_spared]
    exact congrArg Prod.fst (Purse.start_event rfl Purse.kind_watch 0 _ Purse.entries_paid).1
  exact ⟨rfl, room, Purse.pay_writes, Purse.pay_plain.1, Purse.pay_plain.2, Purse.pay_spared, watched,
    s.single_writes_as_host rfl room Purse.pay_writes Purse.pay_plain.1 Purse.pay_plain.2 Purse.run Purse.pay_spared⟩

/-- A node that triggers an event does what the host does that triggers it, unless a text is empty: then it does
nothing. -/
theorem single_triggers_as_host (registry : s.registry = .builtins) (room : 1 ≤ s.settings.maxWalkSteps)
    {ownerType ownerId tag : String} (triggers : n.Triggers ownerType ownerId tag)
    (trimmed : Text.trim ownerType = ownerType ∧ Text.trim ownerId = ownerId ∧ Text.trim tag = tag) (r : Run)
    (spared : s.dropped 0 (.alone n r) = []) :
    (ownerType ≠ "" → ownerId ≠ "" → tag ≠ "" →
      (s.single n r).1.nested = (s.trigger 0 ownerType ownerId tag r).1.walks ∧
        (s.single n r).2 = (s.trigger 0 ownerType ownerId tag r).2) ∧
    (ownerType = "" ∨ ownerId = "" ∨ tag = "" → (s.single n r).1.nested = [] ∧ (s.single n r).2 = r) := by
  have act := Act.triggerEvent_of_triggers (c := s.callAlone n r) triggers trimmed
  constructor
  · intro type id event
    rw [if_neg (by simp only [type, id, event, or_self, not_false_iff])] at act
    rw [single_asking registry room triggers.kind act spared]
    exact ⟨rfl, rfl⟩
  · intro missing
    rw [if_pos missing] at act
    rw [single_idle registry room triggers.kind act]
    exact ⟨rfl, rfl⟩

theorem single_triggers_as_host_purse :
    let s := Purse.engine "*"
    let n := Purse.knock "hero"
    s.registry = .builtins ∧ 1 ≤ s.settings.maxWalkSteps ∧ n.Triggers "Player" "hero" "Event_OnEnter" ∧
      (Text.trim "Player" = "Player" ∧ Text.trim "hero" = "hero" ∧ Text.trim "Event_OnEnter" = "Event_OnEnter") ∧
      s.dropped 0 (.alone n Purse.run) = [] ∧
      (s.single n Purse.run).1.nested = [.mk "purse" "enter" .completed 1 []] ∧
      (s.single n Purse.run).1.nested = (s.trigger 0 "Player" "hero" "Event_OnEnter" Purse.run).1.walks ∧
      (s.single n Purse.run).2 = (s.trigger 0 "Player" "hero" "Event_OnEnter" Purse.run).2 := by
  intro s n
  have room : 1 ≤ s.settings.maxWalkSteps := Nat.le_refl 1
  have triggers : n.Triggers "Player" "hero" "Event_OnEnter" := Purse.knock_triggers.2
  have trimmed := Purse.knock_plain "hero" (rfl)
  have act := Act.triggerEvent_of_triggers (c := s.callAlone n Purse.run) triggers trimmed
  rw [if_neg (by decide)] at act
  have started (depth : Nat) : s.start depth (Purse.entering "hero") Purse.run = _ ∧ _ :=
    Purse.start_event rfl Purse.kind_enter depth Purse.run Purse.entries_entering.2
  have spared : s.dropped 0 (.alone n Purse.run) = [] := by
    rw [dropped_asking rfl room triggers.kind act, lost_eq (Nat.le_refl 1)]
    exact (started 1).2
  have entered : (s.single n Purse.run).1.nested = [.mk "purse" "enter" .completed 1 []] := by
    rw [single_asking rfl room triggers.kind act spared]
    exact congrArg Prod.fst (started 0).1
  exact ⟨rfl, room, triggers, trimmed, spared, entered,
    (s.single_triggers_as_host rfl room triggers trimmed Purse.run spared).1 (by decide) (by decide) (by decide)⟩

/-- A host can trigger an event of the player, who has no id, a node cannot. -/
theorem nameless_not_triggered :
    let s := Purse.engine ""
    let n := Purse.knock ""
    s.registry = .builtins ∧ 1 ≤ s.settings.maxWalkSteps ∧ n.Triggers "Player" "" "Event_OnEnter" ∧
      (Text.trim "Player" = "Player" ∧ Text.trim "" = "" ∧ Text.trim "Event_OnEnter" = "Event_OnEnter") ∧
      s.dropped 0 (.alone n Purse.run) = [] ∧ s.drops 0 (.event "Player" "" "Event_OnEnter") Purse.run = [] ∧
      (s.single n Purse.run).1.nested = [] ∧
      (s.trigger 0 "Player" "" "Event_OnEnter" Purse.run).1.walks = [.mk "purse" "enter" .completed 1 []] := by
  intro s n
  have room : 1 ≤ s.settings.maxWalkSteps := Nat.le_refl 1
  have triggers : n.Triggers "Player" "" "Event_OnEnter" := Purse.knock_triggers.1
  have trimmed := Purse.knock_plain "" (rfl)
  have act := Act.triggerEvent_of_triggers (c := s.callAlone n Purse.run) triggers trimmed
  rw [if_pos (.inr (.inl rfl))] at act
  have started := Purse.start_event rfl Purse.kind_enter 0 Purse.run Purse.entries_entering.1
  have alone : (s.single n Purse.run).1.nested = [] := by
    rw [single_idle rfl room triggers.kind act]
    rfl
  exact ⟨rfl, room, triggers, trimmed, dropped_idle rfl room triggers.kind act, started.2, alone,
    congrArg Prod.fst started.1⟩

end Surroundings

end StoryGraph
