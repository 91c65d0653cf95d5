import StoryGraph.Proofs.NodeType.Tags
import StoryGraph.Proofs.Walk.Problems
import StoryGraph.Proofs.Walk.Tandem

/-!
The settings of an engine and what they decide. The limits on steps and on depth are guards: they end walks and drop
triggers, and nothing else looks at them. Main statement: where no limit is met, higher ones change nothing; and
whether the host hears of faults changes what the host hears, and nothing else.
-/

namespace StoryGraph

/-- The same run, but without the diagnostics that the host was sent after some first events. -/
structure Run.Muted (first : List (Nat × HostEvent)) (r r' : Run) : Prop where
  world : r'.world = r.world
  now : r'.now = r.now
  pauses : r'.pauses = r.pauses
  drawn : r'.drawn = r.drawn
  logs : r'.logs = r.logs
  events : ∃ sent, r.events = first ++ sent ∧ r'.events = first ++ sent.filter fun e => !e.2.isDiagnostic

namespace Run.Muted

variable {first : List (Nat × HostEvent)} {r r' : Run}

theorem refl (r : Run) : r.Muted r.events r := ⟨rfl, rfl, rfl, rfl, rfl, [], by simp⟩

theorem absorb (h : r.Muted first r') {a : Response} (discreet : ∀ e ∈ a.notices, e.isDiagnostic = false) :
    (r.absorb a).Muted first (r'.absorb a) where
  world := rfl
  now := h.now
  pauses := h.pauses
  drawn := congrArg (· + a.drawn) h.drawn
  logs := by rw [Run.absorb, Run.absorb, h.logs, h.now]
  events := by
    obtain ⟨sent, all, kept⟩ := h.events
    have told : ((a.notices.map fun e => (r.now, e)).filter fun e => !e.2.isDiagnostic) =
        a.notices.map fun e => (r.now, e) := by
      refine List.filter_eq_self.2 fun e mem => ?_
      obtain ⟨notice, given, rfl⟩ := List.mem_map.1 mem
      rw [discreet notice given]
      rfl
    refine ⟨sent ++ a.notices.map fun e => (r.now, e), ?_, ?_⟩
    · rw [Run.absorb, all, List.append_assoc]
    · rw [Run.absorb, kept, h.now, List.filter_append, told, List.append_assoc]

theorem wake (h : r.Muted first r') (millis : Nat) : (r.wake millis).Muted first (r'.wake millis) where
  world := h.world
  now := congrArg (· + millis) h.now
  pauses := congrArg (· + 1) h.pauses
  drawn := h.drawn
  logs := h.logs
  events := h.events

theorem pause (h : r.Muted first r') {s s' : Surroundings} (told : s'.shutdownAt = s.shutdownAt) (millis : Nat) :
    (r'.pause s' millis).1 = (r.pause s millis).1 ∧ (r.pause s millis).2.Muted first (r'.pause s' millis).2 := by
  simp only [Run.pause, told]
  cases s.shutdownAt with
  | none => exact ⟨rfl, h.wake millis⟩
  | some m =>
    have within : m.ComesWithin millis r' ↔ m.ComesWithin millis r := by
      simp only [Moment.ComesWithin, h.now, h.pauses]
    simp only [within]
    split
    · exact ⟨rfl, h.world, by rw [h.now], h.pauses, h.drawn, h.logs, h.events⟩
    · exact ⟨rfl, h.wake millis⟩

theorem told (h : r.Muted first r') (text : String) :
    (r.notify (.diagnostic text)).Muted first r' := by
  obtain ⟨sent, all, kept⟩ := h.events
  refine ⟨h.world, h.now, h.pauses, h.drawn, h.logs, sent ++ [(r.now, .diagnostic text)], ?_, ?_⟩
  · rw [notify, all, List.append_assoc]
  · rw [kept, List.filter_append]
    simp [HostEvent.isDiagnostic]

theorem exists_filter (h : r.Muted first r') : ∃ sent, r.events = first ++ sent ∧
    r' = { r with events := first ++ sent.filter fun e => !e.2.isDiagnostic } := by
  obtain ⟨world, now, pauses, drawn, logs, sent, all, kept⟩ := h
  refine ⟨sent, all, ?_⟩
  rw [← world, ← now, ← pauses, ← drawn, ← logs, ← kept]

end Run.Muted

namespace Surroundings

variable (s : Surroundings)

def under (t : Settings) : Surroundings := { s with settings := t }

/-- The same engine, and whether its host hears of faults. -/
def reporting (b : Bool) : Surroundings := s.under { s.settings with reportDiagnostics := b }

/-- The same engine with higher limits, on the very same run. -/
theorem tandem_raised {t : Settings} (steps : s.settings.maxWalkSteps ≤ t.maxWalkSteps)
    (levels : s.settings.maxFanoutDepth ≤ t.maxFanoutDepth)
    (reports : t.reportDiagnostics = s.settings.reportDiagnostics) : Tandem s (s.under t) Eq where
  registry := rfl
  timer := rfl
  draws := rfl
  library := .refl s.library
  steps := steps
  levels := levels
  world same := by rw [same]
  drawn same := by rw [same]
  absorb same t c := by rw [same]
  pause same millis := by
    subst same
    exact ⟨rfl, rfl⟩
  told same text := by
    subst same
    simp only [Run.diagnose, under, reports]

/-- The same engine with its host informed of faults and not. -/
theorem tandem_muted (first : List (Nat × HostEvent)) :
    Tandem (s.reporting true) (s.reporting false) (Run.Muted first) where
  registry := rfl
  timer := rfl
  draws := rfl
  library := .refl s.library
  steps := Nat.le_refl _
  levels := Nat.le_refl _
  world h := h.world
  drawn h := h.drawn
  absorb h t c := h.absorb (builtin_discreet t c)
  pause h millis := h.pause rfl millis
  told h text := h.told text

theorem spares_of_start {s' : Surroundings} {depth : Nat} {o : Occasion} {r : Run}
    (steps : ∀ x ∈ WalkReport.allOf (s.start depth o r).1,
      x.status ≠ .aborted (Fault.stepLimit s.settings.maxWalkSteps).message)
    (levels : s.drops depth o r = []) : ∀ d ∈ s.setOut depth o r, s.Spares s' depth depth d := by
  intro d mem
  refine ⟨.inr fun x hx => steps x ?_, .inr (List.flatMap_eq_nil_iff.1 levels d mem)⟩
  rw [start_fst]
  exact WalkReport.mem_allOf.2 ⟨_, List.mem_map_of_mem mem, hx⟩

end Surroundings

/-! A trigger that takes all the steps and levels that it is given, and needs no more. -/

namespace Relay

def start : Node := { id := "start", typeTag := "Event_OnGameStart" }

def last : Node := { id := "last", typeTag := "Event_OnEnter" }

def pass : Node where
  id := "pass"
  typeTag := "Action_TriggerEvent"
  properties := ((Table.empty.insert "OwnerType" (.string "Game")).insert "OwnerId" (.string "g")).insert
    "EventTag" (.string "Event_OnEnter")

/-- From the start the graph starts itself once more, at its last node. -/
def graph : Graph where
  id := "relay"
  ownerType := "Game"
  ownerId := "*"
  nodes := [start, last, pass]
  connections := [⟨"start", "Exec", "pass", "Exec"⟩]

def engine : Surroundings :=
  { registry := .builtins, library := [graph], settings := { maxWalkSteps := 2, maxFanoutDepth := 1 },
    draws := .ofSeed 7 }

def run : Run := { world := {} }

def inner : WalkReport := .mk "relay" "last" .completed 1 []

def outer : WalkReport := .mk "relay" "start" .completed 2 [inner]

theorem kinds : start.kind? = some (.event .onGameStart) ∧ last.kind? = some (.event .onEnter) ∧
    pass.kind? = some (.action .triggerEvent) := by
  simp only [Node.kind?, NodeType.ofTag?_eq]
  decide

theorem entries : engine.library.entriesFor "Game" "g" "Event_OnGameStart" = [⟨graph, "start"⟩] ∧
    engine.library.entriesFor "Game" "g" "Event_OnEnter" = [⟨graph, "last"⟩] := by
  have owned : graph.isOwnedBy "Game" "g" = true := by decide
  have awaits : (graph.entryNode? "Event_OnGameStart").map Node.id = some "start" ∧
      (graph.entryNode? "Event_OnEnter").map Node.id = some "last" := by decide +kernel
  exact ⟨Library.entriesFor_single owned awaits.1, Library.entriesFor_single owned awaits.2⟩

theorem ways :
    Walk.follow graph start.id [Text.fold start.id] [Port.exec] = [⟨"pass", "Exec", [Text.fold start.id]⟩] ∧
      Walk.follow graph pass.id [Text.fold pass.id, Text.fold start.id] [Port.exec] = [] ∧
      Walk.follow graph last.id [Text.fold last.id] [Port.exec] = [] := by
  decide

theorem handlerFor_eq {n : Node} {t : NodeType} (kind : n.kind? = some t) :
    engine.registry.handlerFor n = some (builtin t) := by
  rw [Registry.handlerFor, kind]
  rfl

theorem after_eq {g : Graph} {node : String} {trail : List String} {visits : List Visit}
    (ways : Walk.follow g node trail [Port.exec] = visits) :
    Walk.after engine g node trail (.goOn Port.exec) run = (.ok visits, run) :=
  congrArg (fun l => (Except.ok l, run)) ways

theorem arrive_last : engine.arrive 1 ⟨graph, "last", .empty, run⟩ = (inner, run) := by
  have found : graph.node? "last" = some last := rfl
  have room : 0 < engine.settings.maxWalkSteps := by decide
  have handler := handlerFor_eq kinds.2.1
  have gone : Walk.after engine graph last.id [Text.fold last.id] (.goOn Port.exec) run = (.ok [], run) :=
    after_eq ways.2.2
  have arrived : engine.arrive 1 ⟨graph, "last", .empty, run⟩ = _ :=
    engine.arrive_of_course (.answered found List.not_mem_nil room handler rfl rfl gone .done)
  exact arrived

theorem fireAll_pass :
    Walk.fireAll (Fanout.fire engine (engine.settings.maxFanoutDepth - 0) 0 graph)
      [.trigger "Game" "g" "Event_OnEnter"] run = ([inner], run) := by
  have walked : engine.conduct 1 graph "last" .empty run = (inner, run) := arrive_last
  rw [Walk.fireAll, Fanout.fire_eq, if_pos (by decide), Fanout.entries, entries.2, Fanout.walkAll, Fanout.seed, walked]
  rfl

theorem arrive_start : engine.arrive 0 ⟨graph, "start", .empty, run⟩ = (outer, run) := by
  have found : graph.node? "start" = some start := rfl
  have later : graph.node? "pass" = some pass := rfl
  have room : 0 < engine.settings.maxWalkSteps := by decide
  have more : 1 < engine.settings.maxWalkSteps := by decide
  have new : Text.fold pass.id ∉ [Text.fold start.id] := by decide
  have handler := handlerFor_eq kinds.1
  have handler' := handlerFor_eq kinds.2.2
  have gone : Walk.after engine graph start.id [Text.fold start.id] (.goOn Port.exec) run =
      (.ok [⟨"pass", "Exec", [Text.fold start.id]⟩], run) := after_eq ways.1
  have gone' : Walk.after engine graph pass.id [Text.fold pass.id, Text.fold start.id] (.goOn Port.exec) run =
      (.ok [], run) := after_eq ways.2.1
  have arrived : engine.arrive 0 ⟨graph, "start", .empty, run⟩ = _ :=
    engine.arrive_of_course (.answered found List.not_mem_nil room handler rfl rfl gone
      (.answered later new more handler' rfl fireAll_pass gone' .done))
  exact arrived

theorem started : engine.start 0 (.event "Game" "g" "Event_OnGameStart") run = ([outer], run) := by
  have walked : engine.conduct 0 graph "start" .empty run = (outer, run) := arrive_start
  rw [Surroundings.start_eq, Occasion.entries, entries.1, Fanout.walkAll]
  simp only [Occasion.seed, walked]
  rfl

end Relay

namespace Surroundings

/-- The limits are pure guards, and diagnostics are only told. -/
theorem limits_only_guard (s : Surroundings) (builtins : s.registry.IsBuiltin) (depth : Nat) (o : Occasion) (r : Run) :
    (∀ t : Settings, s.settings.maxWalkSteps ≤ t.maxWalkSteps → s.settings.maxFanoutDepth ≤ t.maxFanoutDepth →
      t.reportDiagnostics = s.settings.reportDiagnostics →
      (∀ x ∈ WalkReport.allOf (s.start depth o r).1,
        x.status ≠ .aborted (Fault.stepLimit s.settings.maxWalkSteps).message) →
      s.drops depth o r = [] → (s.under t).start depth o r = s.start depth o r) ∧
    ∃ sent, ((s.reporting true).start depth o r).2.events = r.events ++ sent ∧
      (s.reporting false).start depth o r = (((s.reporting true).start depth o r).1,
        { ((s.reporting true).start depth o r).2 with
          events := r.events ++ sent.filter fun e => !e.2.isDiagnostic }) := by
  constructor
  · intro t steps levels reports within spared
    have same := start_alike (s.tandem_raised steps levels reports) builtins depth (.refl o) (Eq.refl r)
      (s.spares_of_start within spared)
    exact Prod.ext same.result same.run.symm
  · have same := start_alike (s.tandem_muted r.events) builtins depth (.refl o) (.refl r)
      fun _ _ => ⟨.inl rfl, .inl rfl⟩
    exact same.run.exists_filter.imp fun sent h => ⟨h.1, Prod.ext same.result h.2⟩

theorem limits_only_guard_relay :
    let s := Relay.engine
    let o : Occasion := .event "Game" "g" "Event_OnGameStart"
    s.registry.IsBuiltin ∧
      (WalkReport.allOf (s.start 0 o Relay.run).1).length = 2 ∧
      (∀ x ∈ WalkReport.allOf (s.start 0 o Relay.run).1,
        x.status ≠ .aborted (Fault.stepLimit s.settings.maxWalkSteps).message) ∧
      s.drops 0 o Relay.run = [] ∧
      (s.under {}).start 0 o Relay.run = s.start 0 o Relay.run := by
  intro s o
  have builtins : s.registry.IsBuiltin := Registry.isBuiltin_builtins
  have started : s.start 0 o Relay.run = ([Relay.outer], Relay.run) := Relay.started
  have within : ∀ x ∈ WalkReport.allOf (s.start 0 o Relay.run).1,
      x.status ≠ .aborted (Fault.stepLimit s.settings.maxWalkSteps).message := by
    rw [started]
    simp [WalkReport.allOf, WalkReport.all, Relay.outer, Relay.inner, WalkReport.status]
  have spared : s.drops 0 o Relay.run = [] := by
    have none := troubles_eq_nil builtins.discreet rfl (congrArg (fun p => p.2.events) started)
    exact List.map_eq_nil_iff.1 (List.append_eq_nil_iff.1 none).2
  refine ⟨builtins, by rw [started]; rfl, within, spared, ?_⟩
  exact (s.limits_only_guard builtins 0 o Relay.run).1 {} (by decide) (by decide) rfl within spared

end Surroundings

end StoryGraph
