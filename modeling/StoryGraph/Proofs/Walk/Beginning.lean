import StoryGraph.Graph.Document
import StoryGraph.Proofs.Graph.Entry
import StoryGraph.Proofs.Walk.Alone
import StoryGraph.Proofs.Walk.Routing

/-!
Where walks begin. In a graph that is started, the first node is chosen that waits for what has happened, but the walk
is only given the id of this node. Main statement: a walk begins at the first declared node of that id. This is the
chosen node, unless a node before it has the same id, which is found as an error of the graph.
-/

namespace StoryGraph

namespace Occasion

/-- The graphs that an occasion is meant for. -/
def MeantFor : Occasion → Graph → Prop
  | event ownerType ownerId _, g => g.Belongs ownerType ownerId
  | broadcast _, _ | change _, _ => True

/-- The nodes that wait for it. -/
def Awaited : Occasion → Node → Prop
  | event _ _ tag | broadcast tag => Node.AwaitsEvent tag
  | change c => Node.ListensFor c

theorem mem_chosen (part : Library) {node? : Graph → Option Node} {P : Node → Prop} {e : Entry}
    (chosen : ∀ g n, node? g = some n ↔ ∃ before, g.First P before n) :
    (e ∈ part.filterMap fun g => (node? g).map fun n => ⟨g, n.id⟩) ↔
      e.graph ∈ part ∧ ∃ before n, e.graph.First P before n ∧ n.id = e.node := by
  constructor
  · intro mem
    obtain ⟨g, listed, named⟩ := List.mem_filterMap.1 mem
    obtain ⟨n, found, rfl⟩ := Option.map_eq_some_iff.1 named
    obtain ⟨before, first⟩ := (chosen g n).1 found
    exact ⟨listed, before, n, first, rfl⟩
  · rintro ⟨listed, before, n, first, id⟩
    have found := (chosen e.graph n).2 ⟨before, first⟩
    exact List.mem_filterMap.2 ⟨e.graph, listed, by rw [found, Option.map_some, id]⟩

/-- The entries are the ids of the first nodes that wait. -/
theorem mem_entries {o : Occasion} {l : Library} {e : Entry} : e ∈ o.entries l ↔
    e.graph ∈ l ∧ o.MeantFor e.graph ∧ ∃ before n, e.graph.First o.Awaited before n ∧ n.id = e.node := by
  cases o with
  | event ownerType ownerId tag =>
    have chosen : e ∈ Library.entriesFor l ownerType ownerId tag ↔ _ :=
      mem_chosen (l.filter fun g => g.isOwnedBy ownerType ownerId) fun _ _ => Graph.entryNode?_eq_some_iff
    rw [List.mem_filter, Graph.isOwnedBy_iff, and_assoc] at chosen
    exact chosen
  | broadcast tag =>
    have chosen : e ∈ Library.entriesForAnyOwner l tag ↔ _ := mem_chosen l fun _ _ => Graph.entryNode?_eq_some_iff
    exact chosen.trans (and_congr_right fun _ => (iff_of_eq (true_and _)).symm)
  | change c =>
    have chosen : e ∈ Library.listeners l c ↔ _ := mem_chosen l fun _ _ => Graph.listener?_eq_some_iff
    exact chosen.trans (and_congr_right fun _ => (iff_of_eq (true_and _)).symm)

end Occasion

/-- A walk that makes these stops comes to this node first, and calls its handler first, if it has one and there is a
step left for it. -/
structure BeginsAt (s : Surroundings) (m : Node) (stops : List Stop) : Prop where
  first : ∃ t later, stops = t :: later ∧ t.arrival.node? = some m
  called : (called stops).head? =
    if (s.registry.handlerFor m).isSome ∧ 0 < s.settings.maxWalkSteps then some m else none

theorem Walk.Course.beginsAt {s : Surroundings} {F : Firing} {entry port : String} {w : Walk} {depth : Nat} {g : Graph}
    {stops : List Stop} {e : Ending} {m : Node} (found : g.node? entry = some m)
    (c : Course s F 0 [([], ⟨entry, port, []⟩)] w depth g stops e) : BeginsAt s m stops := by
  cases c with
  | missing found' => cases found.symm.trans found'
  | cycle _ trail => cases trail
  | spent found' _ limit =>
    cases found.symm.trans found'
    exact ⟨⟨_, _, rfl, rfl⟩, (if_neg fun ready => absurd ready.2 (Nat.not_lt.2 limit)).symm⟩
  | bare found' _ _ handler next =>
    cases found.symm.trans found'
    cases next
    exact ⟨⟨_, _, rfl, rfl⟩, (if_neg (by simp [handler])).symm⟩
  | broke found' _ limit handler | halted found' _ limit handler | went found' _ limit handler =>
    cases found.symm.trans found'
    exact ⟨⟨_, _, rfl, rfl⟩, (if_pos ⟨by rw [handler]; rfl, limit⟩).symm⟩

namespace Surroundings

variable {s : Surroundings} {depth : Nat}

theorem mem_departures {seed : Entry → Outputs} {entries : List Entry} {r : Run} {d : Departure}
    (mem : d ∈ s.departures depth seed entries r) : ⟨d.graph, d.entry⟩ ∈ entries := by
  induction entries generalizing r with
  | nil => cases mem
  | cons e rest ih =>
    cases List.mem_cons.1 mem with
    | inl here =>
      rw [here]
      exact List.mem_cons_self
    | inr later => exact List.mem_cons_of_mem e (ih later)

/-- A walk over a graph that an occasion is meant for: the node `n` is chosen there, behind the nodes `before`, and
the walk begins at the node `m`. -/
structure SetsOut (s : Surroundings) (depth : Nat) (o : Occasion) (d : Departure) (before : List Node) (n m : Node) :
    Prop where
  listed : d.graph ∈ s.library
  meant : o.MeantFor d.graph
  chosen : d.graph.First o.Awaited before n
  entry : d.entry = n.id
  named : ∃ earlier, d.graph.First (fun x => Text.fold x.id = Text.fold n.id) earlier m
  same : m = n ↔ ∀ x ∈ before, Text.fold x.id ≠ Text.fold n.id
  sound : ∀ handled, d.graph.isValid handled = true → m = n
  begins : ∃ stops e, s.Tour depth d.graph d.entry d.outputs d.run stops e ∧
    s.walk depth d.graph d.entry d.outputs d.run = Walk.conclude s d.graph d.entry e ∧ BeginsAt s m stops

theorem exists_setsOut {o : Occasion} {r : Run} {d : Departure} (mem : d ∈ s.setOut depth o r) :
    ∃ before n m, s.SetsOut depth o d before n m := by
  obtain ⟨listed, meant, before, n, chosen, id⟩ := Occasion.mem_entries.1 (mem_departures mem)
  obtain ⟨after, split⟩ := chosen.split
  have declared : (d.graph.node? n.id).isSome = true :=
    Graph.isSome_node?.2 (List.mem_map_of_mem (by rw [split]; exact List.mem_append_cons_self))
  obtain ⟨m, found⟩ := Option.isSome_iff_exists.1 declared
  have same := chosen.named_iff found
  obtain ⟨stops, e, tour, walk⟩ := s.exists_tour depth d.graph d.entry d.outputs d.run
  have entered : d.graph.node? d.entry = some m := by
    rw [← found, id]
  exact ⟨before, n, m, listed, meant, chosen, id.symm, Graph.node?_eq_some_iff.1 found, same,
    fun handled valid => same.2 (Graph.ids_distinct_of_isValid valid split),
    stops, e, tour, walk, Walk.Course.beginsAt entered tour⟩

/-- Whatever starts walks, from outside or within a walk, each begins at the node that the id of the chosen node
names. -/
theorem walks_begin_as_named (s : Surroundings) :
    (∀ depth o r, (s.start depth o r).1 = (s.setOut depth o r).map (fun d => (s.arrive depth d).1) ∧
      ∀ d ∈ s.setOut depth o r, ∃ before n m, s.SetsOut depth o d before n m) ∧
    ∀ depth g effect r, depth + 1 ≤ s.settings.maxFanoutDepth →
      Fanout.fire s (s.settings.maxFanoutDepth - depth) depth g effect r =
        s.start (depth + 1) effect.occasion r := by
  refine ⟨fun depth o r => ⟨s.start_fst depth o r, fun d mem => exists_setsOut mem⟩, ?_⟩
  intro depth g effect r limit
  rw [Fanout.fire_eq, if_pos limit, Fanout.entries_eq, Fanout.seed_eq, ← start_eq]

end Surroundings

/-! A graph with an id that is given twice. -/

namespace Hall

def creak : Node where
  id := "Door"
  typeTag := "Action_ShowMessage"
  properties := Table.empty.insert "Text" (.string "The door creaks.")

def enter : Node := { id := "door", typeTag := "Event_OnEnter" }

def graph : Graph where
  id := "hall"
  ownerType := "Room"
  ownerId := "hall"
  nodes := [creak, enter]
  connections := []

def document : Json :=
  .obj [("id", .str "hall"), ("ownerType", .str "Room"), ("ownerId", .str "hall"),
    ("nodes", .arr [
      .obj [("id", .str "Door"), ("type", .str "Action_ShowMessage"),
        ("properties", .obj [("Text", .str "The door creaks.")])],
      .obj [("id", .str "door"), ("type", .str "Event_OnEnter")]])]

def engine : Surroundings :=
  { registry := .builtins, library := [graph], settings := {}, draws := .ofSeed 7 }

theorem kind_creak : creak.kind? = some (.action .showMessage) := by
  rw [Node.kind?, NodeType.ofTag?_eq]
  rfl

theorem chosen : graph.First (Node.AwaitsEvent "Event_OnEnter") [creak] enter := by
  have kind : enter.kind? = some (.event .onEnter) := NodeType.ofTag?_eq_some_event_iff.2 (by decide)
  have waits : enter.AwaitsEvent "Event_OnEnter" := ⟨by rw [Node.category?, kind]; rfl, by decide⟩
  have busy : ¬ creak.AwaitsEvent "Event_OnEnter" := fun awaits => by
    have category := awaits.1
    rw [Node.category?, kind_creak] at category
    cases category
  exact ⟨⟨[], rfl⟩, waits, List.forall_mem_singleton.2 busy⟩

theorem setOut_enter (r : Run) :
    engine.setOut 0 (.event "Room" "hall" "Event_OnEnter") r = [⟨graph, enter.id, .empty, r⟩] := by
  have entered : (graph.entryNode? "Event_OnEnter").map Node.id = some enter.id := by
    rw [Graph.entryNode?_eq_some_iff.2 ⟨_, chosen⟩]
    rfl
  have entries : (Occasion.event "Room" "hall" "Event_OnEnter").entries engine.library = [⟨graph, enter.id⟩] :=
    Library.entriesFor_single rfl entered
  rw [Surroundings.setOut, entries]
  rfl

end Hall

namespace Surroundings

theorem walks_begin_as_named_hall :
    let s := Hall.engine
    let o : Occasion := .event "Room" "hall" "Event_OnEnter"
    let r : Run := { world := {} }
    let d : Departure := ⟨Hall.graph, Hall.enter.id, .empty, r⟩
    d ∈ s.setOut 0 o r ∧ (∃ before n m, s.SetsOut 0 o d before n m) ∧ 0 + 1 ≤ s.settings.maxFanoutDepth ∧
      Fanout.fire s (s.settings.maxFanoutDepth - 0) 0 Hall.graph (.trigger "Room" "hall" "Event_OnEnter") r =
        s.start 1 o r := by
  intro s o r d
  have mem : d ∈ s.setOut 0 o r := by
    rw [Hall.setOut_enter]
    exact List.mem_singleton_self d
  obtain ⟨begins, within⟩ := walks_begin_as_named s
  exact ⟨mem, (begins 0 o r).2 d mem, by decide, within 0 Hall.graph _ r (by decide)⟩

/-- The event of the graph is chosen, but the walk calls the handler of the action. -/
theorem walk_begins_elsewhere :
    let s := Hall.engine
    let r : Run := { world := {} }
    Graph.ofJson? Hall.document = some Hall.graph ∧
      Hall.graph.First (Node.AwaitsEvent "Event_OnEnter") [Hall.creak] Hall.enter ∧
      s.setOut 0 (.event "Room" "hall" "Event_OnEnter") r = [⟨Hall.graph, Hall.enter.id, .empty, r⟩] ∧
      ∃ stops e, s.Tour 0 Hall.graph Hall.enter.id .empty r stops e ∧
        s.walk 0 Hall.graph Hall.enter.id .empty r = Walk.conclude s Hall.graph Hall.enter.id e ∧
        (called stops).head? = some Hall.creak ∧ Hall.creak.id ≠ Hall.enter.id := by
  intro s r
  have read : Graph.ofJson? Hall.document = some Hall.graph := by rfl
  obtain ⟨stops, e, tour, walk⟩ := s.exists_tour 0 Hall.graph Hall.enter.id .empty r
  have named : Hall.graph.node? Hall.enter.id = some Hall.creak := rfl
  have begins := Walk.Course.beginsAt named tour
  have handled : (s.registry.handlerFor Hall.creak).isSome = true := by
    rw [show s.registry.handlerFor Hall.creak = _ from Registry.handlerFor_builtins Hall.kind_creak]
    rfl
  have ready : (called stops).head? = some Hall.creak := begins.called.trans (if_pos ⟨handled, by decide⟩)
  exact ⟨read, Hall.chosen, Hall.setOut_enter r, stops, e, tour, walk, ready, by decide⟩

end Surroundings

end StoryGraph
