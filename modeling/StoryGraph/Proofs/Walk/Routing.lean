import StoryGraph.Proofs.Walk.Budget

/-!
Which walks an event starts, and that they do not get in one another's way. Main statements: each graph that waits
for an event is walked once, in the order of the library, on the world that the walk before it has left, however
that walk ended; what a walk asks for is triggered in the same way one level deeper; and how a walk ends is up to
the nodes on its own way.
-/

namespace StoryGraph

namespace Graph

/-- The graph belongs to this owner, or to every owner of this type. -/
def Belongs (g : Graph) (ownerType ownerId : String) : Prop :=
  Text.fold g.ownerType = Text.fold ownerType ∧ (g.ownerId = "*" ∨ Text.fold g.ownerId = Text.fold ownerId)

/-- Some event node of the graph has this tag, around which white space does not count. -/
def Awaits (g : Graph) (tag : String) : Prop :=
  ∃ n ∈ g.nodes, n.category? = some .event ∧ Text.fold n.typeTag = Text.fold (Text.trim tag)

instance (g : Graph) (ownerType ownerId : String) : Decidable (g.Belongs ownerType ownerId) :=
  inferInstanceAs (Decidable (_ ∧ _))

instance (g : Graph) (tag : String) : Decidable (g.Awaits tag) :=
  inferInstanceAs (Decidable (∃ n ∈ g.nodes, _))

theorem isOwnedBy_iff {g : Graph} {ownerType ownerId : String} :
    g.isOwnedBy ownerType ownerId = true ↔ g.Belongs ownerType ownerId := by
  simp [isOwnedBy, Belongs, Text.sameName_iff]

theorem isSome_entryNode?_iff {g : Graph} {tag : String} : (g.entryNode? tag).isSome = true ↔ g.Awaits tag := by
  simp [entryNode?, entryNodes, Awaits, Node.isEvent, Text.sameName_iff]

end Graph

namespace Surroundings

/-- Graphs are walked one after the other, each from its entry, with no outputs, on what the one before it has left. -/
inductive InTurn (s : Surroundings) (depth : Nat) (tag : String) :
    List Graph → Run → List WalkReport → Run → Prop where
  | nil {r} : InTurn s depth tag [] r [] r
  | cons {g n rest r later r'} (entry : g.entryNode? tag = some n)
      (next : InTurn s depth tag rest (s.walk depth g n.id .empty r).2.run later r') :
      InTurn s depth tag (g :: rest) r ((s.walk depth g n.id .empty r).1 :: later) r'

variable {s : Surroundings} {depth : Nat} {tag : String} {graphs : List Graph} {r r' : Run} {walks : List WalkReport}

theorem InTurn.map_graphId (h : s.InTurn depth tag graphs r walks r') :
    walks.map WalkReport.graphId = graphs.map Graph.id := by
  induction h with
  | nil => rfl
  | cons _ _ ih => rw [List.map_cons, List.map_cons, ih]; rfl

/-- The entries of a library are those of the graphs that wait for the event. -/
theorem inTurn_walkAll (s : Surroundings) (depth : Nat) (tag : String) (l : Library) (r : Run) :
    let walked := Fanout.walkAll (s.conduct depth) (fun _ => .empty) (l.entriesForAnyOwner tag) r
    s.InTurn depth tag (l.filter fun g => g.Awaits tag) r walked.1 walked.2 := by
  induction l generalizing r with
  | nil => exact .nil
  | cons g rest ih =>
    simp only [Library.entriesForAnyOwner, List.filterMap_cons, List.filter_cons]
    cases entry : g.entryNode? tag with
    | none =>
      have silent : ¬ g.Awaits tag := by simp [← Graph.isSome_entryNode?_iff, entry]
      simp only [Option.map_none, silent, decide_false]
      exact ih r
    | some n =>
      have waits : g.Awaits tag := Graph.isSome_entryNode?_iff.1 (by rw [entry]; rfl)
      simp only [Option.map_some, waits, decide_true]
      exact .cons entry (ih _)

/-- A trigger walks these graphs, each once and in this order, and no others. -/
structure Routes (s : Surroundings) (depth : Nat) (tag : String) (graphs : List Graph) (r : Run)
    (answer : TriggerReport × Run) : Prop where
  event : answer.1.tag = tag
  ids : answer.1.walks.map WalkReport.graphId = graphs.map Graph.id
  inTurn : s.InTurn depth tag graphs r answer.1.walks answer.2

theorem routes_broadcast (s : Surroundings) (depth : Nat) (tag : String) (r : Run) :
    s.Routes depth tag (s.library.filter fun g => g.Awaits tag) r (s.broadcast depth tag r) := by
  have inTurn := s.inTurn_walkAll depth tag s.library r
  exact ⟨rfl, inTurn.map_graphId, inTurn⟩

theorem routes_trigger (s : Surroundings) (depth : Nat) (ownerType ownerId tag : String) (r : Run) :
    s.Routes depth tag (s.library.filter fun g => g.Belongs ownerType ownerId ∧ g.Awaits tag) r
      (s.trigger depth ownerType ownerId tag r) := by
  have inTurn := s.inTurn_walkAll depth tag (s.library.filter fun g => g.isOwnedBy ownerType ownerId) r
  have matching : (s.library.filter fun g => g.isOwnedBy ownerType ownerId).filter (fun g => g.Awaits tag) =
      s.library.filter fun g => g.Belongs ownerType ownerId ∧ g.Awaits tag := by
    rw [List.filter_filter]
    refine List.filter_congr fun g _ => ?_
    rw [Bool.eq_iff_iff]
    simp [Graph.isOwnedBy_iff, and_comm]
  rw [matching] at inTurn
  exact ⟨rfl, inTurn.map_graphId, inTurn⟩

/-- How a walk over a graph has an effect carried out: by a trigger one level deeper, as far as there is one. -/
def carry (s : Surroundings) (depth : Nat) (g : Graph) : Fire := fun effect r =>
  if depth + 1 ≤ s.settings.maxFanoutDepth then
    match effect with
    | .trigger ownerType ownerId tag =>
      let (report, r) := s.trigger (depth + 1) ownerType ownerId tag r
      (report.walks, r)
    | .changed c => s.announce (depth + 1) c r
  else ([], Fanout.drop s depth g r)

/-- The walks within a walk are those of triggers, of the same kind as the trigger that it belongs to. -/
theorem walk_eq_conduct (s : Surroundings) (depth : Nat) (g : Graph) (entry : String) (outputs : Outputs) (r : Run) :
    s.walk depth g entry outputs r = Walk.conduct s (s.carry depth g) g depth entry outputs r := by
  have fire : Fanout.fire s (s.settings.maxFanoutDepth - depth) depth g = s.carry depth g := by
    funext effect r
    rw [Fanout.fire_eq]
    cases effect <;> rfl
  rw [walk, fire]

end Surroundings

namespace Walk

variable {s : Surroundings} {F F' : Firing} {steps : Nat} {pending : List (List Node × Visit)} {w : Walk}
  {depth : Nat} {g : Graph} {stops : List Stop} {e : Ending}

/-- The same walk with other reports of the walks within it. -/
def withNested (w : Walk) (nested : List WalkReport) : Walk := { w with nested := nested }

/-- If the walks within a walk leave the same run behind, then whatever is told of them, the walk makes the same
stops and comes to the same ending. -/
theorem Course.withNested
    (carried : ∀ effects r reports r', F depth g effects r reports r' → ∃ reports', F' depth g effects r reports' r')
    (c : Course s F steps pending w depth g stops e) (nested : List WalkReport) :
    ∃ nested', Course s F' steps pending (w.withNested nested) depth g stops
      { e with walk := e.walk.withNested nested' } := by
  induction c generalizing nested with
  | done => exact ⟨nested, .done⟩
  | missing found _ ih =>
    obtain ⟨nested', later⟩ := ih carried nested
    exact ⟨nested', .missing found later⟩
  | cycle found trail => exact ⟨nested, .cycle found trail⟩
  | spent found trail limit => exact ⟨nested, .spent found trail limit⟩
  | bare found trail limit handler _ ih =>
    obtain ⟨nested', later⟩ := ih carried nested
    exact ⟨nested', .bare found trail limit handler later⟩
  | broke found trail limit handler result => exact ⟨nested, .broke found trail limit handler result⟩
  | halted found trail limit handler result effects ways =>
    obtain ⟨reports', effects⟩ := carried _ _ _ _ effects
    exact ⟨nested ++ reports', .halted found trail limit handler result effects ways⟩
  | went found trail limit handler result effects ways _ ih =>
    obtain ⟨reports', effects⟩ := carried _ _ _ _ effects
    obtain ⟨nested', later⟩ := ih carried (nested ++ reports')
    exact ⟨nested', .went found trail limit handler result effects ways later⟩

theorem run_fireAll {fire fire' : Fire} (same : ∀ effect r, (fire' effect r).2 = (fire effect r).2)
    (effects : List Effect) (r : Run) : (fireAll fire' effects r).2 = (fireAll fire effects r).2 := by
  induction effects generalizing r with
  | nil => rfl
  | cons effect rest ih => simp only [fireAll, ih, same]

/-- Two ways of carrying effects out that leave the same runs behind make for the same walk. -/
theorem conduct_withNested {fire fire' : Fire} (same : ∀ effect r, (fire' effect r).2 = (fire effect r).2)
    (entry : String) (outputs : Outputs) (r : Run) :
    ∃ reports, conduct s fire' g depth entry outputs r =
      (.mk g.id entry (conduct s fire g depth entry outputs r).1.status
          (conduct s fire g depth entry outputs r).1.steps reports,
        (conduct s fire g depth entry outputs r).2.withNested reports) := by
  let carries (fire : Fire) : Firing := fun _ _ effects r reports r' => fireAll fire effects r = (reports, r')
  let ends (fire : Fire) : Ending :=
    finish s s.registry.handlerFor fire g depth 0 [⟨entry, Port.exec, []⟩] { outputs := outputs, run := r }
  obtain ⟨stops, course⟩ : ∃ stops, Course s (carries fire) 0 [([], ⟨entry, Port.exec, []⟩)]
      { outputs := outputs, run := r } depth g stops (ends fire) := exists_course (fun _ _ => rfl) 0 _ _
  have carried : ∀ effects r reports r', carries fire depth g effects r reports r' →
      ∃ reports', carries fire' depth g effects r reports' r' := by
    intro effects r reports r' fired
    have run := run_fireAll same effects r
    rw [show fireAll fire effects r = (reports, r') from fired] at run
    exact ⟨(fireAll fire' effects r).1, Prod.ext rfl run⟩
  obtain ⟨reports, course'⟩ := course.withNested carried []
  have ending : ends fire' = { ends fire with walk := (ends fire).walk.withNested reports } :=
    course'.finish_eq fun _ _ _ _ fired => fired
  exact ⟨reports, congrArg (fun e : Ending => (WalkReport.mk g.id entry (Status.of e.fault) e.steps e.walk.nested,
    { e.walk with run := diagnose s g e.fault e.walk.run })) ending⟩

end Walk

namespace Surroundings

/-- How a walk ends is up to the nodes on its own way. -/
structure EndsByItself (s : Surroundings) (depth : Nat) (g : Graph) (entry : String) (outputs : Outputs) (r : Run) :
    Prop where
  /-- The first fault that the walk itself meets decides. -/
  status : ∃ stops e, s.Tour depth g entry outputs r stops e ∧ (s.walk depth g entry outputs r).1.status =
    Status.of (stops.findSome? fun t => t.arrival.fault? s.settings.maxWalkSteps)
  /-- The reports of the walks within it do not matter, as long as they leave the same run behind. -/
  nested : ∀ fire : Fire, (∀ effect r, (fire effect r).2 = (s.carry depth g effect r).2) →
    ∃ reports, Walk.conduct s fire g depth entry outputs r =
      (.mk g.id entry (s.walk depth g entry outputs r).1.status (s.walk depth g entry outputs r).1.steps reports,
        (s.walk depth g entry outputs r).2.withNested reports)

theorem endsByItself (s : Surroundings) (depth : Nat) (g : Graph) (entry : String) (outputs : Outputs) (r : Run) :
    s.EndsByItself depth g entry outputs r := by
  constructor
  case status =>
    obtain ⟨stops, e, tour, walk⟩ := s.exists_tour depth g entry outputs r
    refine ⟨stops, e, tour, ?_⟩
    rw [walk]
    exact congrArg Status.of tour.fault_eq
  case nested =>
    intro fire same
    rw [walk_eq_conduct]
    exact Walk.conduct_withNested same entry outputs r

/-- For every library, registry and world: a trigger walks exactly the graphs that wait for the event, one after the
other, whatever happens in them, and so does every trigger within a walk, as deep as walks may go. -/
theorem trigger_walks_matching (s : Surroundings) :
    (∀ depth ownerType ownerId tag r,
      s.Routes depth tag (s.library.filter fun g => g.Belongs ownerType ownerId ∧ g.Awaits tag) r
        (s.trigger depth ownerType ownerId tag r)) ∧
    (∀ depth tag r, s.Routes depth tag (s.library.filter fun g => g.Awaits tag) r (s.broadcast depth tag r)) ∧
    (∀ depth g entry outputs r,
      s.walk depth g entry outputs r = Walk.conduct s (s.carry depth g) g depth entry outputs r) ∧
    (∀ depth g entry outputs r, s.EndsByItself depth g entry outputs r) :=
  ⟨s.routes_trigger, s.routes_broadcast, s.walk_eq_conduct, s.endsByItself⟩

end Surroundings

end StoryGraph
