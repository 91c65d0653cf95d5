import StoryGraph.Walk.Basic

/-!
Triggers: which walks an event starts, one after the other on the same world. A walk may ask for
further triggers, which run one level deeper; below the deepest level they are dropped.
-/

namespace StoryGraph

namespace Fanout

/-- Walks one entry: the report, and the run after it. -/
abbrev Conduct := Graph → String → Outputs → Run → WalkReport × Run

/-- Walks entries in order, each with the outputs that `seed` gives it. -/
def walkAll (conduct : Conduct) (seed : Entry → Outputs) : List Entry → Run → List WalkReport × Run
  | [], r => ([], r)
  | e :: rest, r =>
    let (report, r) := conduct e.graph e.node (seed e) r
    let (later, r) := walkAll conduct seed rest r
    (report :: later, r)

/-- What a walk that waits for a change finds under its entry node. -/
def announce (c : Change) (e : Entry) : Outputs :=
  ((Outputs.put .empty e.node Port.entityId (.string c.entityId)).put e.node Port.oldValue
    c.oldValue).put e.node Port.newValue c.newValue

/-- The walks that an effect starts. -/
def walksOf (s : Surroundings) (conduct : Conduct) : Effect → Run → List WalkReport × Run
  | .changed c, r => walkAll conduct (announce c) (s.library.listeners c) r
  | .trigger ownerType ownerId tag, r =>
    walkAll conduct (fun _ => .empty) (s.library.entriesFor ownerType ownerId tag) r

/-- Runs what a walk over `g` at some depth asks for, with `levels` levels left below it. -/
def fire (s : Surroundings) : (levels : Nat) → (depth : Nat) → Graph → Fire
  | 0, depth, g, _, r =>
    ([], r.diagnose s.settings ("graph '" ++ g.id ++ "': nested trigger dropped at depth " ++
      toString (depth + 1) ++ " (limit " ++ toString s.settings.maxFanoutDepth ++ ")"))
  | levels + 1, depth, _, e, r =>
    walksOf s (fun g entry outputs r =>
      let (report, w) := Walk.conduct s (fire s levels (depth + 1) g) g (depth + 1) entry outputs r
      (report, w.run)) e r

end Fanout

namespace Surroundings

/-- A walk at some depth, with the walks that it asks for: its report, and its state at the end. -/
def walk (s : Surroundings) (depth : Nat) (g : Graph) (entry : String) (outputs : Outputs) (r : Run) :
    WalkReport × Walk :=
  Walk.conduct s (Fanout.fire s (s.settings.maxFanoutDepth - depth) depth g) g depth entry outputs r

/-- A walk of which only the report and the run are kept. -/
def conduct (s : Surroundings) (depth : Nat) : Fanout.Conduct := fun g entry outputs r =>
  let (report, w) := s.walk depth g entry outputs r
  (report, w.run)

/-- Starts the graphs of an owner that wait for an event. -/
def trigger (s : Surroundings) (depth : Nat) (ownerType ownerId tag : String) (r : Run) :
    TriggerReport × Run :=
  let (walks, r) :=
    Fanout.walkAll (s.conduct depth) (fun _ => .empty) (s.library.entriesFor ownerType ownerId tag) r
  (⟨tag, walks⟩, r)

/-- Starts all graphs that wait for an event. -/
def broadcast (s : Surroundings) (depth : Nat) (tag : String) (r : Run) : TriggerReport × Run :=
  let (walks, r) :=
    Fanout.walkAll (s.conduct depth) (fun _ => .empty) (s.library.entriesForAnyOwner tag) r
  (⟨tag, walks⟩, r)

/-- Starts the graphs that wait for a change. -/
def announce (s : Surroundings) (depth : Nat) (c : Change) (r : Run) : List WalkReport × Run :=
  Fanout.walkAll (s.conduct depth) (Fanout.announce c) (s.library.listeners c) r

/-- Runs one node as a graph of its own. -/
def single (s : Surroundings) (n : Node) (r : Run) : WalkReport × Run :=
  s.conduct 0 (Graph.single n) n.id .empty r

end Surroundings

end StoryGraph
