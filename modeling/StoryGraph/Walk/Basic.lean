import StoryGraph.Walk.Run

/-!
A walk over one graph. It holds the visits that are still to be made, next one first; a node that is
visited puts the visits that follow from it in front. Each visit carries the nodes that led to it, so
a walk never comes back to where it is; the count of steps is one for all branches.
-/

namespace StoryGraph

/-- A node to visit, the port to enter it by, and the lowered ids of the nodes that led to it. -/
structure Visit where
  node : String
  port : String
  trail : List String
deriving DecidableEq, Repr

/-- How the walks are run that a node asks for. -/
abbrev Fire := Effect → Run → List WalkReport × Run

/-- What a walk has come to between two visits. -/
structure Walk where
  outputs : Outputs := .empty
  /-- The port by which the last node was entered. -/
  inputPort : String := Port.exec
  nested : List WalkReport := []
  run : Run

/-- A walk at its end. -/
structure Ending where
  fault : Option Fault
  /-- How many nodes were entered, and one more if the walk had no step left for the next. -/
  steps : Nat
  walk : Walk

namespace Walk

/-- Runs effects one after the other and collects the reports. -/
def fireAll (fire : Fire) : List Effect → Run → List WalkReport × Run
  | [], r => ([], r)
  | e :: rest, r =>
    let (reports, r) := fire e r
    let (later, r) := fireAll fire rest r
    (reports ++ later, r)

/-- Keeps the values that a node put out. -/
def keep (node : String) (values : Table String Value) (o : Outputs) : Outputs :=
  values.entries.foldl (fun o e => o.put node e.1 e.2) o

/-- The visits that follow from leaving a node by some ports. -/
def follow (g : Graph) (node : String) (trail : List String) (ports : List String) : List Visit :=
  ports.filterMap fun port => (g.connectionFrom? node port).map fun c => ⟨c.toNode, c.toPort, trail⟩

/-- Where a walk goes after a node: a fault, or the visits that follow. -/
def after (s : Surroundings) (g : Graph) (node : String) (trail : List String) (next : Next) (r : Run) :
    Except Fault (List Visit) × Run :=
  match next with
  | .goOn port => (.ok (follow g node trail [port]), r)
  | .stop => (.ok [], r)
  | .fork ports => (.ok (follow g node trail ports), r)
  | .wait pause =>
    match r.pause s (s.timer pause.nanos) with
    | (some fault, r) => (.error fault, r)
    | (none, r) => (.ok (follow g node trail [pause.port]), r)
  | .fail message => (.error (.failed node message), r)

/-- Calls a handler, keeps its values, and runs the walks that it asks for. -/
def execute (s : Surroundings) (fire : Fire) (g : Graph) (depth : Nat) (h : Handler) (n : Node) (v : Visit)
    (w : Walk) : Except Fault (List Visit) × Walk :=
  let response := h {
    node := n, graphId := g.id, inputPort := v.port, depth := depth, outputs := w.outputs,
    world := w.run.world, draws := s.draws.skip w.run.drawn }
  let r := w.run.absorb response
  match response.result with
  | .error message => (.error (.panicked n.id message), { w with inputPort := v.port, run := r })
  | .ok out =>
    let (reports, r) := fireAll fire out.effects r
    let (result, r) := after s g n.id (Text.fold n.id :: v.trail) out.next r
    (result, { w with
      outputs := keep n.id out.values w.outputs, inputPort := v.port, nested := w.nested ++ reports,
      run := r })

/-- Makes the pending visits until none is left or the walk ends early. A node that is missing or has no
handler ends its branch. -/
def finish (s : Surroundings) (handlerFor : Node → Option Handler) (fire : Fire) (g : Graph) (depth : Nat)
    (steps : Nat) (pending : List Visit) (w : Walk) : Ending :=
  match pending with
  | [] => ⟨none, steps, w⟩
  | v :: rest =>
    match g.node? v.node with
    | none => finish s handlerFor fire g depth steps rest w
    | some n =>
      if v.trail.contains (Text.fold n.id) then ⟨some (.cycle n.id), steps, w⟩
      else if s.settings.maxWalkSteps ≤ steps then
        ⟨some (.stepLimit s.settings.maxWalkSteps), steps + 1, w⟩
      else
        match handlerFor n with
        | none => finish s handlerFor fire g depth (steps + 1) rest w
        | some h =>
          let (result, w) := execute s fire g depth h n v w
          match result with
          | .error fault => ⟨some fault, steps + 1, w⟩
          | .ok visits => finish s handlerFor fire g depth (steps + 1) (visits ++ rest) w
termination_by (s.settings.maxWalkSteps - steps, pending.length)
decreasing_by
  · apply Prod.Lex.right
    exact Nat.lt_succ_self _
  · apply Prod.Lex.left
    omega
  · apply Prod.Lex.left
    omega

/-- Tells the host why a walk ended early. Cancelled walks are not told. -/
def diagnose (s : Surroundings) (g : Graph) (fault : Option Fault) (r : Run) : Run :=
  match fault with
  | none => r
  | some .cancelled => r
  | some f => r.diagnose s.settings ("graph '" ++ g.id ++ "': " ++ f.message)

/-- A whole walk: its report, and what it has come to. -/
def conduct (s : Surroundings) (fire : Fire) (g : Graph) (depth : Nat) (entry : String) (outputs : Outputs)
    (r : Run) : WalkReport × Walk :=
  let e := finish s s.registry.handlerFor fire g depth 0 [⟨entry, Port.exec, []⟩] { outputs := outputs, run := r }
  (.mk g.id entry (Status.of e.fault) e.steps e.walk.nested,
    { e.walk with run := diagnose s g e.fault e.walk.run })

end Walk

end StoryGraph
