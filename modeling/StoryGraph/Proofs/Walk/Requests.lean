import StoryGraph.Proofs.Walk.Levels

/-!
What walks ask for on their way. Each effect that a walk asks for starts further walks, or is dropped below the
deepest level. Main statements: the walks within a walk are those that it asks for, in order; and what is dropped
is told for each walk apart.
-/

namespace StoryGraph

/-- An effect that a walk asks for, and the run in which it is carried out. -/
structure Request where
  effect : Effect
  run : Run

/-- Effects are carried out as `fire` says. -/
def Firing.of (fire : Fire) : Firing := fun _ _ effects r reports r' => Walk.fireAll fire effects r = (reports, r')

namespace Walk

def asked (fire : Fire) : List Effect → Run → List Request
  | [], _ => []
  | effect :: rest, r => ⟨effect, r⟩ :: asked fire rest (fire effect r).2

def askedBy (fire : Fire) (a : Response) (w : Walk) : List Request :=
  match a.result with
  | .error _ => []
  | .ok out => asked fire out.effects (w.run.absorb a)

/-- What a walk asks for from its pending visits on, as `finish` goes through them. -/
def requests (s : Surroundings) (handlerFor : Node → Option Handler) (fire : Fire) (g : Graph) (depth : Nat)
    (steps : Nat) (pending : List Visit) (w : Walk) : List Request :=
  match pending with
  | [] => []
  | v :: rest =>
    match g.node? v.node with
    | none => requests s handlerFor fire g depth steps rest w
    | some n =>
      if v.trail.contains (Text.fold n.id) then []
      else if s.settings.maxWalkSteps ≤ steps then []
      else
        match handlerFor n with
        | none => requests s handlerFor fire g depth (steps + 1) rest w
        | some h =>
          let here := askedBy fire (h (w.call s g depth n v)) w
          let (result, w) := execute s fire g depth h n v w
          match result with
          | .error _ => here
          | .ok visits => here ++ requests s handlerFor fire g depth (steps + 1) (visits ++ rest) w
termination_by (s.settings.maxWalkSteps - steps, pending.length)
decreasing_by
  · apply Prod.Lex.right
    exact Nat.lt_succ_self _
  · apply Prod.Lex.left
    omega
  · apply Prod.Lex.left
    omega

theorem fireAll_fst (fire : Fire) (effects : List Effect) (r : Run) :
    (fireAll fire effects r).1 = (asked fire effects r).flatMap fun q => (fire q.effect q.run).1 := by
  induction effects generalizing r with
  | nil => rfl
  | cons effect rest ih => simp only [fireAll, asked, List.flatMap_cons, ih]

/-! What a walk asks for, along its course. -/

section Course

variable {s : Surroundings} {fire : Fire} {F : Firing} {g : Graph} {depth steps : Nat} {v : Visit} {rest : List Visit}
  {w : Walk} {n : Node} {h : Handler} {out : Output}

theorem requests_nil : requests s s.registry.handlerFor fire g depth steps [] w = [] := by rw [requests]

theorem requests_missing (found : g.node? v.node = none) :
    requests s s.registry.handlerFor fire g depth steps (v :: rest) w =
      requests s s.registry.handlerFor fire g depth steps rest w := by
  rw [requests]
  simp only [found]

theorem requests_cycle (found : g.node? v.node = some n) (trail : Text.fold n.id ∈ v.trail) :
    requests s s.registry.handlerFor fire g depth steps (v :: rest) w = [] := by
  rw [requests]
  simp [found, trail]

theorem requests_spent (found : g.node? v.node = some n) (limit : s.settings.maxWalkSteps ≤ steps) :
    requests s s.registry.handlerFor fire g depth steps (v :: rest) w = [] := by
  rw [requests]
  simp [found, limit]

theorem requests_bare (found : g.node? v.node = some n) (trail : Text.fold n.id ∉ v.trail)
    (limit : steps < s.settings.maxWalkSteps) (handler : s.registry.handlerFor n = none) :
    requests s s.registry.handlerFor fire g depth steps (v :: rest) w =
      requests s s.registry.handlerFor fire g depth (steps + 1) rest w := by
  rw [requests]
  simp [found, trail, Nat.not_le.2 limit, handler]

theorem requests_broke {message : String} (found : g.node? v.node = some n) (trail : Text.fold n.id ∉ v.trail)
    (limit : steps < s.settings.maxWalkSteps) (handler : s.registry.handlerFor n = some h)
    (result : (h (w.call s g depth n v)).result = .error message) :
    requests s s.registry.handlerFor fire g depth steps (v :: rest) w = [] := by
  rw [requests]
  simp [found, trail, Nat.not_le.2 limit, handler, execute_error result, askedBy, result]

theorem requests_halted {reports : List WalkReport} {r r' : Run} {fault : Fault} (found : g.node? v.node = some n)
    (trail : Text.fold n.id ∉ v.trail) (limit : steps < s.settings.maxWalkSteps)
    (handler : s.registry.handlerFor n = some h) (result : (h (w.call s g depth n v)).result = .ok out)
    (effects : fireAll fire out.effects (w.run.absorb (h (w.call s g depth n v))) = (reports, r))
    (ways : after s g n.id (Text.fold n.id :: v.trail) out.next r = (.error fault, r')) :
    requests s s.registry.handlerFor fire g depth steps (v :: rest) w =
      asked fire out.effects (w.run.absorb (h (w.call s g depth n v))) := by
  rw [requests]
  simp [found, trail, Nat.not_le.2 limit, handler, execute_ok result, askedBy, result, effects, ways]

theorem requests_went {reports : List WalkReport} {r r' : Run} {visits : List Visit}
    (found : g.node? v.node = some n) (trail : Text.fold n.id ∉ v.trail) (limit : steps < s.settings.maxWalkSteps)
    (handler : s.registry.handlerFor n = some h) (result : (h (w.call s g depth n v)).result = .ok out)
    (effects : fireAll fire out.effects (w.run.absorb (h (w.call s g depth n v))) = (reports, r))
    (ways : after s g n.id (Text.fold n.id :: v.trail) out.next r = (.ok visits, r')) :
    requests s s.registry.handlerFor fire g depth steps (v :: rest) w =
      asked fire out.effects (w.run.absorb (h (w.call s g depth n v))) ++
        requests s s.registry.handlerFor fire g depth (steps + 1) (visits ++ rest) (w.served n v out reports r') := by
  rw [requests]
  simp [found, trail, Nat.not_le.2 limit, handler, execute_ok result, askedBy, result, effects, ways]

/-! Nodes that leave the world as it is, tell nothing and go on. -/

theorem absorb_answered {a : Response} (r : Run) (answer : a = { world := r.world, result := .ok out }) :
    r.absorb a = r := by
  simp [Run.absorb, answer]

theorem Course.answered {chain : List Node} {pending : List (List Node × Visit)} {reports : List WalkReport}
    {r r' : Run} {visits : List Visit} {stops : List Stop} {e : Ending} (found : g.node? v.node = some n)
    (trail : Text.fold n.id ∉ v.trail) (limit : steps < s.settings.maxWalkSteps)
    (handler : s.registry.handlerFor n = some h)
    (answer : h (w.call s g depth n v) = { world := w.run.world, result := .ok out })
    (effects : fireAll fire out.effects w.run = (reports, r))
    (ways : after s g n.id (Text.fold n.id :: v.trail) out.next r = (.ok visits, r'))
    (next : Course s (Firing.of fire) (steps + 1) (extend chain n visits ++ pending) (w.served n v out reports r')
      depth g stops e) :
    Course s (Firing.of fire) steps ((chain, v) :: pending) w depth g (⟨chain, v, .ran n none⟩ :: stops) e := by
  have fired : Firing.of fire depth g out.effects (w.run.absorb (h (w.call s g depth n v))) reports r := by
    rw [absorb_answered w.run answer]
    exact effects
  exact .went found trail limit handler (by rw [answer]) fired ways next

/-- The walks within a walk are those that it asks for. -/
theorem Course.nested_eq {pending : List (List Node × Visit)} {stops : List Stop} {e : Ending}
    (c : Course s (Firing.of fire) steps pending w depth g stops e) :
    e.walk.nested = w.nested ++
      (requests s s.registry.handlerFor fire g depth steps (pending.map Prod.snd) w).flatMap
        fun q => (fire q.effect q.run).1 := by
  induction c with
  | done => rw [List.map_nil, requests_nil, List.flatMap_nil, List.append_nil]
  | missing found _ ih => rw [ih, List.map_cons, requests_missing found]
  | cycle found trail => rw [List.map_cons, requests_cycle found trail, List.flatMap_nil, List.append_nil]
  | spent found _ limit => rw [List.map_cons, requests_spent found limit, List.flatMap_nil, List.append_nil]
  | bare found trail limit handler _ ih => rw [ih, List.map_cons, requests_bare found trail limit handler]
  | broke found trail limit handler result =>
    rw [List.map_cons, requests_broke found trail limit handler result, List.flatMap_nil, List.append_nil]
    rfl
  | halted found trail limit handler result effects ways =>
    rw [List.map_cons, requests_halted found trail limit handler result effects ways, ← fireAll_fst, effects]
    rfl
  | went found trail limit handler result effects ways _ ih =>
    rw [ih, List.map_append, map_snd_extend, List.map_cons,
      requests_went found trail limit handler result effects ways, List.flatMap_append, ← fireAll_fst, effects,
      ← List.append_assoc]
    rfl

end Course

end Walk

theorem Library.entriesFor_single {g : Graph} {type id tag entry : String} (owned : g.isOwnedBy type id = true)
    (found : (g.entryNode? tag).map Node.id = some entry) : entriesFor [g] type id tag = [⟨g, entry⟩] := by
  obtain ⟨n, awaits, rfl⟩ := Option.map_eq_some_iff.1 found
  simp [entriesFor, owned, awaits]

structure Departure where
  graph : Graph
  entry : String
  outputs : Outputs
  run : Run

/-- An effect that is dropped: the graph whose walk asked for it, and how deep its walks would have been. -/
structure Drop where
  graphId : String
  depth : Nat
  effect : Effect

namespace Drop

/-- What the host is told, under a limit of depth. -/
def message (d : Drop) (limit : Nat) : String :=
  "graph '" ++ d.graphId ++ "': nested trigger dropped at depth " ++ toString d.depth ++ " (limit " ++
    toString limit ++ ")"

end Drop

namespace Surroundings

variable (s : Surroundings)

def requests (depth : Nat) (d : Departure) : List Request :=
  Walk.requests s s.registry.handlerFor (Fanout.fire s (s.settings.maxFanoutDepth - depth) depth d.graph) d.graph
    depth 0 [⟨d.entry, Port.exec, []⟩] { outputs := d.outputs, run := d.run }

def departures (depth : Nat) (seed : Entry → Outputs) : List Entry → Run → List Departure
  | [], _ => []
  | e :: rest, r =>
    ⟨e.graph, e.node, seed e, r⟩ :: departures depth seed rest (s.conduct depth e.graph e.node (seed e) r).2

/-- The walks that an effect starts at some depth. -/
def started (depth : Nat) (q : Request) : List Departure :=
  s.departures depth (Fanout.seed q.effect) (Fanout.entries s.library q.effect) q.run

/-- The effects that are dropped of those that a walk asks for, and of those that the walks within it ask for. -/
def dropped (depth : Nat) (d : Departure) : List Drop :=
  if depth + 1 ≤ s.settings.maxFanoutDepth then
    (s.requests depth d).flatMap fun q => (s.started (depth + 1) q).flatMap fun below => dropped (depth + 1) below
  else (s.requests depth d).map fun q => ⟨d.graph.id, depth + 1, q.effect⟩
termination_by s.settings.maxFanoutDepth - depth

/-- What is dropped on account of one effect that a walk over a graph asks for. -/
def lost (depth : Nat) (g : Graph) (q : Request) : List Drop :=
  if depth + 1 ≤ s.settings.maxFanoutDepth then (s.started (depth + 1) q).flatMap (s.dropped (depth + 1))
  else [⟨g.id, depth + 1, q.effect⟩]

theorem dropped_eq (depth : Nat) (d : Departure) :
    s.dropped depth d = (s.requests depth d).flatMap (s.lost depth d.graph) := by
  rw [dropped]
  split
  case isTrue limit => exact congrArg (s.requests depth d).flatMap (funext fun q => by rw [lost, if_pos limit])
  case isFalse limit =>
    rw [List.map_eq_flatMap]
    exact congrArg (s.requests depth d).flatMap (funext fun q => by rw [lost, if_neg limit])

/-- The walks that start from outside. -/
def setOut (depth : Nat) (o : Occasion) (r : Run) : List Departure :=
  s.departures depth o.seed (o.entries s.library) r

def drops (depth : Nat) (o : Occasion) (r : Run) : List Drop := (s.setOut depth o r).flatMap (s.dropped depth)

/-- What a walk comes to: its report, and the run after it. -/
def arrive (depth : Nat) (d : Departure) : WalkReport × Run := s.conduct depth d.graph d.entry d.outputs d.run

theorem exists_course (depth : Nat) (d : Departure) : ∃ stops e,
    Walk.Course s (Firing.of (Fanout.fire s (s.settings.maxFanoutDepth - depth) depth d.graph)) 0
      [([], ⟨d.entry, Port.exec, []⟩)] { outputs := d.outputs, run := d.run } depth d.graph stops e ∧
    s.arrive depth d =
      ((Walk.conclude s d.graph d.entry e).1, (Walk.conclude s d.graph d.entry e).2.run) := by
  obtain ⟨stops, course⟩ := Walk.exists_course (F := Firing.of _) (fun _ _ => rfl) 0
    [([], ⟨d.entry, Port.exec, []⟩)] { outputs := d.outputs, run := d.run }
  exact ⟨stops, _, course, rfl⟩

theorem arrive_of_course {depth : Nat} {d : Departure} {stops : List Stop} {e : Ending}
    (c : Walk.Course s (Firing.of (Fanout.fire s (s.settings.maxFanoutDepth - depth) depth d.graph)) 0
      [([], ⟨d.entry, Port.exec, []⟩)] { outputs := d.outputs, run := d.run } depth d.graph stops e) :
    s.arrive depth d = ((Walk.conclude s d.graph d.entry e).1, (Walk.conclude s d.graph d.entry e).2.run) := by
  have ending := c.finish_eq fun _ _ _ _ fired => fired
  rw [List.map_singleton] at ending
  simp only [arrive, conduct, walk, Walk.conduct, ending, Walk.conclude]

theorem nested_arrive (depth : Nat) (d : Departure) : (s.arrive depth d).1.nested =
    (s.requests depth d).flatMap
      fun q => (Fanout.fire s (s.settings.maxFanoutDepth - depth) depth d.graph q.effect q.run).1 := by
  obtain ⟨stops, e, course, arrived⟩ := s.exists_course depth d
  rw [arrived]
  exact course.nested_eq

theorem walkAll_fst (depth : Nat) (seed : Entry → Outputs) (entries : List Entry) (r : Run) :
    (Fanout.walkAll (s.conduct depth) seed entries r).1 =
      (s.departures depth seed entries r).map fun d => (s.arrive depth d).1 := by
  induction entries generalizing r with
  | nil => rfl
  | cons e rest ih => simp only [Fanout.walkAll, departures, List.map_cons, ih, arrive]

theorem start_fst (depth : Nat) (o : Occasion) (r : Run) :
    (s.start depth o r).1 = (s.setOut depth o r).map fun d => (s.arrive depth d).1 := by
  rw [start_eq, walkAll_fst, setOut]

/-- Within the limit of depth an effect starts its walks. -/
theorem fire_started {depth : Nat} (limit : depth + 1 ≤ s.settings.maxFanoutDepth) (g : Graph) (q : Request) :
    (Fanout.fire s (s.settings.maxFanoutDepth - depth) depth g q.effect q.run).1 =
      (s.started (depth + 1) q).map fun d => (s.arrive (depth + 1) d).1 := by
  rw [Fanout.fire_eq, if_pos limit, walkAll_fst, started]

end Surroundings

end StoryGraph
