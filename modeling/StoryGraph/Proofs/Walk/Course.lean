import StoryGraph.Walk.Fanout

/-!
The course of a walk, as rules: which visits it makes, in order, what it finds there and how it ends.
The rules have no measure, and they leave open how effects are carried out. Main statement: the
recursion of `finish` follows a course, and every course comes to what it computes.
-/

namespace StoryGraph

/-- What a walk finds where a visit leads. -/
inductive Arrival where
  | missing
  /-- The walk has come from this node. -/
  | cycle (n : Node)
  /-- No step is left for this node. -/
  | spent (n : Node)
  /-- The node has no handler. -/
  | bare (n : Node)
  | ran (n : Node) (fault : Option Fault)

namespace Arrival

/-- The node that the walk was about to enter. -/
def node? : Arrival → Option Node
  | missing => none
  | cycle n | spent n | bare n | ran n _ => some n

def called? : Arrival → Option Node
  | ran n _ => some n
  | _ => none

/-- The fault that the walk ends with, under a limit of steps. -/
def fault? (limit : Nat) : Arrival → Option Fault
  | cycle n => some (.cycle n.id)
  | spent _ => some (.stepLimit limit)
  | ran _ fault => fault
  | _ => none

end Arrival

/-- A visit that was made. The chain holds the nodes that were run on the way to it, nearest first. -/
structure Stop where
  chain : List Node
  visit : Visit
  arrival : Arrival

/-- The nodes whose handlers were called, in order. -/
def called (stops : List Stop) : List Node := stops.filterMap fun t => t.arrival.called?

theorem called_ran {chain : List Node} {v : Visit} {n : Node} {fault : Option Fault} {stops : List Stop} :
    called (⟨chain, v, .ran n fault⟩ :: stops) = n :: called stops := rfl

/-- How effects that a walk over a graph asks for at some depth are carried out on a run: the reports, and
the run after them. -/
abbrev Firing := (depth : Nat) → Graph → List Effect → Run → List WalkReport → Run → Prop

/-- The ports by which a walk may go on, at once or after a pause. -/
def Next.ports : Next → List String
  | .goOn port => [port]
  | .fork ports => ports
  | .wait pause => [pause.port]
  | .stop | .fail _ => []

/-- A pause ends early only when the engine is shut down. -/
theorem Run.pause_fault {s : Surroundings} {millis : Nat} {r : Run} {fault : Fault}
    (h : (r.pause s millis).1 = some fault) : fault = .cancelled := by
  simp only [Run.pause] at h
  split at h
  · simp at h
  · split at h
    · exact (Option.some.inj h).symm
    · simp at h

namespace Walk

def call (s : Surroundings) (g : Graph) (depth : Nat) (n : Node) (v : Visit) (w : Walk) : Call :=
  { node := n, graphId := g.id, inputPort := v.port, depth := depth, outputs := w.outputs,
    world := w.run.world, draws := s.draws.skip w.run.drawn }

def broken (v : Visit) (a : Response) (w : Walk) : Walk :=
  { w with inputPort := v.port, run := w.run.absorb a }

def served (n : Node) (v : Visit) (out : Output) (reports : List WalkReport) (r : Run) (w : Walk) : Walk :=
  { outputs := keep n.id out.values w.outputs, inputPort := v.port, nested := w.nested ++ reports, run := r }

/-- The ways on from a node, each with the chain that leads along it. -/
def extend (chain : List Node) (n : Node) (visits : List Visit) : List (List Node × Visit) :=
  visits.map fun u => (n :: chain, u)

theorem map_snd_extend (chain : List Node) (n : Node) (visits : List Visit) :
    (extend chain n visits).map Prod.snd = visits := by
  simp [extend, Function.comp_def]

/-- From a count of steps, pending visits and a walk, at some depth over a graph, to the stops that are
made and the ending. -/
inductive Course (s : Surroundings) (F : Firing) :
    Nat → List (List Node × Visit) → Walk → Nat → Graph → List Stop → Ending → Prop where
  | done {steps w depth g} : Course s F steps [] w depth g [] ⟨none, steps, w⟩
  | missing {steps chain v rest w depth g stops e} (found : g.node? v.node = none)
      (next : Course s F steps rest w depth g stops e) :
      Course s F steps ((chain, v) :: rest) w depth g (⟨chain, v, .missing⟩ :: stops) e
  | cycle {steps chain v rest w depth g n} (found : g.node? v.node = some n)
      (trail : Text.fold n.id ∈ v.trail) :
      Course s F steps ((chain, v) :: rest) w depth g [⟨chain, v, .cycle n⟩] ⟨some (.cycle n.id), steps, w⟩
  | spent {steps chain v rest w depth g n} (found : g.node? v.node = some n)
      (trail : Text.fold n.id ∉ v.trail) (limit : s.settings.maxWalkSteps ≤ steps) :
      Course s F steps ((chain, v) :: rest) w depth g [⟨chain, v, .spent n⟩]
        ⟨some (.stepLimit s.settings.maxWalkSteps), steps + 1, w⟩
  | bare {steps chain v rest w depth g n stops e} (found : g.node? v.node = some n)
      (trail : Text.fold n.id ∉ v.trail) (limit : steps < s.settings.maxWalkSteps)
      (handler : s.registry.handlerFor n = none) (next : Course s F (steps + 1) rest w depth g stops e) :
      Course s F steps ((chain, v) :: rest) w depth g (⟨chain, v, .bare n⟩ :: stops) e
  | broke {steps chain v rest w depth g n h message} (found : g.node? v.node = some n)
      (trail : Text.fold n.id ∉ v.trail) (limit : steps < s.settings.maxWalkSteps)
      (handler : s.registry.handlerFor n = some h)
      (result : (h (w.call s g depth n v)).result = .error message) :
      Course s F steps ((chain, v) :: rest) w depth g [⟨chain, v, .ran n (some (.panicked n.id message))⟩]
        ⟨some (.panicked n.id message), steps + 1, w.broken v (h (w.call s g depth n v))⟩
  | halted {steps chain v rest w depth g n h out reports r fault r'} (found : g.node? v.node = some n)
      (trail : Text.fold n.id ∉ v.trail) (limit : steps < s.settings.maxWalkSteps)
      (handler : s.registry.handlerFor n = some h)
      (result : (h (w.call s g depth n v)).result = .ok out)
      (effects : F depth g out.effects (w.run.absorb (h (w.call s g depth n v))) reports r)
      (ways : after s g n.id (Text.fold n.id :: v.trail) out.next r = (.error fault, r')) :
      Course s F steps ((chain, v) :: rest) w depth g [⟨chain, v, .ran n (some fault)⟩]
        ⟨some fault, steps + 1, w.served n v out reports r'⟩
  | went {steps chain v rest w depth g n h out reports r visits r' stops e}
      (found : g.node? v.node = some n) (trail : Text.fold n.id ∉ v.trail)
      (limit : steps < s.settings.maxWalkSteps) (handler : s.registry.handlerFor n = some h)
      (result : (h (w.call s g depth n v)).result = .ok out)
      (effects : F depth g out.effects (w.run.absorb (h (w.call s g depth n v))) reports r)
      (ways : after s g n.id (Text.fold n.id :: v.trail) out.next r = (.ok visits, r'))
      (next : Course s F (steps + 1) (extend chain n visits ++ rest) (w.served n v out reports r') depth g
        stops e) :
      Course s F steps ((chain, v) :: rest) w depth g (⟨chain, v, .ran n none⟩ :: stops) e

variable {s : Surroundings} {fire : Fire} {g : Graph} {depth : Nat}

theorem execute_error {h : Handler} {n : Node} {v : Visit} {w : Walk} {message : String}
    (hr : (h (w.call s g depth n v)).result = .error message) :
    execute s fire g depth h n v w =
      (.error (.panicked n.id message), w.broken v (h (w.call s g depth n v))) := by
  rw [call] at hr
  simp only [execute, hr, broken, call]

theorem execute_ok {h : Handler} {n : Node} {v : Visit} {w : Walk} {out : Output}
    (hr : (h (w.call s g depth n v)).result = .ok out) :
    execute s fire g depth h n v w =
      let fired := fireAll fire out.effects (w.run.absorb (h (w.call s g depth n v)))
      let went := after s g n.id (Text.fold n.id :: v.trail) out.next fired.2
      (went.1, w.served n v out fired.1 went.2) := by
  rw [call] at hr
  simp only [execute, hr, served, call]

/-- Where effects are carried out as `F` says, the recursion follows a course, whatever the chains. -/
theorem exists_course {F : Firing}
    (hF : ∀ effects r, F depth g effects r (fireAll fire effects r).1 (fireAll fire effects r).2)
    (steps : Nat) (pending : List (List Node × Visit)) (w : Walk) :
    ∃ stops, Course s F steps pending w depth g stops
      (finish s s.registry.handlerFor fire g depth steps (pending.map Prod.snd) w) := by
  generalize hv : pending.map Prod.snd = visits
  fun_induction finish s s.registry.handlerFor fire g depth steps visits w generalizing pending with
  | case1 steps w =>
    rw [List.map_eq_nil_iff.1 hv]
    exact ⟨[], .done⟩
  | case2 steps w v rest found ih =>
    obtain ⟨⟨chain, v⟩, pending, rfl, rfl, hr⟩ := List.map_eq_cons_iff.1 hv
    obtain ⟨stops, next⟩ := ih pending hr
    exact ⟨_, .missing found next⟩
  | case3 steps w v rest n found trail =>
    obtain ⟨⟨chain, v⟩, pending, rfl, rfl, -⟩ := List.map_eq_cons_iff.1 hv
    exact ⟨_, .cycle found (by simpa using trail)⟩
  | case4 steps w v rest n found trail limit =>
    obtain ⟨⟨chain, v⟩, pending, rfl, rfl, -⟩ := List.map_eq_cons_iff.1 hv
    exact ⟨_, .spent found (by simpa using trail) limit⟩
  | case5 steps w v rest n found trail limit handler ih =>
    obtain ⟨⟨chain, v⟩, pending, rfl, rfl, hr⟩ := List.map_eq_cons_iff.1 hv
    obtain ⟨stops, next⟩ := ih pending hr
    exact ⟨_, .bare found (by simpa using trail) (Nat.lt_of_not_le limit) handler next⟩
  | case6 steps w v rest n found trail limit h handler w' fault executed =>
    obtain ⟨⟨chain, v⟩, pending, rfl, rfl, -⟩ := List.map_eq_cons_iff.1 hv
    have trail : Text.fold n.id ∉ v.trail := by simpa using trail
    cases result : (h (w.call s g depth n v)).result with
    | error message =>
      simp only [execute_error result, Prod.mk.injEq, Except.error.injEq] at executed
      obtain ⟨rfl, rfl⟩ := executed
      exact ⟨_, .broke found trail (Nat.lt_of_not_le limit) handler result⟩
    | ok out =>
      simp only [execute_ok result, Prod.mk.injEq] at executed
      obtain ⟨ways, rfl⟩ := executed
      exact ⟨_, .halted found trail (Nat.lt_of_not_le limit) handler result (hF _ _) (Prod.ext ways rfl)⟩
  | case7 steps w v rest n found trail limit h handler w' visits executed ih =>
    obtain ⟨⟨chain, v⟩, pending, rfl, rfl, hr⟩ := List.map_eq_cons_iff.1 hv
    have trail : Text.fold n.id ∉ v.trail := by simpa using trail
    -- The new visits stand behind the node, on the chain that led to it.
    have pending_eq : (extend chain n visits ++ pending).map Prod.snd = visits ++ rest := by
      rw [List.map_append, map_snd_extend, hr]
    obtain ⟨stops, next⟩ := ih _ pending_eq
    cases result : (h (w.call s g depth n v)).result with
    | error message => simp [execute_error result] at executed
    | ok out =>
      simp only [execute_ok result, Prod.mk.injEq] at executed
      obtain ⟨ways, rfl⟩ := executed
      exact ⟨_, .went found trail (Nat.lt_of_not_le limit) handler result (hF _ _) (Prod.ext ways rfl) next⟩

/-- Where effects come to what `fire` computes, a course comes to what the recursion computes. -/
theorem Course.finish_eq {F : Firing} {steps : Nat} {pending : List (List Node × Visit)} {w : Walk}
    {stops : List Stop} {e : Ending}
    (hF : ∀ effects r reports r', F depth g effects r reports r' → fireAll fire effects r = (reports, r'))
    (c : Course s F steps pending w depth g stops e) :
    finish s s.registry.handlerFor fire g depth steps (pending.map Prod.snd) w = e := by
  induction c with
  | done => rw [List.map_nil, finish]
  | missing found next ih =>
    rw [List.map_cons, finish]
    simpa only [found] using ih hF
  | cycle found trail =>
    rw [List.map_cons, finish]
    simp [found, trail]
  | spent found trail limit =>
    rw [List.map_cons, finish]
    simp [found, trail, limit]
  | bare found trail limit handler next ih =>
    rw [List.map_cons, finish]
    simp [found, trail, Nat.not_le.2 limit, handler, ih hF]
  | broke found trail limit handler result =>
    rw [List.map_cons, finish]
    simp [found, trail, Nat.not_le.2 limit, handler, execute_error result]
  | halted found trail limit handler result effects ways =>
    rw [List.map_cons, finish]
    simp [found, trail, Nat.not_le.2 limit, handler, execute_ok result, hF _ _ _ _ effects, ways]
  | went found trail limit handler result effects ways next ih =>
    have later := ih hF
    rw [List.map_append, map_snd_extend] at later
    rw [List.map_cons, finish]
    simp [found, trail, Nat.not_le.2 limit, handler, execute_ok result, hF _ _ _ _ effects, ways, later]

theorem mem_follow {node : String} {trail ports : List String} {u : Visit} :
    u ∈ follow g node trail ports ↔
      ∃ port ∈ ports, ∃ c, g.connectionFrom? node port = some c ∧ ⟨c.toNode, c.toPort, trail⟩ = u := by
  simp [follow]

theorem after_ok {node : String} {trail : List String} {next : Next} {r r' : Run} {visits : List Visit}
    (h : after s g node trail next r = (.ok visits, r')) : visits = follow g node trail next.ports := by
  cases next with
  | goOn port | fork ports => simp_all [after, Next.ports]
  | stop => simp_all [after, Next.ports, follow]
  | fail message => simp [after] at h
  | wait pause =>
    simp only [after] at h
    split at h
    · simp at h
    · simp_all [Next.ports]

/-- A walk that does not go on was cancelled in a pause, or its handler failed. -/
theorem after_error {node : String} {trail : List String} {next : Next} {r r' : Run} {fault : Fault}
    (h : after s g node trail next r = (.error fault, r')) :
    fault = .cancelled ∨ ∃ message, fault = .failed node message := by
  cases next with
  | goOn port | fork ports | stop => simp [after] at h
  | fail message => exact .inr ⟨message, by simp_all [after]⟩
  | wait pause =>
    simp only [after] at h
    split at h
    case h_1 paused =>
      obtain ⟨rfl, -⟩ : _ = fault ∧ _ := by simpa using h
      exact .inl (Run.pause_fault (congrArg Prod.fst paused))
    case h_2 => simp at h

end Walk

end StoryGraph
