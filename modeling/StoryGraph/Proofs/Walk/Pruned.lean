import StoryGraph.Proofs.Handler.Ways
import StoryGraph.Proofs.Validation.Flagged
import StoryGraph.Proofs.Walk.Fires

/-!
What validation flags is never walked along: with built-in handlers, a walk over the pruned graph is the
walk over the graph. The pending visits of the two differ only in visits to missing nodes, which end their
branches without a trace.
-/

namespace StoryGraph

/-- Of a graph, only its id matters for the walks that one over it asks for. -/
theorem Fanout.Fires.congr {s : Surroundings} {depth : Nat} {g g' : Graph} {effects : List Effect} {r r' : Run}
    {reports : List WalkReport} (f : Fires s depth g effects r reports r') (same : g'.id = g.id) :
    Fires s depth g' effects r reports r' := by
  induction effects generalizing r reports with
  | nil =>
    cases f
    exact .nil
  | cons effect rest ih =>
    cases f with
    | dropped limit next =>
      have told : drop s depth g' r = drop s depth g r := by rw [drop, drop, same]
      exact .dropped limit (told ▸ ih next)
    | walked limit walks next => exact .walked limit walks (ih next)

namespace Walk

def lands (g : Graph) (v : Visit) : Bool := (g.node? v.node).isSome

/-- The pending visits that lead to declared nodes. -/
def landing (g : Graph) (pending : List (List Node × Visit)) : List (List Node × Visit) :=
  pending.filter fun p => lands g p.2

variable {s : Surroundings} {g : Graph} {depth : Nat}

theorem landing_cons_of_none {chain : List Node} {v : Visit} {rest : List (List Node × Visit)}
    (missing : g.node? v.node = none) : landing g ((chain, v) :: rest) = landing g rest :=
  List.filter_cons_of_neg (by simp [lands, missing])

theorem landing_cons_of_some {chain : List Node} {v : Visit} {rest : List (List Node × Visit)} {n : Node}
    (found : g.node? v.node = some n) : landing g ((chain, v) :: rest) = (chain, v) :: landing g rest :=
  List.filter_cons_of_pos (by simp [lands, found])

theorem landing_extend {chain : List Node} {n : Node} {visits : List Visit}
    {rest rest' : List (List Node × Visit)} (h : landing g rest' = landing g rest) :
    landing g (extend chain n (visits.filter (lands g)) ++ rest') =
      landing g (extend chain n visits ++ rest) := by
  simp only [landing] at h
  simp [landing, extend, List.filter_append, List.filter_map, Function.comp_def, h]

theorem landing_eq_cons {pending kept : List (List Node × Visit)} {chain : List Node} {v : Visit}
    (h : landing g pending = (chain, v) :: kept) :
    ∃ before rest, pending = before ++ (chain, v) :: rest ∧ (∀ p ∈ before, g.node? p.2.node = none) ∧
      landing g rest = kept := by
  obtain ⟨before, rest, split, missing, -, hrest⟩ := List.filter_eq_cons_iff.1 h
  exact ⟨before, rest, split, fun p hp => by simpa [lands] using missing p hp, hrest⟩

theorem eq_none_of_landing_eq_nil {pending : List (List Node × Visit)} (h : landing g pending = []) :
    ∀ p ∈ pending, g.node? p.2.node = none := fun p hp => by
  simpa [lands] using List.filter_eq_nil_iff.1 h p hp

theorem Course.past_missing {F : Firing} {steps : Nat} {before pending : List (List Node × Visit)} {w : Walk}
    {stops : List Stop} {e : Ending} (h : ∀ p ∈ before, g.node? p.2.node = none)
    (c : Course s F steps pending w depth g stops e) :
    ∃ stops, Course s F steps (before ++ pending) w depth g stops e := by
  induction before with
  | nil => exact ⟨stops, c⟩
  | cons p before ih =>
    obtain ⟨stops, c⟩ := ih fun q hq => h q (List.mem_cons_of_mem _ hq)
    exact ⟨_, .missing (h p List.mem_cons_self) c⟩

/-- To give a course from pending visits, it is enough to give one from the first that leads anywhere. -/
theorem Course.of_landing {F : Firing} {steps : Nat} {pending kept : List (List Node × Visit)} {chain : List Node}
    {v : Visit} {w : Walk} {e : Ending} (h : landing g pending = (chain, v) :: kept)
    (c : ∀ rest, landing g rest = kept → ∃ stops, Course s F steps ((chain, v) :: rest) w depth g stops e) :
    ∃ stops, Course s F steps pending w depth g stops e := by
  obtain ⟨before, rest, rfl, missing, same⟩ := landing_eq_cons h
  obtain ⟨stops, course⟩ := c rest same
  exact Course.past_missing missing course

/-- By the ports of a handled type, the pruned graph leads on to the declared nodes. -/
theorem follow_pruned {handled : NodeType → Bool} {x : String} {n : Node} {t : NodeType}
    (found : g.node? x = some n) (type : n.kind? = some t) (known : handled t = true) {ports : List String}
    (listed : ∀ p ∈ ports, p ∈ t.ports) (trail : List String) :
    follow (g.pruned handled) n.id trail ports = (follow g n.id trail ports).filter (lands g) := by
  induction ports with
  | nil => rfl
  | cons port ports ih =>
    have here := Graph.connectionFrom?_pruned found type known (listed port List.mem_cons_self)
    have later := ih fun p hp => listed p (List.mem_cons_of_mem _ hp)
    simp only [follow] at later
    simp only [follow, List.filterMap_cons, here, later]
    cases g.connectionFrom? n.id port with
    | none => rfl
    | some c => cases hc : g.node? c.toNode <;> simp [lands, hc, Option.filter]

theorem after_pruned {handled : NodeType → Bool} {x : String} {n : Node} {t : NodeType}
    (found : g.node? x = some n) (type : n.kind? = some t) (known : handled t = true) {next : Next}
    (listed : ∀ p ∈ next.ports, p ∈ t.ports) (trail : List String) (r : Run) :
    after s (g.pruned handled) n.id trail next r =
      ((after s g n.id trail next r).1.map (List.filter (lands g)), (after s g n.id trail next r).2) := by
  have way := follow_pruned found type known listed trail
  cases next with
  | goOn port | fork ports =>
    simp only [Next.ports] at way
    simp only [after, way, Except.map]
  | stop | fail message => rfl
  | wait pause =>
    simp only [Next.ports] at way
    simp only [after, way]
    split <;> rfl

/-- The same course leads through the pruned graph, from pending visits with the same declared nodes. -/
theorem Course.pruned (builtins : s.registry.IsBuiltin) {steps : Nat}
    {pending pending' : List (List Node × Visit)} {w : Walk} {stops : List Stop} {e : Ending}
    (c : Course s (Fanout.Fires s) steps pending w depth g stops e) (h : landing g pending' = landing g pending) :
    ∃ stops, Course s (Fanout.Fires s) steps pending' w depth (g.pruned s.registry.contains) stops e := by
  induction c generalizing pending' with
  | done =>
    have missing := eq_none_of_landing_eq_nil h
    rw [← List.append_nil pending']
    exact Course.past_missing missing .done
  | missing found next ih => exact ih (h.trans (landing_cons_of_none found))
  | cycle found trail =>
    refine Course.of_landing (h.trans (landing_cons_of_some found)) fun rest same => ?_
    exact ⟨_, .cycle found trail⟩
  | spent found trail limit =>
    refine Course.of_landing (h.trans (landing_cons_of_some found)) fun rest same => ?_
    exact ⟨_, .spent found trail limit⟩
  | bare found trail limit handler next ih =>
    refine Course.of_landing (h.trans (landing_cons_of_some found)) fun rest same => ?_
    obtain ⟨stops, next⟩ := ih same
    exact ⟨_, .bare found trail limit handler next⟩
  | broke found trail limit handler result =>
    refine Course.of_landing (h.trans (landing_cons_of_some found)) fun rest same => ?_
    exact ⟨_, .broke found trail limit handler result⟩
  | halted found trail limit handler result effects ways =>
    refine Course.of_landing (h.trans (landing_cons_of_some found)) fun rest same => ?_
    obtain ⟨t, type, known, rfl⟩ := builtins.of_handlerFor handler
    refine ⟨_, .halted found trail limit handler result (effects.congr rfl) ?_⟩
    rw [after_pruned found type known (builtin_listed result), ways]
    rfl
  | went found trail limit handler result effects ways next ih =>
    refine Course.of_landing (h.trans (landing_cons_of_some found)) fun rest same => ?_
    obtain ⟨t, type, known, rfl⟩ := builtins.of_handlerFor handler
    -- The visits that follow may be fewer, but not those that lead anywhere.
    obtain ⟨stops, next⟩ := ih (landing_extend same)
    refine ⟨_, .went found trail limit handler result (effects.congr rfl) ?_ next⟩
    rw [after_pruned found type known (builtin_listed result), ways]
    rfl

end Walk

/-- Of the connections, the first leads nowhere and shadows the second, the third may be followed, the
fourth leaves by a port that is never selected, and the last leaves a node without a handler. -/
def Graph.shadowed : Graph where
  id := "shadowed"
  nodes := [{ id := "Ask", typeTag := "Condition_HasItem" }, { id := "end", typeTag := "Event_OnGameStart" },
    { id := "mute", typeTag := "Event_OnEnter" }]
  connections := [⟨"ask", "True", "ghost", "Exec"⟩, ⟨"ASK", "true", "end", "Exec"⟩,
    ⟨"ask", "False", "end", "Exec"⟩, ⟨"end", "True", "ask", "Exec"⟩, ⟨"mute", "Exec", "ask", "Exec"⟩]

def Registry.withoutEntering : Registry := fun t => if t = .event .onEnter then none else some (builtin t)

namespace Surroundings

/-- A walk over the pruned graph makes the same report and leaves the same state. -/
theorem walk_pruned (s : Surroundings) (builtins : s.registry.IsBuiltin) (depth : Nat) (g : Graph)
    (entry : String) (outputs : Outputs) (r : Run) :
    s.walk depth (g.pruned s.registry.contains) entry outputs r = s.walk depth g entry outputs r := by
  obtain ⟨stops, e, tour, walk⟩ := s.exists_tour depth g entry outputs r
  obtain ⟨stops', tour'⟩ := Walk.Course.pruned builtins tour rfl
  rw [walk, s.walk_of_tour depth _ entry outputs r tour']
  rfl

theorem walk_pruned_shadowed :
    let s : Surroundings :=
      { registry := .withoutEntering, library := [Graph.shadowed], settings := {}, draws := .ofSeed 7 }
    s.registry.IsBuiltin ∧
      (Graph.shadowed.pruned s.registry.contains).connections = [⟨"ask", "False", "end", "Exec"⟩] ∧
      s.walk 0 (Graph.shadowed.pruned s.registry.contains) "ask" .empty { world := {} } =
        s.walk 0 Graph.shadowed "ask" .empty { world := {} } := by
  intro s
  have builtins : s.registry.IsBuiltin := by
    intro t h found
    change (if t = .event .onEnter then none else some (builtin t)) = some h at found
    split at found
    · contradiction
    · exact (Option.some.inj found).symm
  exact ⟨builtins, by decide +kernel, s.walk_pruned builtins 0 Graph.shadowed "ask" .empty { world := {} }⟩

end Surroundings

end StoryGraph
