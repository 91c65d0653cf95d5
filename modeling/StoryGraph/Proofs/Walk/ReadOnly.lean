import StoryGraph.Proofs.NodeType.Tags
import StoryGraph.Proofs.Walk.Unfailing

/-!
Walks over graphs without actions and without speech. The nodes that remain look at the world and at the values that
were put out before them, and answer. Main statement: such a walk changes nothing, starts nothing and tells nothing,
but for the word of its own abort, and puts out the values of its sources only.
-/

namespace StoryGraph

/-- No node is an action or speaks, as far as the catalog knows its type. -/
def Graph.IsReadOnly (g : Graph) : Prop :=
  ∀ n ∈ g.nodes, ∀ t, n.kind? = some t → t.category ≠ .action ∧ t.category ≠ .dialogue

/-- Whether the catalog has the node's type among the sources. -/
def Node.isSource (n : Node) : Bool := n.kind?.any fun t => t.category == .source

/-- Nothing was changed, sent or logged. Time may have gone by, and draws may have been taken. -/
structure Run.Still (r r' : Run) : Prop where
  world : r'.world = r.world
  events : r'.events = r.events
  logs : r'.logs = r.logs

namespace Run.Still

variable {r r' r'' : Run}

theorem refl : r.Still r := ⟨rfl, rfl, rfl⟩

theorem trans (h : r.Still r') (h' : r'.Still r'') : r.Still r'' :=
  ⟨h'.world.trans h.world, h'.events.trans h.events, h'.logs.trans h.logs⟩

theorem pause (s : Surroundings) (r : Run) (millis : Nat) : r.Still (r.pause s millis).2 := by
  simp only [Run.pause]
  split
  · exact ⟨rfl, rfl, rfl⟩
  · split <;> exact ⟨rfl, rfl, rfl⟩

end Run.Still

/-- An answer that leaves the world as it is, tells nothing and asks for nothing. -/
structure Response.Still (a : Response) (c : Call) (out : Output) : Prop where
  world : a.world = c.world
  notices : a.notices = []
  logs : a.logs = []
  effects : out.effects = []

theorem Response.Still.absorb {a : Response} {c : Call} {out : Output} (h : a.Still c out) {r : Run}
    (here : c.world = r.world) : r.Still (r.absorb a) where
  world := h.world.trans here
  events := by rw [Run.absorb, h.notices, List.map_nil, List.append_nil]
  logs := by rw [Run.absorb, h.logs, List.map_nil, List.append_nil]

/-- What neither acts nor speaks puts out at most a value, and that only if it is a source. -/
theorem builtin_still {t : NodeType} (act : t.category ≠ .action) (speak : t.category ≠ .dialogue) {c : Call}
    {out : Output} (result : (builtin t c).result = .ok out) :
    (builtin t c).Still c out ∧
      if t.category = .source then ∃ v, out.values = Table.empty.insert Port.value v else out.values = .empty := by
  cases t with
  | action t => exact absurd rfl act
  | dialogue t => exact absurd rfl speak
  | event t | condition t =>
    cases result
    exact ⟨⟨rfl, rfl, rfl, rfl⟩, rfl⟩
  | flow t =>
    obtain ⟨next, chosen, -⟩ := Flow.exists_next t c
    have answer : (builtin (.flow t) c).result = .ok { next := next } := congrArg (Except.map _) chosen
    cases answer.symm.trans result
    exact ⟨⟨rfl, rfl, rfl, rfl⟩, rfl⟩
  | source t =>
    obtain ⟨v, found⟩ := Source.exists_value t c
    have answer : (builtin (.source t) c).result =
        .ok { values := Table.empty.insert Port.value v, next := .goOn Port.exec } := congrArg (Except.map _) found
    cases answer.symm.trans result
    exact ⟨⟨rfl, rfl, rfl, rfl⟩, v, rfl⟩

namespace Walk

/-- Keeps the values that sources have found, one after the other. -/
def keepFound (found : List (Node × Value)) (o : Outputs) : Outputs :=
  found.foldl (fun o q => o.put q.1.id Port.value q.2) o

variable {s : Surroundings} {F : Firing} {g : Graph} {depth : Nat}

/-- Between two stops nothing happens, and of what is put out all comes from the sources that are called. -/
structure Rests (w : Walk) (sources : List Node) (w' : Walk) : Prop where
  nested : w'.nested = w.nested
  run : w.run.Still w'.run
  outputs : ∃ found, found.map Prod.fst = sources ∧ w'.outputs = keepFound found w.outputs

namespace Rests

variable {w w' w'' : Walk} {sources later : List Node}

theorem refl (w : Walk) : w.Rests [] w := ⟨rfl, .refl, [], rfl, rfl⟩

theorem trans (h : w.Rests sources w') (h' : w'.Rests later w'') : w.Rests (sources ++ later) w'' where
  nested := h'.nested.trans h.nested
  run := h.run.trans h'.run
  outputs := by
    obtain ⟨first, named, kept⟩ := h.outputs
    obtain ⟨second, named', kept'⟩ := h'.outputs
    refine ⟨first ++ second, by rw [List.map_append, named, named'], ?_⟩
    rw [kept', kept, keepFound, keepFound, keepFound, List.foldl_append]

end Rests

theorem after_still {node : String} {trail : List String} {next : Next} {r r' : Run}
    {result : Except Fault (List Visit)} (ways : after s g node trail next r = (result, r')) : r.Still r' := by
  obtain rfl | ⟨millis, rfl⟩ := after_run ways
  · exact .refl
  · exact .pause s r millis

theorem served_rests (builtins : s.registry.IsBuiltin) (readOnly : g.IsReadOnly) {n : Node} {v : Visit} {w : Walk}
    (found : g.node? v.node = some n) {h : Handler} (handler : s.registry.handlerFor n = some h) {out : Output}
    (result : (h (w.call s g depth n v)).result = .ok out)
    (nothing : ∀ r reports r', F depth g [] r reports r' → reports = [] ∧ r' = r) {reports : List WalkReport}
    {r r' : Run} (effects : F depth g out.effects (w.run.absorb (h (w.call s g depth n v))) reports r)
    {ways : Except Fault (List Visit)} (gone : after s g n.id (Text.fold n.id :: v.trail) out.next r = (ways, r')) :
    w.Rests ([n].filter Node.isSource) (w.served n v out reports r') := by
  obtain ⟨t, kind, -, rfl⟩ := builtins.of_handlerFor handler
  obtain ⟨act, speak⟩ := readOnly n (List.mem_of_find?_eq_some found) t kind
  obtain ⟨still, values⟩ := builtin_still act speak result
  rw [still.effects] at effects
  obtain ⟨rfl, rfl⟩ := nothing _ _ _ effects
  refine ⟨List.append_nil _, (still.absorb rfl).trans (after_still gone), ?_⟩
  have source : n.isSource = (t.category == .source) := by rw [Node.isSource, kind, Option.any_some]
  split at values
  case isTrue yes =>
    obtain ⟨value, put⟩ := values
    refine ⟨[(n, value)], ?_, ?_⟩
    · simp [source, yes]
    · rw [served, put]
      rfl
  case isFalse no =>
    refine ⟨[], ?_, ?_⟩
    · simp [source, no]
    · rw [served, values]
      rfl

theorem Course.rests (builtins : s.registry.IsBuiltin) (readOnly : g.IsReadOnly)
    (nothing : ∀ r reports r', F depth g [] r reports r' → reports = [] ∧ r' = r) {steps : Nat}
    {pending : List (List Node × Visit)} {w : Walk} {stops : List Stop} {e : Ending}
    (c : Course s F steps pending w depth g stops e) : w.Rests ((called stops).filter Node.isSource) e.walk := by
  induction c with
  | done => exact .refl _
  | cycle | spent => exact .refl _
  | missing found _ ih | bare found _ _ _ _ ih => exact ih readOnly nothing
  | broke found trail limit handler result =>
    -- Built-in handlers always answer.
    obtain ⟨t, -, -, rfl⟩ := builtins.of_handlerFor handler
    obtain ⟨out, answer, -⟩ := builtin_fits t _
    cases answer.symm.trans result
  | halted found trail limit handler result effects ways =>
    exact served_rests builtins readOnly found handler result nothing effects ways
  | went found trail limit handler result effects ways _ ih =>
    have here := served_rests builtins readOnly found handler result nothing effects ways
    have all := here.trans (ih readOnly nothing)
    rwa [← List.filter_append, List.singleton_append] at all

/-- At its end a walk only tells the host. -/
theorem conclude_keeps (s : Surroundings) (g : Graph) (entry : String) (e : Ending) :
    let after := (conclude s g entry e).2.run
    after.world = e.walk.run.world ∧ after.logs = e.walk.run.logs ∧ after.now = e.walk.run.now := by
  intro after
  obtain same | ⟨text, told⟩ : after = e.walk.run ∨ ∃ text, after = e.walk.run.diagnose s.settings text :=
    conclude_run entry e
  · rw [same]
    exact ⟨rfl, rfl, rfl⟩
  · rw [told, Run.diagnose]
    split <;> exact ⟨rfl, rfl, rfl⟩

/-- What is told at the end of a walk that did not fail: that it was aborted, if it was. -/
theorem conclude_events (s : Surroundings) (g : Graph) (entry : String) {e : Ending}
    (sound : ∀ f, e.fault = some f → ¬ f.IsBreakdown) :
    let ended := conclude s g entry e
    (∀ reason, ended.1.status = .aborted reason → s.settings.reportDiagnostics = true →
      ended.2.run.events =
        e.walk.run.events ++ [(e.walk.run.now, .diagnostic ("graph '" ++ g.id ++ "': " ++ reason))]) ∧
    ((∀ reason, ended.1.status ≠ .aborted reason) ∨ s.settings.reportDiagnostics = false →
      ended.2.run.events = e.walk.run.events) := by
  intro ended
  have status : ended.1.status = Status.of e.fault := rfl
  have run : ended.2.run = diagnose s g e.fault e.walk.run := rfl
  rw [status, run]
  cases fault : e.fault with
  | none => simp [Status.of, diagnose]
  | some f =>
    cases f with
    | cancelled => simp [Status.of, diagnose]
    | failed node message | panicked node message => exact absurd trivial (sound _ fault)
    | cycle node | stepLimit limit =>
      refine ⟨fun reason same reports => ?_, fun silent => ?_⟩
      · cases same
        simp [diagnose, Run.diagnose, Run.notify, reports]
      · have mute : s.settings.reportDiagnostics = false := silent.resolve_left fun never => never _ rfl
        simp [diagnose, Run.diagnose, mute]

end Walk

/-- A source, a node whose type nobody knows, and a pause that leads back to the source. -/
def Graph.survey : Graph where
  id := "survey"
  nodes := [{ id := "purse", typeTag := "Variable_PlayerGold" }, { id := "Lost", typeTag := "Custom_Action" },
    { id := "again", typeTag := "Flow_Delay" }]
  connections := [⟨"purse", "Exec", "again", "Exec"⟩, ⟨"again", "Exec", "PURSE", "Exec"⟩]

namespace Surroundings

/-- Walks over graphs without actions and without speech change nothing, start nothing, tell of nothing but their own
abort, and put out what their sources have found. -/
theorem walk_readOnly (s : Surroundings) (builtins : s.registry.IsBuiltin) (depth : Nat) (g : Graph)
    (readOnly : g.IsReadOnly) (entry : String) (outputs : Outputs) (r : Run) :
    let walked := s.walk depth g entry outputs r
    walked.2.run.world = r.world ∧ walked.1.nested = [] ∧ walked.2.run.logs = r.logs ∧
    (∀ reason, walked.1.status = .aborted reason → s.settings.reportDiagnostics = true →
      walked.2.run.events =
        r.events ++ [(walked.2.run.now, .diagnostic ("graph '" ++ g.id ++ "': " ++ reason))]) ∧
    ((∀ reason, walked.1.status ≠ .aborted reason) ∨ s.settings.reportDiagnostics = false →
      walked.2.run.events = r.events) ∧
    ∃ stops e found, s.Tour depth g entry outputs r stops e ∧ walked = Walk.conclude s g entry e ∧
      found.map Prod.fst = (called stops).filter Node.isSource ∧
      walked.2.outputs = Walk.keepFound found outputs := by
  intro walked
  obtain ⟨stops, e, tour, walk⟩ := s.exists_tour depth g entry outputs r
  have rests := tour.rests builtins readOnly fun r reports r' f => by
    cases f
    exact ⟨rfl, rfl⟩
  obtain ⟨told, silent⟩ := Walk.conclude_events s g entry (tour.not_breakdown builtins)
  obtain ⟨world, logs, now⟩ := Walk.conclude_keeps s g entry e
  obtain ⟨found, sources, kept⟩ := rests.outputs
  rw [show walked = Walk.conclude s g entry e from walk, now]
  refine ⟨world.trans rests.run.world, rests.nested, logs.trans rests.run.logs, fun reason aborted reports => ?_,
    fun quiet => ?_, stops, e, found, tour, rfl, sources, kept⟩
  · rw [told reason aborted reports, rests.run.events]
  · rw [silent quiet, rests.run.events]

theorem walk_readOnly_survey :
    let s : Surroundings := { registry := .builtins, library := [], settings := {}, draws := .ofSeed 7 }
    let o : Outputs := Outputs.put .empty "lost" Port.value (.int 3)
    let walked := s.walk 0 Graph.survey "purse" o { world := {} }
    s.registry.IsBuiltin ∧ Graph.survey.IsReadOnly ∧
      walked.2.run.world = {} ∧ walked.1.nested = [] ∧
      ∃ stops found, found.map Prod.fst = (called stops).filter Node.isSource ∧
        walked.2.outputs = Walk.keepFound found o := by
  intro s o walked
  have builtins : s.registry.IsBuiltin := Registry.isBuiltin_builtins
  have readOnly : Graph.survey.IsReadOnly := by
    have purse : NodeType.ofTag? "Variable_PlayerGold" = some (.source .playerGold) := by
      rw [NodeType.ofTag?_eq]
      decide +kernel
    have lost : NodeType.ofTag? "Custom_Action" = none := by
      rw [NodeType.ofTag?_eq]
      decide +kernel
    have again : NodeType.ofTag? "Flow_Delay" = some (.flow .delay) := by
      rw [NodeType.ofTag?_eq]
      decide +kernel
    simp [Graph.IsReadOnly, Graph.survey, Node.kind?, purse, lost, again, NodeType.category]
  obtain ⟨world, nested, -, -, -, stops, e, found, -, -, sources, kept⟩ :=
    s.walk_readOnly builtins 0 Graph.survey readOnly "purse" o { world := {} }
  exact ⟨builtins, readOnly, world, nested, stops, found, sources, kept⟩

end Surroundings

end StoryGraph
