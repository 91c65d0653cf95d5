import StoryGraph.Proofs.Handler.Reading
import StoryGraph.Proofs.Walk.Requests

/-!
What the host hears of problems. A problem is a walk that was aborted or failed, or an effect that was dropped.
Main statement: with handlers that leave word of faults to the walks, the host hears of each problem once, and of
nothing else.
-/

namespace StoryGraph

/-- Whether something went wrong. Nothing did in walks that came to their end or were cancelled. -/
def Status.isProblem : Status → Bool
  | .aborted _ | .failed _ => true
  | .completed | .cancelled => false

/-- What the host is told about a walk. -/
def WalkReport.problem? (x : WalkReport) : Option String :=
  match x.status with
  | .aborted reason | .failed reason => some ("graph '" ++ x.graphId ++ "': " ++ reason)
  | .completed | .cancelled => none

theorem WalkReport.isSome_problem? (x : WalkReport) : x.problem?.isSome = x.status.isProblem := by
  rw [problem?]
  cases x.status <;> rfl

namespace Surroundings

/-- From one run to another the host hears of these problems, in some order, if the settings say so. -/
def Tells (s : Surroundings) (r r' : Run) (texts : List String) : Prop :=
  ∃ sent, r'.events = r.events ++ sent ∧
    (HostEvent.diagnostics (sent.map Prod.snd)).Perm (if s.settings.reportDiagnostics then texts else [])

namespace Tells

variable {s : Surroundings} {r r' r'' : Run} {texts texts' : List String}

theorem silent (h : r'.events = r.events) : s.Tells r r' [] :=
  ⟨[], by rw [h, List.append_nil], by rw [ite_self]; exact .nil⟩

theorem trans (h : s.Tells r r' texts) (h' : s.Tells r' r'' texts') : s.Tells r r'' (texts ++ texts') := by
  obtain ⟨sent, events, heard⟩ := h
  obtain ⟨sent', events', heard'⟩ := h'
  refine ⟨sent ++ sent', by rw [events', events, List.append_assoc], ?_⟩
  have both := heard.append heard'
  rw [List.map_append, HostEvent.diagnostics_append]
  split
  case isTrue reports => rwa [if_pos reports, if_pos reports] at both
  case isFalse mute => rwa [if_neg mute, if_neg mute] at both

theorem perm (h : s.Tells r r' texts) (same : texts.Perm texts') : s.Tells r r' texts' := by
  obtain ⟨sent, events, heard⟩ := h
  refine ⟨sent, events, heard.trans ?_⟩
  split
  · exact same
  · exact .nil

/-- What follows on what the host does not hear of. -/
theorem silently (h : s.Tells r r' []) (h' : s.Tells r' r'' texts) : s.Tells r r'' texts := h.trans h'

theorem absorb (r : Run) {a : Response} (discreet : ∀ e ∈ a.notices, e.isDiagnostic = false) :
    s.Tells r (r.absorb a) [] := by
  refine ⟨a.notices.map fun e => (r.now, e), rfl, ?_⟩
  rw [ite_self, List.map_map, Function.comp_def, List.map_id', HostEvent.diagnostics_eq_nil_iff.2 discreet]

theorem pause (s : Surroundings) (r : Run) (millis : Nat) : s.Tells r (r.pause s millis).2 [] := by
  refine silent ?_
  simp only [Run.pause]
  split
  · rfl
  · split <;> rfl

theorem diagnose (s : Surroundings) (r : Run) (text : String) : s.Tells r (r.diagnose s.settings text) [text] := by
  cases reports : s.settings.reportDiagnostics with
  | true =>
    refine ⟨[(r.now, .diagnostic text)], ?_, ?_⟩
    · rw [Run.diagnose, if_pos reports, Run.notify]
    · rw [if_pos reports]
      exact .refl _
  | false =>
    refine ⟨[], ?_, ?_⟩
    · simp [Run.diagnose, reports]
    · simp [reports, HostEvent.diagnostics]

end Tells

end Surroundings

variable {s : Surroundings}

namespace Walk

open Surroundings (Tells)

variable {fire : Fire} {texts : Request → List String} {g : Graph} {depth : Nat}

theorem fireAll_tells (fires : ∀ q : Request, s.Tells q.run (fire q.effect q.run).2 (texts q)) (effects : List Effect)
    (r : Run) : s.Tells r (fireAll fire effects r).2 ((asked fire effects r).flatMap texts) := by
  induction effects generalizing r with
  | nil => exact .silent rfl
  | cons effect rest ih => exact (fires ⟨effect, r⟩).trans (ih _)

/-- On its way the host hears of what the walk asks for, and of nothing else. -/
theorem Course.tells (discreet : s.registry.Discreet)
    (fires : ∀ q : Request, s.Tells q.run (fire q.effect q.run).2 (texts q)) {steps : Nat}
    {pending : List (List Node × Visit)} {w : Walk} {stops : List Stop} {e : Ending}
    (c : Course s (Firing.of fire) steps pending w depth g stops e) :
    s.Tells w.run e.walk.run
      ((requests s s.registry.handlerFor fire g depth steps (pending.map Prod.snd) w).flatMap texts) := by
  have told {effects r reports r'} (f : fireAll fire effects r = (reports, r')) :
      s.Tells r r' ((asked fire effects r).flatMap texts) := by
    have all := fireAll_tells fires effects r
    rwa [f] at all
  have gone {g node trail next r r' result} (ways : after s g node trail next r = (result, r')) : s.Tells r r' [] := by
    obtain rfl | ⟨millis, rfl⟩ := after_run ways
    · exact .silent rfl
    · exact .pause s r millis
  have answered {n h c} {r : Run} (handler : s.registry.handlerFor n = some h) : s.Tells r (r.absorb (h c)) [] :=
    .absorb r (discreet.of_handlerFor handler c)
  induction c with
  | done =>
    rw [List.map_nil, requests_nil]
    exact .silent rfl
  | missing found _ ih =>
    rw [List.map_cons, requests_missing found]
    exact ih
  | cycle found trail =>
    rw [List.map_cons, requests_cycle found trail]
    exact .silent rfl
  | spent found _ limit =>
    rw [List.map_cons, requests_spent found limit]
    exact .silent rfl
  | bare found trail limit handler _ ih =>
    rw [List.map_cons, requests_bare found trail limit handler]
    exact ih
  | broke found trail limit handler result =>
    rw [List.map_cons, requests_broke found trail limit handler result]
    exact answered handler
  | halted found trail limit handler result effects ways =>
    rw [List.map_cons, requests_halted found trail limit handler result effects ways,
      ← List.append_nil (List.flatMap _ _)]
    exact (answered handler).silently ((told effects).trans (gone ways))
  | went found trail limit handler result effects ways _ ih =>
    rw [List.map_append, map_snd_extend] at ih
    rw [List.map_cons, requests_went found trail limit handler result effects ways, List.flatMap_append]
    exact (answered handler).silently ((told effects).trans ((gone ways).silently ih))

theorem conclude_tells (s : Surroundings) (g : Graph) (entry : String) (e : Ending) :
    s.Tells e.walk.run (conclude s g entry e).2.run (conclude s g entry e).1.problem?.toList := by
  cases fault : e.fault with
  | none =>
    simp only [conclude, diagnose, fault, Status.of, WalkReport.problem?, WalkReport.status]
    exact .silent rfl
  | some f =>
    cases f with
    | cancelled =>
      simp only [conclude, diagnose, fault, Status.of, WalkReport.problem?, WalkReport.status]
      exact .silent rfl
    | cycle node | stepLimit limit | failed node message | panicked node message =>
      simp only [conclude, diagnose, fault, Status.of, WalkReport.problem?, WalkReport.status, WalkReport.graphId]
      exact .diagnose s _ _

end Walk

namespace WalkReport

/-- What the host is told about walks and all walks within them. -/
def problems (walks : List WalkReport) : List String := (allOf walks).filterMap problem?

theorem problems_flatMap {α : Type} (l : List α) (f : α → List WalkReport) :
    problems (l.flatMap f) = l.flatMap fun a => problems (f a) := by
  simp only [problems, allOf_eq_flatMap, List.flatMap_assoc, List.filterMap_flatMap]

theorem problems_singleton (x : WalkReport) : problems [x] = x.problem?.toList ++ problems x.nested := by
  rw [problems, allOf, allOf, List.append_nil, all_eq, List.filterMap_cons]
  cases x.problem? <;> rfl

theorem length_problems (walks : List WalkReport) :
    (problems walks).length = (allOf walks).countP fun x => x.status.isProblem := by
  rw [problems, List.length_filterMap_eq_countP]
  simp only [isSome_problem?]

end WalkReport

open WalkReport (problems problems_flatMap problems_singleton)

namespace Surroundings

/-- What the host is told about walks and about what is dropped. -/
def troubles (s : Surroundings) (walks : List WalkReport) (drops : List Drop) : List String :=
  problems walks ++ drops.map fun x => x.message s.settings.maxFanoutDepth

/-- The troubles of a whole are those of its parts, in another order. -/
theorem flatMap_troubles_perm {α : Type} (l : List α) (walks : α → List WalkReport) (drops : α → List Drop) :
    (l.flatMap fun a => s.troubles (walks a) (drops a)).Perm (s.troubles (l.flatMap walks) (l.flatMap drops)) := by
  rw [troubles, problems_flatMap, List.map_flatMap]
  exact (List.flatMap_append_perm l _ _).symm

theorem walkAll_tells {depth : Nat}
    (walks : ∀ d, s.Tells d.run (s.arrive depth d).2 (s.troubles [(s.arrive depth d).1] (s.dropped depth d)))
    (seed : Entry → Outputs) (entries : List Entry) (r : Run) :
    s.Tells r (Fanout.walkAll (s.conduct depth) seed entries r).2
      (s.troubles (Fanout.walkAll (s.conduct depth) seed entries r).1
        ((s.departures depth seed entries r).flatMap (s.dropped depth))) := by
  rw [walkAll_fst, List.map_eq_flatMap]
  refine Tells.perm ?_ (flatMap_troubles_perm _ _ _)
  induction entries generalizing r with
  | nil => exact .silent rfl
  | cons e rest ih => exact (walks ⟨e.graph, e.node, seed e, r⟩).trans (ih _)

theorem fire_tells {depth : Nat} (g : Graph)
    (deeper : depth + 1 ≤ s.settings.maxFanoutDepth → ∀ d, s.Tells d.run (s.arrive (depth + 1) d).2
      (s.troubles [(s.arrive (depth + 1) d).1] (s.dropped (depth + 1) d))) (q : Request) :
    let fired := Fanout.fire s (s.settings.maxFanoutDepth - depth) depth g q.effect q.run
    s.Tells q.run fired.2 (s.troubles fired.1 (s.lost depth g q)) := by
  intro fired
  have here : fired = _ := Fanout.fire_eq s depth g q.effect q.run
  rw [here, lost]
  by_cases limit : depth + 1 ≤ s.settings.maxFanoutDepth
  · rw [if_pos limit, if_pos limit]
    exact walkAll_tells (deeper limit) _ _ _
  · rw [if_neg limit, if_neg limit]
    exact .diagnose s _ _

theorem arrive_tells (discreet : s.registry.Discreet) (depth : Nat) :
    ∀ d, s.Tells d.run (s.arrive depth d).2 (s.troubles [(s.arrive depth d).1] (s.dropped depth d)) := by
  -- On the levels that are left. The host hears of what is below a walk on its way, and of the walk at its end.
  induction depth using Fanout.depth_induction (D := s.settings.maxFanoutDepth) with
  | step depth deeper =>
    intro d
    obtain ⟨stops, e, course, arrived⟩ := s.exists_course depth d
    have way : s.Tells d.run e.walk.run (s.troubles (s.arrive depth d).1.nested (s.dropped depth d)) := by
      rw [nested_arrive, dropped_eq]
      exact (course.tells discreet (fire_tells d.graph deeper)).perm (flatMap_troubles_perm _ _ _)
    have whole := way.trans (Walk.conclude_tells s d.graph d.entry e)
    have report : (s.arrive depth d).1 = (Walk.conclude s d.graph d.entry e).1 := congrArg Prod.fst arrived
    have run : (s.arrive depth d).2 = (Walk.conclude s d.graph d.entry e).2.run := congrArg Prod.snd arrived
    rw [← report, ← run] at whole
    refine whole.perm ?_
    rw [troubles, troubles, problems_singleton, List.append_assoc (Option.toList _)]
    exact List.perm_append_comm

theorem start_tells (discreet : s.registry.Discreet) (depth : Nat) (o : Occasion) (r : Run) :
    s.Tells r (s.start depth o r).2 (s.troubles (s.start depth o r).1 (s.drops depth o r)) := by
  have all := walkAll_tells (arrive_tells discreet depth) o.seed (o.entries s.library) r
  rwa [← start_eq] at all

/-- Where the host hears of nothing, and would hear of problems, there are none. -/
theorem troubles_eq_nil (discreet : s.registry.Discreet) (reports : s.settings.reportDiagnostics = true) {depth : Nat}
    {o : Occasion} {r : Run} (silent : (s.start depth o r).2.events = r.events) :
    s.troubles (s.start depth o r).1 (s.drops depth o r) = [] := by
  obtain ⟨sent, events, heard⟩ := start_tells discreet depth o r
  have nothing : sent = [] := List.self_eq_append_right.1 (silent.symm.trans events)
  rw [nothing, if_pos reports] at heard
  exact heard.nil_eq.symm

/-- The host hears of each problem once, and of nothing else, unless it is to hear of none. -/
theorem problems_told_once (s : Surroundings) (discreet : s.registry.Discreet) (depth : Nat) (o : Occasion) (r : Run) :
    let started := s.start depth o r
    ∃ sent, started.2.events = r.events ++ sent ∧
      (s.settings.reportDiagnostics = true →
        (HostEvent.diagnostics (sent.map Prod.snd)).Perm (s.troubles started.1 (s.drops depth o r)) ∧
        sent.countP (fun e => e.2.isDiagnostic) =
          (WalkReport.allOf started.1).countP (fun x => x.status.isProblem) + (s.drops depth o r).length) ∧
      (s.settings.reportDiagnostics = false → ∀ e ∈ sent, e.2.isDiagnostic = false) := by
  intro started
  obtain ⟨sent, events, heard⟩ := start_tells discreet depth o r
  refine ⟨sent, events, fun reports => ?_, fun mute => ?_⟩
  · rw [if_pos reports] at heard
    refine ⟨heard, ?_⟩
    have count := HostEvent.length_diagnostics (sent.map Prod.snd)
    rw [heard.length_eq, troubles, List.length_append, List.length_map, WalkReport.length_problems,
      List.countP_map] at count
    exact count.symm
  · rw [if_neg (Bool.eq_false_iff.1 mute), List.perm_nil] at heard
    exact fun e mem => HostEvent.diagnostics_eq_nil_iff.1 heard _ (List.mem_map_of_mem mem)

theorem problems_told_once_echo :
    let s : Surroundings :=
      { registry := .builtins, library := [Graph.echo],
        settings := { maxWalkSteps := 2, maxFanoutDepth := 3 }, draws := .ofSeed 7 }
    let o : Occasion := .event "Game" "g" "Event_OnGameStart"
    s.registry.Discreet ∧ (o.entries s.library).length = 1 ∧
      ∃ sent, (s.start 0 o { world := {} }).2.events = sent ∧
        sent.countP (fun e => e.2.isDiagnostic) =
          (WalkReport.allOf (s.start 0 o { world := {} }).1).countP (fun x => x.status.isProblem) +
            (s.drops 0 o { world := {} }).length := by
  intro s o
  have discreet : s.registry.Discreet := Registry.isBuiltin_builtins.discreet
  obtain ⟨sent, events, told, -⟩ := s.problems_told_once discreet 0 o { world := {} }
  exact ⟨discreet, by decide +kernel, sent, events, (told rfl).2⟩

end Surroundings

end StoryGraph
