import Mathlib.Data.List.Chain
import StoryGraph.Proofs.Validation.CycleSearch

/-!
What the search in depth finds. It is told here step by step: a run of the search has an end, and what has been found
there is the answer. Main statement: the nodes that the search finds lie on cycles, each is found once, and every cycle
goes through one of them.
-/

namespace StoryGraph

open Relation

/-- How far a search has come: the ids that it has not met, its path, and the nodes that it has found. -/
structure Search where
  fresh : List String
  path : SearchPath := []
  found : List String := []

namespace Search

variable {targets : String → List String}

/-- One step of the search. -/
inductive Step (targets : String → List String) : Search → Search → Prop where
  | root {root rest found} : Step targets ⟨root :: rest, [], found⟩ ⟨without rest root, [(root, targets root)], found⟩
  | leave {fresh node outer found} : Step targets ⟨fresh, (node, []) :: outer, found⟩ ⟨fresh, outer, found⟩
  | enter {fresh node target rest outer found} (new : target ∈ fresh) :
      Step targets ⟨fresh, (node, target :: rest) :: outer, found⟩
        ⟨without fresh target, (target, targets target) :: (node, rest) :: outer, found⟩
  | close {fresh node target rest outer found} (met : target ∉ fresh) (on : target ∈ node :: outer.map Prod.fst) :
      Step targets ⟨fresh, (node, target :: rest) :: outer, found⟩
        ⟨fresh, (node, rest) :: outer, if found.contains target then found else found ++ [target]⟩
  | pass {fresh node target rest outer found} (met : target ∉ fresh) (off : target ∉ node :: outer.map Prod.fst) :
      Step targets ⟨fresh, (node, target :: rest) :: outer, found⟩ ⟨fresh, (node, rest) :: outer, found⟩

/-- What the search answers from here on. -/
def answer (targets : String → List String) (q : Search) : List String := closingNodes targets q.fresh q.path q.found

/-- Every step leaves less to try, so a run of the search has an end. -/
theorem wellFounded_step (targets : String → List String) :
    WellFounded fun later earlier => Step targets earlier later := by
  let left (q : Search) : Nat × Nat := (q.fresh.length, q.path.work)
  have less {later earlier : Search} (step : Step targets earlier later) :
      Prod.Lex (· < ·) (· < ·) (left later) (left earlier) := by
    cases step with
    | root => exact .left _ _ (Nat.lt_succ_of_le (length_without_le _ _))
    | enter new => exact .left _ _ (length_without_lt new)
    | leave | close | pass => exact .right _ (by simp [SearchPath.work])
  exact Subrelation.wf less (InvImage.wf left (Prod.lex Nat.lt_wfRel Nat.lt_wfRel).wf)

/-- The search goes on until nothing is left to try. -/
theorem exists_step {q : Search} (h : q.fresh ≠ [] ∨ q.path ≠ []) : ∃ q', Step targets q q' := by
  obtain ⟨fresh, path, found⟩ := q
  match fresh, path with
  | [], [] => simp at h
  | root :: rest, [] => exact ⟨_, .root⟩
  | fresh, (node, []) :: outer => exact ⟨_, .leave⟩
  | fresh, (node, target :: rest) :: outer =>
    by_cases new : target ∈ fresh
    · exact ⟨_, .enter new⟩
    · by_cases met : target ∈ node :: outer.map Prod.fst
      · exact ⟨_, .close new met⟩
      · exact ⟨_, .pass new met⟩

theorem Step.answer_eq {q q' : Search} (step : Step targets q q') : q.answer targets = q'.answer targets := by
  simp only [answer]
  cases step with
  | root | leave => rw [closingNodes]
  | enter new => rw [closingNodes, if_pos new]
  | close met on => rw [closingNodes, if_neg met, if_pos (any_fst_iff.2 on)]
  | pass met off => rw [closingNodes, if_neg met, if_neg (mt any_fst_iff.1 off)]

/-- A run that cannot go on has come to the answer. -/
theorem answer_of_run {q last : Search} (run : ReflTransGen (Step targets) q last)
    (ended : ∀ q', ¬ Step targets last q') : last.found = q.answer targets := by
  induction run using ReflTransGen.head_induction_on with
  | refl =>
    by_contra other
    have more : last.fresh ≠ [] ∨ last.path ≠ [] := by
      by_contra done
      rw [not_or, not_not, not_not] at done
      exact other (by rw [answer, done.1, done.2, closingNodes])
    obtain ⟨q', step⟩ := exists_step more
    exact ended q' step
  | head step _ ih => rw [ih, step.answer_eq]

theorem exists_run (targets : String → List String) (q : Search) :
    ∃ last, ReflTransGen (Step targets) q last ∧ ∀ q', ¬ Step targets last q' := by
  induction q using (wellFounded_step targets).induction with
  | _ q ih =>
    by_cases more : ∃ q', Step targets q q'
    · obtain ⟨q', step⟩ := more
      obtain ⟨last, run, ended⟩ := ih q' step
      exact ⟨last, .head step run, ended⟩
    · exact ⟨q, .refl, not_exists.1 more⟩

/-! What a search has found. -/

/-- Each node of the path leads to the next, what is left to try is led to, and what has been found lies on cycles. -/
structure Sound (targets : String → List String) (q : Search) : Prop where
  linked : (q.path.map Prod.fst).IsChain fun inner outer => inner ∈ targets outer
  tried : ∀ f ∈ q.path, ∀ b ∈ f.2, b ∈ targets f.1
  found : ∀ x ∈ q.found, TransGen (fun a b => b ∈ targets a) x x
  nodup : q.found.Nodup

/-- Every node of a path leads to the innermost one. -/
theorem reaches_innermost {node : String} {outer : List String}
    (linked : (node :: outer).IsChain fun inner outer => inner ∈ targets outer) {x : String} (on : x ∈ node :: outer) :
    ReflTransGen (fun a b => b ∈ targets a) x node := by
  induction outer generalizing node with
  | nil =>
    rw [List.mem_singleton.1 on]
  | cons next outer ih =>
    rw [List.isChain_cons_cons] at linked
    cases List.mem_cons.1 on with
    | inl same => rw [same]
    | inr further => exact (ih linked.2 further).tail linked.1

theorem mem_note {found : List String} {target x : String} :
    x ∈ (if found.contains target then found else found ++ [target]) ↔ x ∈ found ∨ x = target := by
  split
  case isTrue already =>
    rw [List.contains_iff_mem] at already
    exact ⟨.inl, fun h => h.elim id fun same => same ▸ already⟩
  case isFalse => rw [List.mem_append, List.mem_singleton]

theorem nodup_note {found : List String} {target : String} (h : found.Nodup) :
    (if found.contains target then found else found ++ [target]).Nodup := by
  split
  case isTrue => exact h
  case isFalse new =>
    rw [List.contains_iff_mem] at new
    refine List.nodup_append.2 ⟨h, by simp, fun x mem y here same => new ?_⟩
    rwa [same, List.mem_singleton.1 here] at mem

theorem Sound.step {q q' : Search} (h : q.Sound targets) (step : Step targets q q') : q'.Sound targets := by
  obtain ⟨linked, tried, found, nodup⟩ := h
  cases step with
  | root => exact ⟨.singleton _, by simp, found, nodup⟩
  | leave => exact ⟨linked.tail, fun f mem => tried f (List.mem_cons_of_mem _ mem), found, nodup⟩
  | @enter fresh node target rest outer _ new =>
    obtain ⟨here, later⟩ := List.forall_mem_cons.1 tried
    refine ⟨.cons_cons (here target List.mem_cons_self) linked, ?_, found, nodup⟩
    simp only [List.forall_mem_cons]
    exact ⟨fun b mem => mem, fun b mem => here b (List.mem_cons_of_mem _ mem), later⟩
  | @close fresh node target rest outer already met on =>
    obtain ⟨here, later⟩ := List.forall_mem_cons.1 tried
    -- The way from the target up the path comes back to it.
    have cycle : TransGen (fun a b => b ∈ targets a) target target :=
      .tail' (reaches_innermost linked on) (here target List.mem_cons_self)
    refine ⟨linked, List.forall_mem_cons.2 ⟨fun b mem => here b (List.mem_cons_of_mem _ mem), later⟩, ?_, ?_⟩
    · intro x mem
      rcases mem_note.1 mem with mem | rfl
      · exact found x mem
      · exact cycle
    · exact nodup_note nodup
  | pass =>
    obtain ⟨here, later⟩ := List.forall_mem_cons.1 tried
    exact ⟨linked, List.forall_mem_cons.2 ⟨fun b mem => here b (List.mem_cons_of_mem _ mem), later⟩, found, nodup⟩

theorem Sound.run {q last : Search} (h : q.Sound targets) (run : ReflTransGen (Step targets) q last) :
    last.Sound targets := by
  induction run with
  | refl => exact h
  | tail _ step ih => exact ih.step step

/-- At its start a search has found nothing. -/
theorem sound_start (fresh : List String) : (⟨fresh, [], []⟩ : Search).Sound targets :=
  ⟨.nil, by simp, by simp, .nil⟩

end Search

namespace Graph

variable {g : Graph} {a b : String}

/-- The edges between the nodes of a graph: its connections, by the lowered ids of the nodes. A connection whose target
does not exist is no edge. -/
def Edge (g : Graph) (a b : String) : Prop :=
  b ∈ g.nodes.map (fun n => Text.fold n.id) ∧
    ∃ c ∈ g.connections, Text.fold c.fromNode = a ∧ Text.fold c.toNode = b

instance (g : Graph) (a b : String) : Decidable (g.Edge a b) := inferInstanceAs (Decidable (_ ∧ _))

/-- A cycle through a node and some more: each leads to the next, and the last one to the first. -/
structure Cycle (g : Graph) (a : String) (more : List String) : Prop where
  links : (a :: more).IsChain g.Edge
  closes : g.Edge ((a :: more).getLast (List.cons_ne_nil a more)) a

theorem edge_iff : g.Edge a b ↔ b ∈ g.targets a := by
  rw [mem_targets, Edge]
  constructor
  · rintro ⟨declared, c, mem, rfl, rfl⟩
    exact ⟨c, mem, ⟨rfl, isSome_node?.2 declared⟩, rfl⟩
  · rintro ⟨c, mem, ⟨rfl, found⟩, rfl⟩
    exact ⟨isSome_node?.1 found, c, mem, rfl, rfl⟩

/-- A way that comes back to where it started is a cycle. -/
theorem exists_cycle (way : TransGen (fun a b => b ∈ g.targets a) a a) : ∃ more, g.Cycle a more := by
  obtain ⟨last, there, back⟩ := TransGen.tail'_iff.1 way
  obtain ⟨more, links, same⟩ := List.exists_isChain_cons_of_relationReflTransGen there
  exact ⟨more, links.imp fun _ _ => edge_iff.2, by rw [same]; exact edge_iff.2 back⟩

/-- A cycle whose nodes have a property is a way within the property. -/
theorem Cycle.transGen {more : List String} {P : String → Prop} (h : g.Cycle a more) (all : ∀ x ∈ a :: more, P x) :
    TransGen (fun a b => b ∈ g.targets a ∧ P b) a a := by
  have links : (a :: more).IsChain fun a b => b ∈ g.targets a ∧ P b :=
    h.links.imp_of_mem_imp fun a b _ mem edge => ⟨edge_iff.1 edge, all b mem⟩
  exact .tail' (List.relationReflTransGen_of_exists_isChain_cons more links rfl)
    ⟨edge_iff.1 h.closes, all a List.mem_cons_self⟩

/-- The search for cycles, at its start. -/
def search (g : Graph) : Search where
  fresh := g.nodes.map fun n => Text.fold n.id

theorem declared_of_answer {id : String} (h : id ∈ g.search.answer g.targets) :
    ∃ n ∈ g.nodes, g.node? id = some n ∧ Text.fold n.id = id := by
  have fresh : id ∈ g.nodes.map fun n => Text.fold n.id := by simpa [search] using mem_of_mem_closingNodes h
  obtain ⟨there, _, folded⟩ := List.mem_map.1 fresh
  have lowered : Text.fold id = id := by rw [← folded, Text.fold_fold]
  obtain ⟨n, found⟩ := Option.isSome_iff_exists.1 (isSome_node?.2 (lowered.symm ▸ fresh))
  obtain ⟨mem, same⟩ := node?_eq_some found
  exact ⟨n, mem, found, same.trans lowered⟩

/-- The answer of the search and the list of cycles name the same nodes. -/
theorem fold_cycles : g.cycles.map Text.fold = g.search.answer g.targets := by
  have same : ∀ id ∈ g.search.answer g.targets, ((g.node? id).map Node.id).map Text.fold = some id := by
    intro id mem
    obtain ⟨n, -, found, folded⟩ := declared_of_answer mem
    rw [found, Option.map_some, Option.map_some, folded]
  calc g.cycles.map Text.fold
      = (g.search.answer g.targets).filterMap fun id => ((g.node? id).map Node.id).map Text.fold :=
        List.map_filterMap
    _ = (g.search.answer g.targets).filterMap some := List.filterMap_congr same
    _ = g.search.answer g.targets := List.filterMap_some

theorem sound_answer : (⟨[], [], g.search.answer g.targets⟩ : Search).Sound g.targets := by
  obtain ⟨last, run, ended⟩ := g.search.exists_run g.targets
  have sound := (Search.sound_start _).run run
  rw [← Search.answer_of_run run ended]
  exact ⟨.nil, by simp, sound.found, sound.nodup⟩

theorem meets_answer (a : String) :
    ¬ TransGen (fun a b => b ∈ g.targets a ∧ b ∉ g.search.answer g.targets) a a := by
  let path : SearchPath := []
  have start : Searched g.targets (g.search.answer g.targets) [] (g.nodes.map fun n => Text.fold n.id)
      (path.map Prod.fst) := Searched.start fun _ _ => targets_subset
  exact start.meets rfl trivial a

/-- The search for cycles is exact: it comes to an end, and what it answers is what it has found there; each node that
it answers lies on a cycle; every cycle goes through one of them; and none is answered twice. -/
theorem cycles_exact (g : Graph) :
    (WellFounded fun later earlier => Search.Step g.targets earlier later) ∧
    (∀ last, ReflTransGen (Search.Step g.targets) g.search last → (∀ q, ¬ Search.Step g.targets last q) →
      last.found = g.cycles.map Text.fold) ∧
    (∀ id ∈ g.cycles, (∃ n ∈ g.nodes, n.id = id) ∧ ∃ more, g.Cycle (Text.fold id) more) ∧
    (∀ a more, g.Cycle a more → ∃ id ∈ g.cycles, Text.fold id ∈ a :: more) ∧
    (g.cycles = [] ↔ ∀ a more, ¬ g.Cycle a more) ∧
    (g.cycles.map Text.fold).Nodup := by
  have found : ∀ id ∈ g.cycles, ∃ more, g.Cycle (Text.fold id) more := by
    intro id mem
    have answered := List.mem_map_of_mem (f := Text.fold) mem
    rw [fold_cycles] at answered
    exact exists_cycle (sound_answer.found _ answered)
  have met : ∀ a more, g.Cycle a more → ∃ id ∈ g.cycles, Text.fold id ∈ a :: more := by
    intro a more cycle
    by_contra missed
    refine meets_answer a (cycle.transGen fun x on answered => missed ?_)
    rw [← fold_cycles] at answered
    obtain ⟨id, mem, rfl⟩ := List.mem_map.1 answered
    exact ⟨id, mem, on⟩
  refine ⟨Search.wellFounded_step g.targets, fun last run ended => ?_, fun id mem => ⟨?_, found id mem⟩, met, ?_, ?_⟩
  · rw [fold_cycles, Search.answer_of_run run ended]
  · obtain ⟨key, answered, here⟩ := List.mem_filterMap.1 mem
    obtain ⟨n, declared, node, -⟩ := declared_of_answer answered
    rw [node] at here
    exact ⟨n, declared, Option.some.inj here⟩
  · constructor
    · intro none a more cycle
      obtain ⟨id, mem, -⟩ := met a more cycle
      rw [none] at mem
      exact List.not_mem_nil mem
    · intro none
      refine List.eq_nil_iff_forall_not_mem.2 fun id mem => ?_
      obtain ⟨more, cycle⟩ := found id mem
      exact none _ _ cycle
  · rw [fold_cycles]
    exact sound_answer.nodup

/-- Three nodes in a ring, with two connections back to the first, one of them left over from a node that is declared
twice, and one node that leads to itself. -/
def ring : Graph where
  id := "ring"
  nodes := [{ id := "a", typeTag := "Action_Log" }, { id := "B", typeTag := "Flow_Sequence" },
    { id := "C", typeTag := "Flow_Sequence" }, { id := "b", typeTag := "Action_Log" }]
  connections := [⟨"A", "Exec", "b", "Exec"⟩, ⟨"b", "Then0", "c", "Exec"⟩, ⟨"c", "Then0", "a", "Exec"⟩,
    ⟨"c", "Then1", "C", "Exec"⟩, ⟨"C", "Then2", "a", "Exec"⟩, ⟨"b", "Then1", "ghost", "Exec"⟩]

theorem cycles_ring : ring.cycles = ["a", "C"] := by
  have nodes : (ring.nodes.map fun n => Text.fold n.id) = ["a", "b", "c", "b"] := by decide
  have a : ring.targets "a" = ["b"] := by decide
  have b : ring.targets "b" = ["c"] := by decide
  have c : ring.targets "c" = ["a", "c", "a"] := by decide
  have first : (ring.node? "a").map Node.id = some "a" := by decide
  have last : (ring.node? "c").map Node.id = some "C" := by decide
  simp [cycles, nodes, closingNodes, without, a, b, c, first, last]

theorem cycles_exact_ring :
    ring.Cycle "a" ["b", "c"] ∧ (∃ id ∈ ring.cycles, Text.fold id ∈ ["a", "b", "c"]) ∧
      "C" ∈ ring.cycles ∧ (∃ n ∈ ring.nodes, n.id = "C") ∧ (∃ more, ring.Cycle (Text.fold "C") more) ∧
      ∃ last, ReflTransGen (Search.Step ring.targets) ring.search last ∧
        (∀ q, ¬ Search.Step ring.targets last q) ∧ last.found = ["a", "C"].map Text.fold := by
  obtain ⟨-, answers, found, met, -⟩ := cycles_exact ring
  have cycle : ring.Cycle "a" ["b", "c"] := ⟨by decide +kernel, by decide +kernel⟩
  have mem : "C" ∈ ring.cycles := by
    rw [cycles_ring]
    decide
  obtain ⟨last, run, ended⟩ := ring.search.exists_run ring.targets
  have came := answers last run ended
  rw [cycles_ring] at came
  exact ⟨cycle, met "a" ["b", "c"] cycle, mem, (found "C" mem).1, (found "C" mem).2, last, run, ended, came⟩

end Graph

end StoryGraph
