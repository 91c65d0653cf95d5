import StoryGraph.Handler.Builtin
import StoryGraph.Proofs.Validation.CycleSearch
import StoryGraph.Proofs.Validation.Findings
import StoryGraph.Proofs.Walk.Budget

/-!
The static check for cycles is sound: a walk over a graph for which no cycle is found never comes back
to a node that it has come from, whatever its handlers select.
-/

namespace StoryGraph

open Relation

/-- What a walk has come along: from each node of the trail, connections lead to the node of the visit. -/
def Led (g : Graph) (v : Visit) : Prop :=
  ∀ n, g.node? v.node = some n → ∀ a ∈ v.trail, TransGen (fun a b => b ∈ g.targets a) a (Text.fold n.id)

theorem Led.follow {g : Graph} {v : Visit} {n : Node} {port : String} {c : Connection} (h : Led g v)
    (hn : g.node? v.node = some n) (hc : g.connectionFrom? n.id port = some c) :
    Led g ⟨c.toNode, c.toPort, Text.fold n.id :: v.trail⟩ := by
  intro m hm a ha
  have step : Text.fold m.id ∈ g.targets (Text.fold n.id) := by
    obtain ⟨mem, leaves, -⟩ := Graph.connectionFrom?_eq_some hc
    have found : (g.node? c.toNode).isSome := by rw [hm]; rfl
    exact Graph.mem_targets.2 ⟨c, mem, ⟨leaves, found⟩, (Graph.node?_eq_some hm).2.symm⟩
  rcases List.mem_cons.1 ha with rfl | ha
  · exact .single step
  · exact .tail (h n hn a ha) step

namespace Walk

theorem Course.no_cycle {s : Surroundings} {F : Firing} {steps : Nat} {pending : List (List Node × Visit)}
    {w : Walk} {depth : Nat} {g : Graph} {stops : List Stop} {e : Ending} (hg : g.cycles = [])
    (c : Course s F steps pending w depth g stops e) (hp : ∀ p ∈ pending, Led g p.2) (id : String) :
    e.fault ≠ some (.cycle id) := by
  rw [ne_eq, c.fault_cycle_iff]
  rintro ⟨t, ht, n, turned, -⟩
  have led : Led g t.visit := by
    refine c.forall_visit (P := fun _ v => Led g v) (fun _ v n port k h hn _ hk => ?_) hp t ht
    exact h.follow hn hk
  obtain ⟨found, trail⟩ := c.agrees t ht
  have hn : t.arrival.node? = some n := by rw [turned]; rfl
  have back := led n (found.trans hn) _ ((trail n hn).1 ⟨n, turned⟩)
  exact Graph.acyclic_of_cycles hg _ back

end Walk

/-- Two ways meet again; one name is declared twice, names are written in both cases, and a connection
leads nowhere. -/
def Graph.diamond : Graph where
  id := "diamond"
  nodes := [{ id := "start", typeTag := "Flow_Sequence" }, { id := "Left", typeTag := "Action_Log" },
    { id := "right", typeTag := "Action_Log" }, { id := "end", typeTag := "Action_Log" },
    { id := "START", typeTag := "Action_Log" }]
  connections := [⟨"Start", "Then0", "left", "Exec"⟩, ⟨"start", "then1", "RIGHT", "Exec"⟩,
    ⟨"left", "Exec", "end", "Exec"⟩, ⟨"right", "Exec", "END", "Exec"⟩, ⟨"end", "Exec", "ghost", "Exec"⟩]

theorem Graph.cycles_diamond : diamond.cycles = [] := by
  have nodes : (diamond.nodes.map fun n => Text.fold n.id) = ["start", "left", "right", "end", "start"] := by
    decide
  have start : diamond.targets "start" = ["left", "right"] := by decide
  have left : diamond.targets "left" = ["end"] := by decide
  have right : diamond.targets "right" = ["end"] := by decide
  have last : diamond.targets "end" = [] := by decide
  simp [cycles, nodes, closingNodes, without, start, left, right, last]

namespace Surroundings

/-- Where no cycle is found, no walk is ever aborted for one. -/
theorem walk_status_ne_cycle (s : Surroundings) (depth : Nat) (g : Graph) (entry : String)
    (outputs : Outputs) (r : Run) (handled : NodeType → Bool)
    (h : ∀ id, Finding.cycle id ∉ g.findings handled) (id : String) :
    (s.walk depth g entry outputs r).1.status ≠ .aborted (Fault.cycle id).message := by
  have hg : g.cycles = [] :=
    List.eq_nil_iff_forall_not_mem.2 fun id mem => h id (Graph.cycle_mem_findings.2 mem)
  obtain ⟨stops, e, tour, walk⟩ := s.exists_tour depth g entry outputs r
  have led : Led g ⟨entry, Port.exec, []⟩ := by simp [Led]
  have none := Walk.Course.no_cycle hg tour (List.forall_mem_singleton.2 led) id
  rw [walk]
  exact fun status => none (Status.of_eq_cycle.1 status)

theorem walk_diamond_status_ne_cycle :
    let s : Surroundings := { registry := .builtins, library := [], settings := {}, draws := .ofSeed 7 }
    (∀ id, Finding.cycle id ∉ Graph.diamond.findings fun _ => true) ∧
      ∀ id, (s.walk 0 Graph.diamond "start" .empty { world := {} }).1.status ≠
        .aborted (Fault.cycle id).message := by
  intro s
  have none : ∀ id, Finding.cycle id ∉ Graph.diamond.findings fun _ => true := by
    intro id
    rw [Graph.cycle_mem_findings, Graph.cycles_diamond]
    exact List.not_mem_nil
  exact ⟨none, s.walk_status_ne_cycle 0 Graph.diamond "start" .empty { world := {} } _ none⟩

end Surroundings

end StoryGraph
