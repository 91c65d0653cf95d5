import StoryGraph.Proofs.Handler.Ways
import StoryGraph.Proofs.Walk.Nested

/-!
Walks with built-in handlers do not fail. A walk fails if a handler breaks down or says that it failed, and
the built-in ones do neither. Main statement: over any graphs and worlds, and however deep walks start one
another, none of them ends as failed.
-/

namespace StoryGraph

namespace Fault

/-- Faults of handlers, not of graphs or of the engine. -/
def IsBreakdown : Fault → Prop
  | failed _ _ | panicked _ _ => True
  | _ => False

end Fault

theorem Status.of_eq_failed {fault : Option Fault} {reason : String} (h : Status.of fault = .failed reason) :
    ∃ f, fault = some f ∧ f.IsBreakdown := by
  cases fault with
  | none => simp [Status.of] at h
  | some f =>
    cases f with
    | failed node message | panicked node message => exact ⟨_, rfl, trivial⟩
    | cycle node | stepLimit limit | cancelled => simp [Status.of] at h

namespace Walk

variable {s : Surroundings} {F : Firing} {steps : Nat} {pending : List (List Node × Visit)} {w : Walk}
  {depth : Nat} {g : Graph} {stops : List Stop} {e : Ending}

theorem after_eq_failed {n node : String} {trail : List String} {next : Next} {r r' : Run} {message : String}
    (h : after s g n trail next r = (.error (.failed node message), r')) : next = .fail message := by
  cases next with
  | goOn port | fork ports | stop => simp [after] at h
  | fail m =>
    simp only [after, Prod.mk.injEq, Except.error.injEq, Fault.failed.injEq] at h
    rw [h.1.2]
  | wait pause =>
    simp only [after] at h
    split at h
    case h_1 paused =>
      have cancelled := Run.pause_fault (congrArg Prod.fst paused)
      simp [cancelled] at h
    case h_2 => simp at h

theorem Course.not_breakdown (builtins : s.registry.IsBuiltin)
    (c : Course s F steps pending w depth g stops e) : ∀ f, e.fault = some f → ¬ f.IsBreakdown := by
  induction c with
  | done => simp
  | missing _ _ ih | bare _ _ _ _ _ ih | went _ _ _ _ _ _ _ _ ih => exact ih
  | cycle | spent => simp [Fault.IsBreakdown]
  | broke found trail limit handler result =>
    obtain ⟨t, -, -, rfl⟩ := builtins.of_handlerFor handler
    obtain ⟨out, answer, -⟩ := builtin_fits t _
    rw [answer] at result
    cases result
  | @halted _ _ _ _ _ _ _ _ _ _ _ _ fault _ found trail limit handler result effects ways =>
    obtain ⟨t, -, -, rfl⟩ := builtins.of_handlerFor handler
    have selects := builtin_selects result
    intro f hf breakdown
    cases hf
    cases after_error ways with
    | inl cancelled =>
      rw [cancelled] at breakdown
      exact breakdown
    | inr failed =>
      obtain ⟨message, rfl⟩ := failed
      rw [after_eq_failed ways] at selects
      exact selects

end Walk

namespace WalkReport

/-- Neither the walk nor any walk within it ended as failed. -/
def Unfailing (x : WalkReport) : Prop := ∀ y ∈ x.all, ∀ reason, y.status ≠ .failed reason

end WalkReport

theorem Fanout.inherited_unfailing {s : Surroundings} (builtins : s.registry.IsBuiltin) :
    Inherited s fun _ _ x => x.Unfailing := by
  intro final depth g entry outputs r stops e tour _ within y hy reason
  rw [Walk.conclude, WalkReport.all, List.mem_cons] at hy
  cases hy with
  | inl here =>
    intro failed
    rw [here] at failed
    obtain ⟨f, fault, breakdown⟩ := Status.of_eq_failed failed
    exact tour.not_breakdown builtins f fault breakdown
  | inr nested =>
    obtain ⟨x, hx, member⟩ := WalkReport.mem_allOf.1 nested
    exact within x hx y member reason

/-- Every node of the catalog has a built-in handler that answers and goes on by listed ports, and so no
walk with built-in handlers fails. -/
theorem Surroundings.builtins_unfailing (s : Surroundings) (builtins : s.registry.IsBuiltin) :
    (∀ (n : Node) (t : NodeType), n.kind? = some t →
      ∃ h, Registry.builtins.handlerFor n = some h ∧
        ∀ c : Call, ∃ out, (h c).result = .ok out ∧ out.next.Selects t.ports) ∧
    (∀ depth g entry outputs r, (s.walk depth g entry outputs r).1.Unfailing) ∧
    (∀ (c : Command) r, ∀ x ∈ (c.perform s r).1.walks, x.Unfailing) := by
  have inherited := Fanout.inherited_unfailing builtins
  refine ⟨?_, ?_, ?_⟩
  · intro n t kind
    refine ⟨builtin t, by rw [Registry.handlerFor, kind]; rfl, fun c => ?_⟩
    obtain ⟨out, result, selects, -⟩ := builtin_fits t c
    exact ⟨out, result, selects⟩
  · exact walk_inherits inherited
  · exact perform_inherits inherited

theorem Surroundings.builtins_unfailing_dice :
    let s : Surroundings := { registry := .builtins, library := [], settings := {}, draws := .ofSeed 7 }
    let c : Command := .executeNode { id := "dice", typeTag := "Flow_RandomBranch" }
    s.registry.IsBuiltin ∧ (c.perform s { world := {} }).1.walks.length = 1 ∧
      ∀ x ∈ (c.perform s { world := {} }).1.walks, x.Unfailing := by
  intro s c
  have builtins : s.registry.IsBuiltin := Registry.isBuiltin_builtins
  exact ⟨builtins, rfl, (s.builtins_unfailing builtins).2.2 c { world := {} }⟩

end StoryGraph
