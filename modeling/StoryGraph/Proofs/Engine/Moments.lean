import StoryGraph.Proofs.Engine.Deeds

/-!
The moments of a run in which requests are carried out one after the other. Main statements: the run is at such moments
before and after each deed and at its end, and what holds from each step to the next holds from the beginning to each
of them.
-/

namespace StoryGraph

open Run (Leads)

namespace Surroundings

/-- The run can be like this while the requests are carried out. -/
inductive Reaches (s : Surroundings) : List (Nat × Command) → Run → Run → Prop where
  | start {calls r} : Reaches s calls r r
  | during {t c rest r m} (leads : Leads s (c.opening (r.resume t)) m) : Reaches s ((t, c) :: rest) r m
  | later {t c rest r m} (reaches : Reaches s rest (c.perform s (r.resume t)).2 m) : Reaches s ((t, c) :: rest) r m

variable {s : Surroundings} {calls : List (Nat × Command)} {r m : Run}

theorem reaches_serve (calls : List (Nat × Command)) (r : Run) : s.Reaches calls r (s.serve calls r).2 := by
  induction calls generalizing r with
  | nil => exact .start
  | cons call rest ih => exact .later (ih _)

/-- Every deed is done at one moment, and is done at another one. -/
theorem Does.exists_reached {d : World.Deed} (builtins : s.registry.IsBuiltin) (does : s.Does calls r d) :
    ∃ m m', s.Reaches calls r m ∧ s.Reaches calls r m' ∧ m.world = d.before ∧ m'.world = d.after := by
  induction does with
  | @opened t c rest r d deed =>
    have after : (c.opening (r.resume t)).world = d.after := by
      have same : c.deed? (r.resume t).world = some d := deed
      rw [c.world_opening, same, Option.map_some, Option.getD_some]
    exact ⟨r, _, .start, .during .refl, (Command.before_of_deed? deed).symm, after⟩
  | @called t c rest r kind call makes known =>
    obtain ⟨⟨m, leads, world⟩, h, handler⟩ := makes.exists_leads
    obtain ⟨kind', found, -, rfl⟩ := builtins.of_handlerFor handler
    cases known.symm.trans found
    have after := leads.trans (.handler handler world)
    exact ⟨m, _, .during leads, .during after, world.symm, rfl⟩
  | later _ ih =>
    obtain ⟨m, m', before, after, worlds⟩ := ih
    exact ⟨m, m', .later before, .later after, worlds⟩

/-- What holds of two runs if each step on the way from the one to the other is of a kind that brings it about. -/
structure Steps (s : Surroundings) (R : Run → Run → Prop) : Prop where
  refl (r : Run) : R r r
  trans {r r' r'' : Run} : R r r' → R r' r'' → R r r''
  resume (r : Run) (t : Nat) : R r (r.resume t)
  opening (c : Command) (r : Run) : R r (c.opening r)
  handler {t : NodeType} {c : Call} (r : Run) (world : c.world = r.world) : R r (r.absorb (builtin t c))
  pause (r : Run) (millis : Nat) : R r (r.pause s millis).2
  diagnose (r : Run) (text : String) : R r (r.diagnose s.settings text)

namespace Steps

variable {R : Run → Run → Prop}

theorem leads (steps : s.Steps R) (builtins : s.registry.IsBuiltin) {r r' : Run} (l : Leads s r r') : R r r' := by
  induction l with
  | refl => exact steps.refl _
  | handled handler world _ ih =>
    obtain ⟨t, -, -, rfl⟩ := builtins.of_handlerFor handler
    exact steps.trans (steps.handler _ world) ih
  | paused _ ih => exact steps.trans (steps.pause _ _) ih
  | told _ ih => exact steps.trans (steps.diagnose _ _) ih

theorem reached (steps : s.Steps R) (builtins : s.registry.IsBuiltin) (reaches : s.Reaches calls r m) : R r m := by
  have opened (t : Nat) (c : Command) (r : Run) : R r (c.opening (r.resume t)) :=
    steps.trans (steps.resume r t) (steps.opening c _)
  induction reaches with
  | start => exact steps.refl _
  | during l => exact steps.trans (opened _ _ _) (steps.leads builtins l)
  | @later t c rest r m _ ih =>
    have performed := steps.leads builtins (s.perform_leads c (r.resume t))
    exact steps.trans (opened t c r) (steps.trans performed ih)

end Steps

end Surroundings

end StoryGraph
