import StoryGraph.Proofs.Engine.Serve
import StoryGraph.Proofs.Handler.Ways

/-!
What holds of a world through everything that a host has an engine do. Main statement: what actions, written
properties and the end of a turn preserve holds after all requests, if the handlers are the built-in ones.
-/

namespace StoryGraph

open Run (Leads)

/-- Nothing that changes a world breaks it. Of the built-in handlers, only those of actions and of dialogue
change the world. -/
structure World.Invariant (P : World → Prop) : Prop where
  act (t : ActionType) (c : Call) : P c.world → P (Act.of t c).world
  dialogue (t : DialogueType) (c : Call) : P c.world → P (Dialogue.act t c).world
  write (w : World) (t : EntityType) (id property : String) (v : Value) :
    P w → P (w.writeProperty t id property v).1
  tick (w : World) : P w → P w.tick

theorem Run.world_pause (s : Surroundings) (millis : Nat) (r : Run) : (r.pause s millis).2.world = r.world := by
  simp only [pause]
  split
  · rfl
  · split <;> rfl

theorem Run.world_diagnose (s : Settings) (text : String) (r : Run) : (r.diagnose s text).world = r.world := by
  simp only [diagnose]
  split <;> rfl

namespace World.Invariant

variable {P : World → Prop} {s : Surroundings} {r r' : Run}

theorem handler (inv : Invariant P) (t : NodeType) {c : Call} (h : P c.world) : P (builtin t c).world := by
  cases t with
  | action t => exact inv.act t c h
  | dialogue t => exact inv.dialogue t c h
  | event t | condition t | flow t | source t => exact h

theorem leads (inv : Invariant P) (builtins : s.registry.IsBuiltin) (l : Leads s r r') (h : P r.world) :
    P r'.world := by
  induction l with
  | refl => exact h
  | handled handler world _ ih =>
    obtain ⟨t, -, -, rfl⟩ := builtins.of_handlerFor handler
    rw [← world] at h
    exact ih (inv.handler t h)
  | paused _ ih =>
    apply ih
    rw [Run.world_pause]
    exact h
  | told _ ih =>
    apply ih
    rw [Run.world_diagnose]
    exact h

theorem opening (inv : Invariant P) (c : Command) (h : P r.world) : P (c.opening r).world := by
  cases c with
  | setProperty type id property v =>
    simp only [Command.opening]
    split
    · exact h
    · exact inv.write r.world _ id property v h
  | advanceTurn => exact inv.tick r.world h
  | trigger | executeNode | getProperty | snapshot => exact h

theorem perform (inv : Invariant P) (builtins : s.registry.IsBuiltin) (c : Command) (h : P r.world) :
    P (c.perform s r).2.world :=
  inv.leads builtins (s.perform_leads c r) (inv.opening c h)

theorem serve (inv : Invariant P) (builtins : s.registry.IsBuiltin) (calls : List (Nat × Command))
    (h : P r.world) : P (s.serve calls r).2.world := by
  induction calls generalizing r with
  | nil => exact h
  | cons call rest ih =>
    have next : P (call.2.perform s (r.resume call.1)).2.world := inv.perform builtins call.2 h
    exact ih next

end World.Invariant

end StoryGraph
