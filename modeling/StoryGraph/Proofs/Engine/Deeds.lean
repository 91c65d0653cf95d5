import StoryGraph.Proofs.Engine.Invariant
import StoryGraph.Proofs.Walk.Calls

/-!
What is done to the world while requests are carried out: the calls of handlers, the properties that a host
writes and the turns that it ends, each with the world before and after it. Main statement: what none of the
deeds of some requests breaks holds after all of them.
-/

namespace StoryGraph

open Run (LedBy)

namespace World

/-- Something that is done to a world. -/
inductive Deed where
  /-- A built-in handler is called. -/
  | ran (t : NodeType) (c : Call)
  | wrote (w : World) (t : EntityType) (id property : String) (v : Value)
  | turned (w : World)

namespace Deed

def before : Deed → World
  | ran _ c => c.world
  | wrote w _ _ _ _ => w
  | turned w => w

def after : Deed → World
  | ran t c => (builtin t c).world
  | wrote w t id property v => (w.writeProperty t id property v).1
  | turned w => w.tick

/-- The property that is written, if one is, and the value that is written to it. -/
def writes? : Deed → Option (EntityType × String × String × Value)
  | ran (.action .setProperty) c =>
    c.target?.map fun (t, id, property) => (t, id, property, Bag.getValue c.node.properties "Value")
  | wrote _ t id property v => some (t, id, property, v)
  | _ => none

theorem after_of_writes? {d : Deed} {t : EntityType} {id property : String} {v : Value}
    (h : d.writes? = some (t, id, property, v)) : d.after = (d.before.writeProperty t id property v).1 := by
  unfold writes? at h
  split at h
  case h_1 c =>
    obtain ⟨⟨t', id', property'⟩, target, same⟩ := Option.map_eq_some_iff.1 h
    cases same
    show (Act.setProperty c).world = _
    simp only [Act.setProperty, target]
    split <;> rename_i written <;> exact (congrArg Prod.fst written).symm
  case h_2 =>
    cases h
    rfl
  case h_3 => cases h

/-- What a deed that writes no property comes to is what an action of another type, a line of dialogue or the end of
a turn comes to. -/
theorem after_induction {P : World → Prop} {d : Deed} (plain : d.writes? = none) (start : P d.before)
    (act : ∀ t c, d = .ran (.action t) c → t ≠ .setProperty → P (Act.of t c).world)
    (dialogue : ∀ t c, d = .ran (.dialogue t) c → P (Dialogue.act t c).world)
    (tick : ∀ w, d = .turned w → P w.tick) : P d.after := by
  cases d with
  | ran t c =>
    cases t with
    | action t =>
      by_cases writes : t = .setProperty
      · subst writes
        have target : c.target? = none := by simpa [writes?] using plain
        show P (Act.setProperty c).world
        simp only [Act.setProperty, target]
        exact start
      · exact act t c rfl writes
    | dialogue t => exact dialogue t c rfl
    | event t | condition t | flow t | source t => exact start
  | wrote w t id property v => simp [writes?] at plain
  | turned w => exact tick w rfl

end Deed

end World

namespace Command

/-- What the command itself does to the world. -/
def deed? (c : Command) (w : World) : Option World.Deed :=
  match c with
  | .setProperty type id property v => (EntityType.ofName? type).map fun t => .wrote w t id property v
  | .advanceTurn => some (.turned w)
  | .trigger _ _ _ | .executeNode _ | .getProperty _ _ _ | .snapshot => none

/-- The entries that the command starts, and what their walks find. -/
def starts (s : Surroundings) (c : Command) (r : Run) : List Entry × (Entry → Outputs) :=
  match c with
  | .trigger ownerType ownerId tag => (s.library.entriesFor ownerType ownerId tag, fun _ => .empty)
  | .executeNode n => ([⟨.single n, n.id⟩], fun _ => .empty)
  | .setProperty type id property v =>
    match (EntityType.ofName? type).map fun t => (r.world.writeProperty t id property v).2 with
    | some (.changed change) => (s.library.listeners change, Fanout.announce change)
    | _ => ([], fun _ => .empty)
  | .advanceTurn => (s.library.entriesForAnyOwner (NodeType.event .onTurnEnd).tag, fun _ => .empty)
  | .getProperty _ _ _ | .snapshot => ([], fun _ => .empty)

theorem before_of_deed? {c : Command} {w : World} {d : World.Deed} (h : c.deed? w = some d) : d.before = w := by
  cases c with
  | setProperty type id property v =>
    simp only [deed?, Option.map_eq_some_iff] at h
    obtain ⟨t, -, rfl⟩ := h
    rfl
  | advanceTurn =>
    simp only [deed?, Option.some.injEq] at h
    rw [← h]
    rfl
  | trigger | executeNode | getProperty | snapshot => simp [deed?] at h

theorem world_opening (c : Command) (r : Run) :
    (c.opening r).world = ((c.deed? r.world).map World.Deed.after).getD r.world := by
  cases c with
  | setProperty type id property v =>
    simp only [opening, deed?]
    cases EntityType.ofName? type <;> rfl
  | advanceTurn | trigger | executeNode | getProperty | snapshot => rfl

theorem run_perform (s : Surroundings) (c : Command) (r : Run) :
    (c.perform s r).2 =
      (Fanout.walkAll (s.conduct 0) (c.starts s r).2 (c.starts s r).1 (c.opening r)).2 := by
  cases c with
  | trigger | executeNode | advanceTurn | getProperty | snapshot => rfl
  | setProperty type id property v =>
    simp only [perform, Surroundings.setProperty, starts, opening]
    cases EntityType.ofName? type with
    | none => rfl
    | some t =>
      simp only [Option.map_some]
      cases written : r.world.writeProperty t id property v with
      | mk w outcome =>
        cases outcome with
        | unmatched =>
          rw [World.writeProperty_unmatched written]
          rfl
        | unchanged | changed => rfl

end Command

namespace Surroundings

/-- This is done while the requests are carried out one after the other. -/
inductive Does (s : Surroundings) : List (Nat × Command) → Run → World.Deed → Prop where
  | opened {t c rest r d} (deed : c.deed? r.world = some d) : Does s ((t, c) :: rest) r d
  | called {t c rest r kind call}
      (makes : Fanout.Makes s 0 (c.starts s (r.resume t)).1 (c.starts s (r.resume t)).2
        (c.opening (r.resume t)) call)
      (known : call.node.kind? = some kind) : Does s ((t, c) :: rest) r (.ran kind call)
  | later {t c rest r d} (does : Does s rest (c.perform s (r.resume t)).2 d) : Does s ((t, c) :: rest) r d

/-- A request that starts no walks does only what it does itself. -/
theorem does_quiet {s : Surroundings} {t : Nat} {c : Command} {rest : List (Nat × Command)} {r : Run} {d : World.Deed}
    (quiet : (c.starts s (r.resume t)).1 = []) :
    s.Does ((t, c) :: rest) r d ↔ c.deed? r.world = some d ∨ s.Does rest (c.perform s (r.resume t)).2 d := by
  constructor
  · intro does
    cases does with
    | opened deed => exact .inl deed
    | called makes =>
      rw [quiet] at makes
      cases makes
    | later does => exact .inr does
  · rintro (deed | does)
    · exact .opened deed
    · exact .later does

theorem not_does_nil {s : Surroundings} {r : Run} {d : World.Deed} : ¬ s.Does [] r d := fun does => nomatch does

end Surroundings

theorem Run.LedBy.world_induction {s : Surroundings} {Q : Call → Prop} {P : World → Prop} {r r' : Run}
    (builtins : s.registry.IsBuiltin) (l : LedBy s Q r r')
    (call : ∀ c t, Q c → c.node.kind? = some t → P c.world → P (builtin t c).world) (start : P r.world) :
    P r'.world := by
  induction l with
  | refl => exact start
  | handled made handler world _ ih =>
    obtain ⟨t, kind, -, rfl⟩ := builtins.of_handlerFor handler
    rw [← world] at start
    exact ih (call _ t made kind start)
  | paused _ ih =>
    apply ih
    rw [Run.world_pause]
    exact start
  | told _ ih =>
    apply ih
    rw [Run.world_diagnose]
    exact start

namespace Surroundings

variable {s : Surroundings} {P : World → Prop} {calls : List (Nat × Command)} {r : Run}

/-- What no deed of the requests breaks holds after them. -/
theorem serve_induction (builtins : s.registry.IsBuiltin) (deed : ∀ d, s.Does calls r d → P d.before → P d.after)
    (start : P r.world) : P (s.serve calls r).2.world := by
  induction calls generalizing r with
  | nil => exact start
  | cons call rest ih =>
    obtain ⟨t, c⟩ := call
    have opened : P (c.opening (r.resume t)).world := by
      rw [c.world_opening]
      cases own : c.deed? (r.resume t).world with
      | none => exact start
      | some d =>
        have before : d.before = r.world := Command.before_of_deed? own
        rw [← before] at start
        exact deed d (.opened own) start
    have performed : P (c.perform s (r.resume t)).2.world := by
      rw [c.run_perform]
      exact (Fanout.ledBy_walkAll s 0 _ _ _).world_induction builtins
        (fun call kind makes known => deed (.ran kind call) (.called makes known)) opened
    exact ih (fun d does => deed d (.later does)) performed

/-- A host that has a single action done, which asks for nothing, is left with the world that the action makes. -/
theorem world_serve_action {s : Surroundings} (builtins : s.registry = .builtins) (room : 0 < s.settings.maxWalkSteps)
    {n : Node} {t : ActionType} (kind : n.kind? = some (.action t)) {w : World}
    (silent : (Act.of t (Walk.call s (.single n) 0 n ⟨n.id, Port.exec, []⟩ { run := { world := w } })).effects = []) :
    (s.serve [(0, .executeNode n)] { world := w }).2.world =
      (Act.of t (Walk.call s (.single n) 0 n ⟨n.id, Port.exec, []⟩ { run := { world := w } })).world := by
  have handler : s.registry.handlerFor n = some (builtin (.action t)) := by
    show n.kind?.bind s.registry = _
    rw [kind, builtins]
    rfl
  have result := (Act.fits_of t (Walk.call s (.single n) 0 n ⟨n.id, Port.exec, []⟩ { run := { world := w } })).response
  rw [silent] at result
  exact congrArg Run.world (single_plain _ handler room result)

end Surroundings

namespace World.Invariant

variable {P : World → Prop} {s : Surroundings} {calls : List (Nat × Command)} {r : Run} {d : Deed}

theorem after (inv : Invariant P) (d : Deed) (h : P d.before) : P d.after := by
  cases d with
  | ran t c => exact inv.handler t h
  | wrote w t id property v => exact inv.write w t id property v h
  | turned w => exact inv.tick w h

/-- Every deed is done in a world in which the invariant holds. -/
theorem before (inv : Invariant P) (builtins : s.registry.IsBuiltin) (does : s.Does calls r d)
    (h : P r.world) : P d.before := by
  induction does with
  | opened deed =>
    rw [Command.before_of_deed? deed]
    exact h
  | @called t c rest r kind call makes known =>
    obtain ⟨⟨r', leads, world⟩, -⟩ := makes.exists_leads
    have opened : P (c.opening (r.resume t)).world := inv.opening c h
    show P call.world
    rw [world]
    exact inv.leads builtins leads opened
  | @later t c rest r d does ih =>
    apply ih
    have resumed : P (r.resume t).world := h
    exact inv.perform builtins c resumed

end World.Invariant

end StoryGraph
