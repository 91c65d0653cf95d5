import StoryGraph.Proofs.Walk.Limits

/-!
A node that is run alone, next to a host that asks for the same walks itself. Those of the node lie one level deeper,
which makes no difference where nothing is dropped. Main statement: what an action asks for comes to the same as if the
host had asked for it after the action.
-/

namespace StoryGraph

/-- What the walks that a handler asks for are started by. -/
def Effect.occasion : Effect → Occasion
  | changed c => .change c
  | trigger ownerType ownerId tag => .event ownerType ownerId tag

theorem Registry.handlerFor_builtins {n : Node} {t : NodeType} (kind : n.kind? = some t) :
    builtins.handlerFor n = some (builtin t) := by
  rw [handlerFor, kind]
  rfl

theorem Fanout.entries_eq (l : Library) (effect : Effect) : entries l effect = effect.occasion.entries l := by
  cases effect <;> rfl

theorem Fanout.seed_eq (effect : Effect) : seed effect = effect.occasion.seed := by
  cases effect <;> rfl

/-- A node that sets out alone. -/
def Departure.alone (n : Node) (r : Run) : Departure := ⟨Graph.single n, n.id, .empty, r⟩

namespace Surroundings

variable {s : Surroundings}

/-- Where nothing is dropped, less deep walks come to the same. -/
theorem start_above (builtins : s.registry.IsBuiltin) {depth depth' : Nat} (above : depth' ≤ depth) {o : Occasion}
    {r : Run} (spared : s.drops depth o r = []) : s.start depth' o r = s.start depth o r := by
  have same := start_alike_above (s.tandem_raised (Nat.le_refl _) (Nat.le_refl _) rfl) builtins above (.refl o)
    (Eq.refl r) fun d mem => ⟨.inl rfl, .inr (List.flatMap_eq_nil_iff.1 spared d mem)⟩
  exact Prod.ext same.result same.run.symm

/-- Within the limit of depth an effect loses what its walks drop. -/
theorem lost_eq {depth : Nat} (limit : depth + 1 ≤ s.settings.maxFanoutDepth) (g : Graph) (q : Request) :
    s.lost depth g q = s.drops (depth + 1) q.effect.occasion q.run := by
  rw [lost, if_pos limit, started, Fanout.entries_eq, Fanout.seed_eq, drops, setOut]

/-- What a walk asks for comes to the same as if it had been asked for outside, where nothing is dropped. -/
theorem fire_spared (builtins : s.registry.IsBuiltin) {depth : Nat} {g : Graph} {q : Request}
    (spared : s.lost depth g q = []) :
    Fanout.fire s (s.settings.maxFanoutDepth - depth) depth g q.effect q.run = s.start 0 q.effect.occasion q.run := by
  by_cases limit : depth + 1 ≤ s.settings.maxFanoutDepth
  · rw [lost_eq limit] at spared
    rw [Fanout.fire_eq, if_pos limit, Fanout.entries_eq, Fanout.seed_eq, ← start_eq]
    exact (start_above builtins (Nat.zero_le _) spared).symm
  · rw [lost, if_neg limit] at spared
    cases spared

/-! A node alone calls its handler once, and is done when what the handler asks for is. -/

section Alone

variable (s)

/-- What the handler of a node is given that is run alone. -/
def callAlone (n : Node) (r : Run) : Call :=
  Walk.call s (Graph.single n) 0 n ⟨n.id, Port.exec, []⟩ { run := r }

def fireAlone (n : Node) : Fire := Fanout.fire s (s.settings.maxFanoutDepth - 0) 0 (Graph.single n)

def reportAlone (n : Node) (nested : List WalkReport) : WalkReport :=
  .mk (Graph.single n).id n.id .completed 1 nested

variable {s} {n : Node} {h : Handler} {a : Response} {out : Output} {port : String} {r : Run}

theorem node?_single (n : Node) : (Graph.single n).node? n.id = some n := by
  simp [Graph.node?, Graph.single, Text.sameName_refl]

theorem after_single (onward : out.next = .goOn port) (trail : List String) (r : Run) :
    Walk.after s (Graph.single n) n.id trail out.next r = (.ok [], r) := by
  rw [onward]
  rfl

theorem single_eq (handler : s.registry.handlerFor n = some h) (room : 0 < s.settings.maxWalkSteps)
    (answer : h (s.callAlone n r) = a) (result : a.result = .ok out) (onward : out.next = .goOn port) :
    s.single n r =
      (reportAlone n (Walk.fireAll (s.fireAlone n) out.effects (r.absorb a)).1,
        (Walk.fireAll (s.fireAlone n) out.effects (r.absorb a)).2) := by
  subst answer
  have fired : Firing.of (s.fireAlone n) 0 (Graph.single n) out.effects (r.absorb (h (s.callAlone n r)))
      (Walk.fireAll (s.fireAlone n) out.effects (r.absorb (h (s.callAlone n r)))).1
      (Walk.fireAll (s.fireAlone n) out.effects (r.absorb (h (s.callAlone n r)))).2 := rfl
  have course : Walk.Course s (Firing.of (s.fireAlone n)) 0 [([], ⟨n.id, Port.exec, []⟩)] { run := r } 0
      (Graph.single n) _ _ :=
    .went (node?_single n) List.not_mem_nil room handler result fired (after_single onward _ _) .done
  have arrived : s.arrive 0 (.alone n r) = _ := s.arrive_of_course course
  exact arrived

/-- A node alone that asks for a pause is done when the pause is over, or is cut short. -/
theorem run_single_of_wait {pause : Latent} (handler : s.registry.handlerFor n = some h)
    (room : 0 < s.settings.maxWalkSteps) (answer : h (s.callAlone n r) = a) (result : a.result = .ok out)
    (asked : out.next = .wait pause) :
    (s.single n r).2 =
      ((Walk.fireAll (s.fireAlone n) out.effects (r.absorb a)).2.pause s (s.timer pause.nanos)).2 := by
  subst answer
  generalize fired : Walk.fireAll (s.fireAlone n) out.effects (r.absorb (h (s.callAlone n r))) = effects
  have single {stops : List Stop} {e : Ending} (course : Walk.Course s (Firing.of (s.fireAlone n)) 0
      [([], ⟨n.id, Port.exec, []⟩)] { run := r } 0 (Graph.single n) stops e) :
      (s.single n r).2 = (Walk.conclude s (Graph.single n) n.id e).2.run :=
    congrArg Prod.snd (s.arrive_of_course (d := .alone n r) course)
  cases paused : effects.2.pause s (s.timer pause.nanos) with
  | mk fault r' =>
    cases fault with
    | none =>
      have ways : Walk.after s (Graph.single n) n.id [Text.fold n.id] out.next effects.2 = (.ok [], r') := by
        simp only [Walk.after, asked, paused]
        rfl
      exact single (.went (node?_single n) List.not_mem_nil room handler result fired ways .done)
    | some fault =>
      cases Run.pause_fault (congrArg Prod.fst paused)
      have ways : Walk.after s (Graph.single n) n.id [Text.fold n.id] out.next effects.2 = (.error .cancelled, r') := by
        simp only [Walk.after, asked, paused]
      exact single (.halted (node?_single n) List.not_mem_nil room handler result fired ways)

theorem requests_alone (handler : s.registry.handlerFor n = some h) (room : 0 < s.settings.maxWalkSteps)
    (answer : h (s.callAlone n r) = a) (result : a.result = .ok out) (onward : out.next = .goOn port) :
    s.requests 0 (.alone n r) = Walk.asked (s.fireAlone n) out.effects (r.absorb a) := by
  subst answer
  have requested : s.requests 0 (.alone n r) = _ :=
    Walk.requests_went (node?_single n) List.not_mem_nil room handler result rfl (after_single onward _ _)
  rw [requested, List.append_nil, Walk.requests_nil, List.append_nil]
  rfl

end Alone

/-! Actions that tell the host nothing and do not break down. -/

section Act

theorem absorb_response (r : Run) (w : World) (effects : List Effect) :
    r.absorb ({ world := w, effects } : Act).response = { r with world := w } := by
  simp [Run.absorb, Act.response]

variable {n : Node} {t : ActionType} {w : World} {r : Run} {effect : Effect} (registry : s.registry = .builtins)
  (room : 0 < s.settings.maxWalkSteps) (kind : n.kind? = some (.action t))
include registry room kind

theorem single_idle (act : Act.of t (s.callAlone n r) = { world := w }) :
    s.single n r = (reportAlone n [], { r with world := w }) := by
  have handler := registry ▸ Registry.handlerFor_builtins kind
  rw [single_eq handler room (congrArg Act.response act) rfl rfl, Walk.fireAll, absorb_response]

theorem dropped_idle (act : Act.of t (s.callAlone n r) = { world := w }) : s.dropped 0 (.alone n r) = [] := by
  have handler := registry ▸ Registry.handlerFor_builtins kind
  rw [dropped_eq, requests_alone handler room (congrArg Act.response act) rfl rfl]
  rfl

theorem dropped_asking (act : Act.of t (s.callAlone n r) = { world := w, effects := [effect] }) :
    s.dropped 0 (.alone n r) = s.lost 0 (Graph.single n) ⟨effect, { r with world := w }⟩ := by
  have handler := registry ▸ Registry.handlerFor_builtins kind
  rw [dropped_eq, requests_alone handler room (congrArg Act.response act) rfl rfl, absorb_response]
  exact List.flatMap_singleton ..

/-- What an action asks for is done as if the host had asked for it after the action, where nothing is dropped. -/
theorem single_asking (act : Act.of t (s.callAlone n r) = { world := w, effects := [effect] })
    (spared : s.dropped 0 (.alone n r) = []) :
    s.single n r =
      (reportAlone n (s.start 0 effect.occasion { r with world := w }).1,
        (s.start 0 effect.occasion { r with world := w }).2) := by
  rw [dropped_asking registry room kind act] at spared
  have fired := fire_spared (registry ▸ Registry.isBuiltin_builtins) spared
  have handler := registry ▸ Registry.handlerFor_builtins kind
  rw [single_eq handler room (congrArg Act.response act) rfl rfl, absorb_response]
  simp only [Walk.fireAll, List.append_nil, fireAlone, fired]

end Act

end Surroundings

end StoryGraph
