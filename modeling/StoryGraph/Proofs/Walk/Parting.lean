import StoryGraph.Proofs.Walk.Shutdown

/-!
A run beside the same run in an engine that is told to shut down at another moment, or never. Both are one and
the same until they come to a pause that ends in different ways; from there each goes its own way. Main
statement: so it is for every command.
-/

namespace StoryGraph

open Run (Leads)

/-- The surroundings of an engine that is told to shut down at another moment. -/
def Surroundings.told (s : Surroundings) (o : Option Moment) : Surroundings := { s with shutdownAt := o }

@[simp] theorem Surroundings.told_settings (s : Surroundings) (o : Option Moment) :
    (s.told o).settings = s.settings := rfl

@[simp] theorem Surroundings.told_timer (s : Surroundings) (o : Option Moment) : (s.told o).timer = s.timer := rfl

/-- Two runs with a common past, up to a pause that does not end in the same way. -/
inductive Run.Parted (s : Surroundings) (o : Option Moment) : Run → Run → Prop where
  | mk {r : Run} {millis a b} (differ : r.pause s millis ≠ r.pause (s.told o) millis)
      (one : Leads s (r.pause s millis).2 a) (other : Leads (s.told o) (r.pause (s.told o) millis).2 b) :
      Parted s o a b

/-- What comes out is the same, or it comes from runs that have parted. -/
def Agree (s : Surroundings) (o : Option Moment) {α : Type} (x y : α × Run) : Prop :=
  y = x ∨ Run.Parted s o x.2 y.2

variable {s : Surroundings} {o : Option Moment}

theorem Agree.map {α β : Type} {x y : α × Run} (h : Agree s o x y) (f : α → β) :
    Agree s o (f x.1, x.2) (f y.1, y.2) := by
  cases h with
  | inl same => exact .inl (by rw [same])
  | inr parted => exact .inr parted

namespace Run

variable {a b a' b' : Run}

theorem Parted.onward (h : Parted s o a b) (one : Leads s a a') (other : Leads (s.told o) b b') :
    Parted s o a' b' := by
  cases h with
  | mk differ here there => exact .mk differ (here.trans one) (there.trans other)

end Run

namespace Walk

open Surroundings (told_settings told_timer)

theorem after_wait_run (s : Surroundings) (g : Graph) (node : String) (trail : List String) (pause : Latent)
    (r : Run) : (after s g node trail (.wait pause) r).2 = (r.pause s (s.timer pause.nanos)).2 := by
  simp only [after]
  split <;> rename_i paused <;> rw [paused]

theorem after_agrees (g : Graph) (node : String) (trail : List String)
    (next : Next) (r : Run) : Agree s o (after s g node trail next r) (after (s.told o) g node trail next r) := by
  cases next with
  | goOn port | fork ports | stop | fail message => exact .inl rfl
  | wait pause =>
    by_cases same : r.pause s (s.timer pause.nanos) = r.pause (s.told o) (s.timer pause.nanos)
    · left
      simp only [after, told_timer, same]
    · right
      refine .mk same ?_ ?_
      · rw [after_wait_run]
        exact .refl
      · rw [after_wait_run]
        exact .refl

variable {fire fire' : Fire}

/-- What is needed of the walks that effects start. -/
structure Paired (s : Surroundings) (o : Option Moment) (fire fire' : Fire) : Prop where
  agree : ∀ effect r, Agree s o (fire effect r) (fire' effect r)
  one : ∀ effect r, Leads s r (fire effect r).2
  other : ∀ effect r, Leads (s.told o) r (fire' effect r).2

theorem fireAll_leads (h : ∀ effect r, Leads s r (fire effect r).2) (effects : List Effect) (r : Run) :
    Leads s r (fireAll fire effects r).2 := by
  induction effects generalizing r with
  | nil => exact .refl
  | cons effect rest ih => exact (h effect r).trans (ih _)

theorem fireAll_agrees (h : Paired s o fire fire') (effects : List Effect) (r : Run) :
    Agree s o (fireAll fire effects r) (fireAll fire' effects r) := by
  induction effects generalizing r with
  | nil => exact .inl rfl
  | cons effect rest ih =>
    simp only [fireAll]
    cases h.agree effect r with
    | inl same =>
      rw [same]
      cases ih (fire effect r).2 with
      | inl later => exact .inl (by rw [later])
      | inr parted => exact .inr parted
    | inr parted => exact .inr (parted.onward (fireAll_leads h.one rest _) (fireAll_leads h.other rest _))

variable {g : Graph} {depth : Nat}

theorem execute_leads (g : Graph) (depth : Nat) (h : ∀ effect r, Leads s r (fire effect r).2) {handler : Handler} {n : Node}
    (found : s.registry.handlerFor n = some handler) (v : Visit) (w : Walk) :
    Leads s w.run (execute s fire g depth handler n v w).2.run := by
  have answered : Leads s w.run (w.run.absorb (handler (w.call s g depth n v))) := .handler found rfl
  cases result : (handler (w.call s g depth n v)).result with
  | error message =>
    rw [execute_error result]
    exact answered
  | ok out =>
    rw [execute_ok result]
    exact answered.trans ((fireAll_leads h out.effects _).trans (after_leads rfl))

theorem finish_leads (h : ∀ effect r, Leads s r (fire effect r).2) (steps : Nat) (pending : List Visit)
    (w : Walk) :
    Leads s w.run (finish s s.registry.handlerFor fire g depth steps pending w).walk.run := by
  fun_induction finish s s.registry.handlerFor fire g depth steps pending w with
  | case1 | case3 | case4 => exact .refl
  | case2 _ _ _ _ _ ih | case5 _ _ _ _ _ _ _ _ _ ih => exact ih
  | case6 steps w v rest n _ _ _ handler found w' fault executed =>
    have here := execute_leads g depth h found v w
    rw [executed] at here
    exact here
  | case7 steps w v rest n _ _ _ handler found w' visits executed ih =>
    have here := execute_leads g depth h found v w
    rw [executed] at here
    exact here.trans ih

theorem execute_agrees (g : Graph) (depth : Nat) (h : Paired s o fire fire') (handler : Handler) (n : Node)
    (v : Visit) (w : Walk) :
    let one := execute s fire g depth handler n v w
    let other := execute (s.told o) fire' g depth handler n v w
    other = one ∨ Run.Parted s o one.2.run other.2.run := by
  intro one other
  cases result : (handler (w.call s g depth n v)).result with
  | error message =>
    have same : other = one := (execute_error (s := s.told o) result).trans (execute_error result).symm
    exact .inl same
  | ok out =>
    have here : one = _ := execute_ok result
    have there : other = _ := execute_ok (s := s.told o) result
    rw [here, there]
    cases fireAll_agrees h out.effects (w.run.absorb (handler (w.call s g depth n v))) with
    | inl same =>
      have call : w.call (s.told o) g depth n v = w.call s g depth n v := rfl
      simp only [call, same]
      cases after_agrees g n.id (Text.fold n.id :: v.trail) out.next
        (fireAll fire out.effects (w.run.absorb (handler (w.call s g depth n v)))).2 with
      | inl later => exact .inl (by rw [later])
      | inr parted => exact .inr parted
    | inr parted => exact .inr (parted.onward (after_leads rfl) (after_leads rfl))

/-- Goes on from what a node came to. -/
def carryOn (s : Surroundings) (fire : Fire) (g : Graph) (depth steps : Nat) (rest : List Visit)
    (x : Except Fault (List Visit) × Walk) : Ending :=
  match x.1 with
  | .error fault => ⟨some fault, steps, x.2⟩
  | .ok visits => finish s s.registry.handlerFor fire g depth steps (visits ++ rest) x.2

theorem carryOn_leads (h : ∀ effect r, Leads s r (fire effect r).2) (steps : Nat) (rest : List Visit)
    (x : Except Fault (List Visit) × Walk) : Leads s x.2.run (carryOn s fire g depth steps rest x).walk.run := by
  simp only [carryOn]
  split
  · exact .refl
  · exact finish_leads h _ _ _

theorem finish_execute {steps : Nat} {v : Visit} {rest : List Visit} {w : Walk} {n : Node} {handler : Handler}
    (found : g.node? v.node = some n) (trail : ¬ v.trail.contains (Text.fold n.id) = true)
    (limit : ¬ s.settings.maxWalkSteps ≤ steps) (known : s.registry.handlerFor n = some handler) :
    finish s s.registry.handlerFor fire g depth steps (v :: rest) w =
      carryOn s fire g depth (steps + 1) rest (execute s fire g depth handler n v w) := by
  rw [finish]
  simp only [found, if_neg trail, if_neg limit, known]
  rfl

theorem finish_agrees (g : Graph) (depth : Nat) (h : Paired s o fire fire') (steps : Nat)
    (pending : List Visit) (w : Walk) :
    let one := finish s s.registry.handlerFor fire g depth steps pending w
    let other := finish (s.told o) s.registry.handlerFor fire' g depth steps pending w
    other = one ∨ Run.Parted s o one.walk.run other.walk.run := by
  have ran {steps v rest w n handler x} (found : g.node? v.node = some n)
      (trail : ¬ v.trail.contains (Text.fold n.id) = true) (limit : ¬ s.settings.maxWalkSteps ≤ steps)
      (known : s.registry.handlerFor n = some handler) (executed : execute s fire g depth handler n v w = x)
      (next : let one := carryOn s fire g depth (steps + 1) rest x
        let other := carryOn (s.told o) fire' g depth (steps + 1) rest x
        other = one ∨ Run.Parted s o one.walk.run other.walk.run) :
      let one := carryOn s fire g depth (steps + 1) rest x
      let other := finish (s.told o) s.registry.handlerFor fire' g depth steps (v :: rest) w
      other = one ∨ Run.Parted s o one.walk.run other.walk.run := by
    intro one other
    have there : other = carryOn (s.told o) fire' g depth (steps + 1) rest
        (execute (s.told o) fire' g depth handler n v w) :=
      finish_execute (s := s.told o) found trail limit known
    have agrees := execute_agrees g depth h handler n v w
    rw [executed] at agrees
    rw [there]
    cases agrees with
    | inl same =>
      rw [same]
      exact next
    | inr parted => exact .inr (parted.onward (carryOn_leads h.one _ _ _) (carryOn_leads h.other _ _ _))
  fun_induction finish s s.registry.handlerFor fire g depth steps pending w with
  | case1 =>
    left
    rw [finish]
  | case2 steps w v rest found ih =>
    rw [finish]
    simpa only [found] using ih
  | case3 steps w v rest n found trail =>
    left
    rw [finish]
    simp only [found, if_pos trail]
  | case4 steps w v rest n found trail limit =>
    left
    rw [finish]
    simp only [found, if_neg trail]
    exact if_pos limit
  | case5 steps w v rest n found trail limit handler ih =>
    have there : finish (s.told o) s.registry.handlerFor fire' g depth steps (v :: rest) w =
        finish (s.told o) s.registry.handlerFor fire' g depth (steps + 1) rest w := by
      rw [finish]
      simp only [found, if_neg trail, handler]
      exact if_neg limit
    rw [there]
    exact ih
  | case6 steps w v rest n found trail limit handler known w' fault executed =>
    exact ran found trail limit known executed (.inl rfl)
  | case7 steps w v rest n found trail limit handler known w' visits executed ih =>
    exact ran found trail limit known executed ih

theorem conduct_agrees (g : Graph) (depth : Nat) (h : Paired s o fire fire') (entry : String)
    (outputs : Outputs) (r : Run) :
    let one := conduct s fire g depth entry outputs r
    let other := conduct (s.told o) fire' g depth entry outputs r
    other = one ∨ Run.Parted s o one.2.run other.2.run := by
  intro one other
  have here : one = conclude s g entry (finish s s.registry.handlerFor fire g depth 0
    [⟨entry, Port.exec, []⟩] { outputs := outputs, run := r }) := rfl
  have there : other = conclude (s.told o) g entry (finish (s.told o) s.registry.handlerFor fire' g depth 0
    [⟨entry, Port.exec, []⟩] { outputs := outputs, run := r }) := rfl
  rw [here, there]
  cases finish_agrees g depth h 0 [⟨entry, Port.exec, []⟩]
    { outputs := outputs, run := r } with
  | inl same =>
    left
    rw [same]
    rfl
  | inr parted => exact .inr (parted.onward (conclude_leads _ _) (conclude_leads _ _))

end Walk

namespace Fanout

theorem fire_leads (depth : Nat) (g : Graph) (effect : Effect) (r : Run) :
    Leads s r (fire s (s.settings.maxFanoutDepth - depth) depth g effect r).2 := by
  rw [fire_eq]
  split
  · exact s.walkAll_leads (depth + 1) _ _ r
  · exact .diagnose

theorem walkAll_agrees {depth : Nat}
    (walk : ∀ g entry outputs r,
      Agree s o (s.conduct depth g entry outputs r) ((s.told o).conduct depth g entry outputs r))
    (seed : Entry → Outputs) (entries : List Entry) (r : Run) :
    Agree s o (walkAll (s.conduct depth) seed entries r) (walkAll ((s.told o).conduct depth) seed entries r) := by
  induction entries generalizing r with
  | nil =>
    simp only [walkAll]
    exact .inl rfl
  | cons entry rest ih =>
    simp only [walkAll]
    cases walk entry.graph entry.node (seed entry) r with
    | inl same =>
      rw [same]
      cases ih (s.conduct depth entry.graph entry.node (seed entry) r).2 with
      | inl later => exact .inl (by rw [later])
      | inr parted => exact .inr parted
    | inr parted =>
      exact .inr (parted.onward (s.walkAll_leads depth seed rest _) ((s.told o).walkAll_leads depth seed rest _))

theorem conduct_agrees (depth : Nat) :
    ∀ g entry outputs r,
      Agree s o (s.conduct depth g entry outputs r) ((s.told o).conduct depth g entry outputs r) := by
  induction depth using depth_induction (D := s.settings.maxFanoutDepth) with
  | step depth deeper =>
    intro g entry outputs r
    have paired : Walk.Paired s o (fire s (s.settings.maxFanoutDepth - depth) depth g)
        (fire (s.told o) (s.settings.maxFanoutDepth - depth) depth g) := by
      refine ⟨fun effect r => ?_, fire_leads depth g, fire_leads (s := s.told o) depth g⟩
      have there := fire_eq (s.told o) depth g effect r
      rw [Surroundings.told_settings] at there
      by_cases limit : depth + 1 ≤ s.settings.maxFanoutDepth
      · rw [fire_eq, if_pos limit, there, if_pos limit]
        exact walkAll_agrees (deeper limit) _ _ r
      · rw [fire_eq, if_neg limit, there, if_neg limit]
        exact .inl rfl
    cases Walk.conduct_agrees g depth paired entry outputs r with
    | inl same =>
      left
      simp only [Surroundings.conduct, Surroundings.walk, Surroundings.told_settings, same]
    | inr parted => exact .inr parted

end Fanout

namespace Surroundings

theorem walkAll_agrees (depth : Nat) (seed : Entry → Outputs)
    (entries : List Entry) (r : Run) :
    Agree s o (Fanout.walkAll (s.conduct depth) seed entries r)
      (Fanout.walkAll ((s.told o).conduct depth) seed entries r) :=
  Fanout.walkAll_agrees (Fanout.conduct_agrees depth) seed entries r

theorem setProperty_agrees (type id property : String) (v : Value) (r : Run) :
    Agree s o (s.setProperty type id property v r) ((s.told o).setProperty type id property v r) := by
  simp only [setProperty]
  cases EntityType.ofName? type with
  | none => exact .inl rfl
  | some t =>
    simp only
    cases r.world.writeProperty t id property v with
    | mk w outcome =>
      cases outcome with
      | unmatched | unchanged => exact .inl rfl
      | changed change =>
        simp only [announce]
        exact (walkAll_agrees 0 _ _ _).map fun walks => Except.ok (PropertyUpdate.mk (some change) walks)

theorem advanceTurn_agrees (r : Run) :
    Agree s o (s.advanceTurn r) ((s.told o).advanceTurn r) := by
  simp only [advanceTurn, broadcast]
  exact (walkAll_agrees 0 _ _ _).map (TriggerReport.mk _)

/-- A command does the same in an engine that is told to shut down, or it comes to a pause that is cut short
there. -/
theorem perform_agrees (c : Command) (r : Run) :
    Agree s o (c.perform s r) (c.perform (s.told o) r) := by
  cases c with
  | trigger ownerType ownerId tag =>
    simp only [Command.perform, trigger]
    exact (walkAll_agrees 0 _ _ r).map fun walks => Reply.report ⟨tag, walks⟩
  | executeNode n =>
    simp only [Command.perform, single]
    exact (Fanout.conduct_agrees 0 _ _ _ r).map Reply.walk
  | setProperty type id property v =>
    simp only [Command.perform]
    exact (setProperty_agrees type id property v r).map Reply.update
  | advanceTurn =>
    simp only [Command.perform]
    exact (advanceTurn_agrees r).map Reply.report
  | getProperty | snapshot =>
    simp only [Command.perform]
    exact .inl rfl

end Surroundings

namespace Run

variable {m : Moment} {a b : Run}

/-- The runs part where a pause is cut short. -/
theorem Parted.exists_cut (h : Parted s (some m) a b) (untold : s.shutdownAt = none) :
    ∃ (r : Run) (millis : Nat), m.ComesWithin millis r ∧ Leads s (r.wake millis) a ∧
      Leads (s.told (some m)) { r with now := max r.now m.instant } b := by
  cases h with
  | @mk r millis _ _ differ one other =>
    rw [pause_of_untold untold] at differ one
    by_cases comes : m.ComesWithin millis r
    · rw [pause_of_comesWithin rfl comes] at other
      exact ⟨r, millis, comes, one, other⟩
    · exact absurd (pause_of_not_comesWithin rfl comes).symm differ

theorem Parted.pauses_lt (h : Parted s (some m) a b) (untold : s.shutdownAt = none) : m.pauses < a.pauses := by
  obtain ⟨r, millis, comes, one, -⟩ := h.exists_cut untold
  have woken : r.pauses + 1 ≤ a.pauses := one.onward.pauses
  have early := comes.1
  omega

theorem Parted.hasCome (h : Parted s (some m) a b) (untold : s.shutdownAt = none) : m.HasCome b := by
  obtain ⟨r, millis, comes, -, other⟩ := h.exists_cut untold
  have onward := other.onward
  exact ⟨Nat.le_trans comes.1 onward.pauses, Nat.le_trans (Nat.le_max_right _ _) onward.now⟩

/-- What was sent and logged before an instant. -/
def before (t : Nat) (r : Run) : List (Nat × HostEvent) × List (Nat × LogLine) :=
  (r.events.filter fun e => decide (e.1 < t), r.logs.filter fun l => decide (l.1 < t))

theorem Onward.before_eq {t : Nat} (h : Onward a b) (le : t ≤ a.now) : b.before t = a.before t := by
  simp only [before, h.events.filter_lt le, h.logs.filter_lt le]

/-- Before the moment nothing tells the two apart. -/
theorem Parted.before_eq (h : Parted s (some m) a b) (untold : s.shutdownAt = none) :
    b.before m.instant = a.before m.instant := by
  obtain ⟨r, millis, comes, one, other⟩ := h.exists_cut untold
  have here := one.onward.before_eq comes.2
  have there := other.onward.before_eq (t := m.instant) (Nat.le_max_right _ _)
  rw [here, there]
  rfl

end Run

namespace Surroundings

/-- The later the engine is told to shut down, the more pauses come to their end. -/
theorem pauses_told_mono (s : Surroundings) (c : Command) (r : Run) {m m' : Moment} (pauses : m.pauses ≤ m'.pauses)
    (instant : m.instant ≤ m'.instant) :
    (c.perform (s.told (some m)) r).2.pauses ≤ (c.perform (s.told (some m')) r).2.pauses := by
  cases perform_agrees (s := s.told (some m')) (o := some m) c r with
  | inl same => exact Nat.le_of_eq (congrArg (fun x => x.2.pauses) same)
  | inr parted =>
    cases parted with
    | @mk r₁ millis _ _ differ one other =>
      by_cases comes : m.ComesWithin millis r₁
      · rw [Run.pause_of_comesWithin rfl comes] at other
        have up : m.HasCome { r₁ with now := max r₁.now m.instant } := ⟨comes.1, Nat.le_max_right _ _⟩
        have stands := (other.stands rfl up).2
        have more := ((Run.Onward.pause _ r₁ millis).trans one.onward).pauses
        exact Nat.le_trans (Nat.le_of_eq stands) more
      · have later : ¬ m'.ComesWithin millis r₁ := fun h =>
          comes ⟨Nat.le_trans pauses h.1, Nat.le_trans instant h.2⟩
        have here := Run.pause_of_not_comesWithin (s := s.told (some m')) rfl later
        have there := Run.pause_of_not_comesWithin (s := s.told (some m)) rfl comes
        exact absurd (here.trans there.symm) differ

end Surroundings

end StoryGraph
