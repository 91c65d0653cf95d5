import StoryGraph.Proofs.Walk.Leads
import StoryGraph.Proofs.Walk.ReportTree

/-!
Reports against the walks that they are about. Every report in a tree is the report of a walk that was made,
and the run at its end leads on to the end of the whole. So a statement about trees is proved for one walk,
given that it holds of the walks within. Main statement: what is proved so holds of all reports that a
command is answered with.
-/

namespace StoryGraph

open Run (Leads)

theorem WalkReport.mem_allOf {x : WalkReport} {l : List WalkReport} : x ∈ allOf l ↔ ∃ y ∈ l, x ∈ y.all := by
  induction l with
  | nil => simp [allOf]
  | cons r rest ih => simp [allOf, ih]

theorem WalkReport.mem_all_self (x : WalkReport) : x ∈ x.all := by
  cases x
  rw [all]
  exact List.mem_cons_self

theorem WalkReport.mem_all_of_nested {x y z : WalkReport} (within : y ∈ z.nested) (h : x ∈ y.all) : x ∈ z.all := by
  cases z
  rw [all]
  exact List.mem_cons_of_mem _ (mem_allOf.2 ⟨y, within, h⟩)

namespace Walk

variable {s : Surroundings} {F : Firing} {steps : Nat} {pending : List (List Node × Visit)} {w : Walk}
  {depth : Nat} {g : Graph} {stops : List Stop} {e : Ending}

/-- What holds of all walks that effects start holds of all walks within a walk. -/
theorem Course.forall_nested {P : WalkReport → Prop}
    (leads : ∀ effects r reports r', F depth g effects r reports r' → Leads s r r')
    (fires : ∀ effects r reports r', F depth g effects r reports r' → Leads s r' e.walk.run →
      ∀ x ∈ reports, P x)
    (c : Course s F steps pending w depth g stops e) (hw : ∀ x ∈ w.nested, P x) :
    ∀ x ∈ e.walk.nested, P x := by
  have served {n v out reports r w} (hw : ∀ x ∈ w.nested, P x) (new : ∀ x ∈ reports, P x) :
      ∀ x ∈ (Walk.served n v out reports r w).nested, P x := fun x hx =>
    (List.mem_append.1 hx).elim (hw x) (new x)
  induction c with
  | done | cycle | spent | broke => exact hw
  | missing found next ih => exact ih leads fires hw
  | bare found trail limit handler next ih => exact ih leads fires hw
  | halted found trail limit handler result effects ways =>
    exact served hw (fires _ _ _ _ effects (after_leads ways))
  | went found trail limit handler result effects ways next ih =>
    have later := (after_leads ways).trans (next.leads leads)
    exact ih leads fires (served hw (fires _ _ _ _ effects later))

end Walk

namespace Fanout

variable {s : Surroundings} {depth : Nat}

theorem Conducts.forall_walk {F : Firing} {entries : List Entry} {seed : Entry → Outputs} {r r' : Run}
    {walks : List WalkReport} {P : WalkReport → Prop}
    (leads : ∀ g effects r reports r', F depth g effects r reports r' → Leads s r r')
    (c : Conducts s F entries r depth seed walks r')
    (h : ∀ entry ∈ entries, ∀ r stops e, Walk.Course s F 0 [([], ⟨entry.node, Port.exec, []⟩)]
      { outputs := seed entry, run := r } depth entry.graph stops e →
        Leads s (Walk.conclude s entry.graph entry.node e).2.run r' →
        P (Walk.conclude s entry.graph entry.node e).1) :
    ∀ x ∈ walks, P x := by
  induction c with
  | nil => exact fun _ hx => absurd hx List.not_mem_nil
  | cons walk next ih =>
    have here := h _ List.mem_cons_self _ _ _ walk (next.leads leads)
    have later := ih leads fun entry he => h entry (List.mem_cons_of_mem _ he)
    exact List.forall_mem_cons.2 ⟨here, later⟩

/-- A property of walks at some depth, in a whole that ends in some run, which a walk has if the walks within
it have it. -/
def Inherited (s : Surroundings) (P : Run → Nat → WalkReport → Prop) : Prop :=
  ∀ final depth g entry outputs r stops e, s.Tour depth g entry outputs r stops e →
    Leads s (Walk.conclude s g entry e).2.run final → (∀ x ∈ e.walk.nested, P final (depth + 1) x) →
      P final depth (Walk.conclude s g entry e).1

variable {P : Run → Nat → WalkReport → Prop}

theorem Fires.forall_reports {g : Graph} {effects : List Effect} {r r' final : Run} {reports : List WalkReport}
    (deeper : ∀ entries r seed walks r', depth + 1 ≤ s.settings.maxFanoutDepth →
      Conducts s (Fires s) entries r (depth + 1) seed walks r' → Leads s r' final →
        ∀ x ∈ walks, P final (depth + 1) x)
    (f : Fires s depth g effects r reports r') (later : Leads s r' final) :
    ∀ x ∈ reports, P final (depth + 1) x := by
  induction effects generalizing r reports with
  | nil =>
    cases f
    exact fun _ hx => absurd hx List.not_mem_nil
  | cons effect rest ih =>
    cases f with
    | dropped limit next => exact ih next
    | walked limit walks next =>
      intro x hx
      cases List.mem_append.1 hx with
      | inl here => exact deeper _ _ _ _ _ limit walks ((Fires.leads depth _ _ _ _ _ next).trans later) x here
      | inr rest => exact ih next x rest

theorem Conducts.forall_reports (inherited : Inherited s P) (depth : Nat) :
    ∀ entries r seed walks r' final, Conducts s (Fires s) entries r depth seed walks r' → Leads s r' final →
      ∀ x ∈ walks, P final depth x := by
  induction depth using depth_induction (D := s.settings.maxFanoutDepth) with
  | step depth deeper =>
    intro entries r seed walks r' final c later
    refine c.forall_walk (Fires.leads depth) fun entry _ r stops e tour rest => ?_
    refine inherited final depth _ _ _ _ _ _ tour (rest.trans later) ?_
    refine tour.forall_nested (Fires.leads depth _) (fun _ _ _ _ f here => ?_)
      fun _ hx => absurd hx List.not_mem_nil
    have ending := here.trans ((Walk.conclude_leads entry.node e).trans (rest.trans later))
    exact f.forall_reports (fun _ _ _ _ _ limit c => deeper limit _ _ _ _ _ _ c) ending

end Fanout

/-- The first walks of an answer, each with the walks within it. -/
def Reply.walks : Reply → List WalkReport
  | .report r => r.walks
  | .walk r => [r]
  | .update (.ok u) => u.walks
  | _ => []

namespace Surroundings

variable {s : Surroundings} {P : Run → Nat → WalkReport → Prop}

theorem walkAll_inherits (inherited : Fanout.Inherited s P) (depth : Nat) (seed : Entry → Outputs)
    (entries : List Entry) (r : Run) :
    let walked := Fanout.walkAll (s.conduct depth) seed entries r
    ∀ x ∈ walked.1, P walked.2 depth x :=
  Fanout.Conducts.forall_reports inherited depth _ _ _ _ _ _ (Fanout.conducts_walkAll s depth seed entries r) .refl

theorem walk_inherits (inherited : Fanout.Inherited s P) (depth : Nat) (g : Graph) (entry : String)
    (outputs : Outputs) (r : Run) :
    P (s.walk depth g entry outputs r).2.run depth (s.walk depth g entry outputs r).1 := by
  have all := walkAll_inherits inherited depth (fun _ => outputs) [⟨g, entry⟩] r
  exact all _ List.mem_cons_self

theorem setProperty_inherits (inherited : Fanout.Inherited s P) (type id property : String) (v : Value)
    (r : Run) (u : PropertyUpdate) :
    (s.setProperty type id property v r).1 = .ok u →
      ∀ x ∈ u.walks, P (s.setProperty type id property v r).2 0 x := by
  simp only [setProperty]
  cases EntityType.ofName? type with
  | none =>
    intro h
    cases h
  | some t =>
    simp only
    cases r.world.writeProperty t id property v with
    | mk w outcome =>
      cases outcome with
      | unmatched =>
        intro h
        cases h
      | unchanged =>
        intro h
        cases h
        exact fun _ hx => absurd hx List.not_mem_nil
      | changed change =>
        intro h
        cases h
        exact walkAll_inherits inherited 0 _ _ _

/-- All reports of a command inherit what walks inherit from the walks within them. -/
theorem perform_inherits (inherited : Fanout.Inherited s P) (c : Command) (r : Run) :
    ∀ x ∈ (c.perform s r).1.walks, P (c.perform s r).2 0 x := by
  cases c with
  | trigger ownerType ownerId tag => exact walkAll_inherits inherited 0 _ _ r
  | executeNode n => exact List.forall_mem_singleton.2 (walk_inherits inherited 0 _ _ _ r)
  | setProperty type id property v =>
    have update := setProperty_inherits inherited type id property v r
    simp only [Command.perform]
    cases answer : (s.setProperty type id property v r).1 with
    | error _ => exact fun _ hx => absurd hx List.not_mem_nil
    | ok u => exact update u answer
  | advanceTurn =>
    simp only [Command.perform, advanceTurn, broadcast]
    exact walkAll_inherits inherited 0 _ _ _
  | getProperty | snapshot => exact fun _ hx => absurd hx List.not_mem_nil

end Surroundings

end StoryGraph
