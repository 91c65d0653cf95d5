import StoryGraph.Proofs.Handler.Ways
import StoryGraph.Proofs.Walk.Nested
import StoryGraph.Proofs.Walk.Passage

/-!
What shutting down does to a command that is in work. Once the flag is up no pause completes and the clock
stands. Cancelling travels along one walk: the walk that asked for the pause ends there, and what triggered it
goes on. Main statement: so it is for every command and every moment, in every walk at any level.
-/

namespace StoryGraph

open Run (Leads)

/-- The flag is up. -/
def Moment.HasCome (m : Moment) (r : Run) : Prop := m.pauses ≤ r.pauses ∧ m.instant ≤ r.now

instance (m : Moment) (r : Run) : Decidable (m.HasCome r) := inferInstanceAs (Decidable (_ ∧ _))

theorem Moment.HasCome.comesWithin {m : Moment} {r : Run} (h : m.HasCome r) (millis : Nat) :
    m.ComesWithin millis r :=
  ⟨h.1, Nat.le_trans h.2 (Nat.le_add_right _ _)⟩

namespace Run

variable {s : Surroundings} {m : Moment} {r r' : Run} {millis : Nat}

theorem pause_of_comesWithin (told : s.shutdownAt = some m) (h : m.ComesWithin millis r) :
    r.pause s millis = (some .cancelled, { r with now := max r.now m.instant }) := by
  simp only [pause, told]
  exact if_pos h

theorem pause_of_not_comesWithin (told : s.shutdownAt = some m) (h : ¬ m.ComesWithin millis r) :
    r.pause s millis = (none, r.wake millis) := by
  simp only [pause, told]
  exact if_neg h

theorem pause_of_untold (untold : s.shutdownAt = none) : r.pause s millis = (none, r.wake millis) := by
  simp only [pause, untold]

theorem pause_of_hasCome (told : s.shutdownAt = some m) (h : m.HasCome r) :
    r.pause s millis = (some .cancelled, r) := by
  rw [pause_of_comesWithin told (h.comesWithin millis), Nat.max_eq_left h.2]

theorem diagnose_now (text : String) : (r.diagnose s.settings text).now = r.now := by
  rw [diagnose]
  split <;> rfl

theorem diagnose_pauses (text : String) : (r.diagnose s.settings text).pauses = r.pauses := by
  rw [diagnose]
  split <;> rfl

/-- Once the flag is up, no pause completes and the clock stands. -/
theorem Leads.stands (told : s.shutdownAt = some m) (l : Leads s r r') (up : m.HasCome r) :
    r'.now = r.now ∧ r'.pauses = r.pauses := by
  induction l with
  | refl => exact ⟨rfl, rfl⟩
  | handled _ _ _ ih => exact ih up
  | paused _ ih =>
    rw [pause_of_hasCome told up] at ih
    exact ih up
  | @told r text _ _ ih =>
    have now := diagnose_now (s := s) (r := r) text
    have pauses := diagnose_pauses (s := s) (r := r) text
    have here := ih (by rwa [Moment.HasCome, now, pauses])
    rwa [now, pauses] at here

end Run

namespace Walk

variable {s : Surroundings} {F : Firing} {steps : Nat} {pending : List (List Node × Visit)} {w : Walk}
  {depth : Nat} {g : Graph} {stops : List Stop} {e : Ending}

theorem after_undisturbed {node : String} {trail : List String} {next : Next} {r r' : Run}
    {result : Except Fault (List Visit)} (h : after s g node trail next r = (result, r'))
    (whole : result ≠ .error .cancelled) :
    after { s with shutdownAt := none } g node trail next r = (result, r') := by
  cases next with
  | goOn port | fork ports | stop | fail message => exact h
  | wait pause =>
    cases told : s.shutdownAt with
    | none => simpa only [after, Run.pause_of_untold told, Run.pause_of_untold] using h
    | some m =>
      by_cases cut : m.ComesWithin (s.timer pause.nanos) r
      · simp only [after, Run.pause_of_comesWithin told cut, Prod.mk.injEq] at h
        exact absurd h.1.symm whole
      · simpa only [after, Run.pause_of_not_comesWithin told cut, Run.pause_of_untold] using h

/-- A walk that is not cancelled takes the course that it takes in an engine that is not shut down. -/
theorem Course.undisturbed (c : Course s F steps pending w depth g stops e) (whole : e.fault ≠ some .cancelled) :
    Course { s with shutdownAt := none } F steps pending w depth g stops e := by
  induction c with
  | done => exact .done
  | missing found _ ih => exact .missing found (ih whole)
  | cycle found trail => exact .cycle found trail
  | spent found trail limit => exact .spent (s := { s with shutdownAt := none }) found trail limit
  | bare found trail limit handler _ ih => exact .bare found trail limit handler (ih whole)
  | broke found trail limit handler result =>
    exact .broke (s := { s with shutdownAt := none }) found trail limit handler result
  | halted found trail limit handler result effects ways =>
    have fault : (Except.error _ : Except Fault (List Visit)) ≠ .error .cancelled := fun h =>
      whole (congrArg some (Except.error.inj h))
    exact .halted (s := { s with shutdownAt := none }) found trail limit handler result effects
      (after_undisturbed ways fault)
  | went found trail limit handler result effects ways _ ih =>
    have goes := after_undisturbed ways (fun h => nomatch h)
    exact .went (s := { s with shutdownAt := none }) found trail limit handler result effects goes (ih whole)

/-- What a moment does to a walk from its beginning, where the whole that the walk is part of ends in some
run. -/
structure Interrupted (s : Surroundings) (m : Moment) (depth : Nat) (g : Graph) (start : Place)
    (stops : List Stop) (e : Ending) (final : Run) : Prop where
  /-- The walk is cancelled exactly if it comes to a pause of its own by whose end the flag is up. -/
  cancelled : e.fault = some .cancelled ↔ ∃ before q n pause r,
    Passes s (Fanout.Fires s) depth g start before q ∧ Asks s (Fanout.Fires s) depth g q n pause r ∧
      m.ComesWithin (s.timer pause.nanos) r
  /-- The node that asked for that pause is the last one, and the clock stops for good as the flag goes up. -/
  last : ∀ before q n pause r, Passes s (Fanout.Fires s) depth g start before q →
    Asks s (Fanout.Fires s) depth g q n pause r → m.ComesWithin (s.timer pause.nanos) r →
      ∃ chain v, stops = before ++ [⟨chain, v, .ran n (some .cancelled)⟩] ∧
        e.walk.run = { r with now := max r.now m.instant } ∧
        final.now = max r.now m.instant ∧ final.pauses = r.pauses
  /-- Once the flag is up, no pause of the whole completes and its clock stands. -/
  stands : ∀ before q, Passes s (Fanout.Fires s) depth g start before q → m.HasCome q.walk.run →
    final.now = q.walk.run.now ∧ final.pauses = q.walk.run.pauses
  /-- A walk that is not cancelled goes on to its normal end. -/
  normal : e.fault ≠ some .cancelled → Course { s with shutdownAt := none } (Fanout.Fires s) start.steps
    start.pending start.walk depth g stops e
  /-- Nothing is told of a walk that is cancelled. -/
  quiet : ∀ entry, e.fault = some .cancelled → (conclude s g entry e).2.run = e.walk.run

end Walk

namespace Surroundings

open Walk (Place Passes Asks Interrupted)

/-- A report of a walk, and of the walks within it at all levels, each interrupted by the same moment. -/
inductive CutShort (s : Surroundings) (m : Moment) (final : Run) : Nat → WalkReport → Prop where
  | mk {depth g entry outputs r stops e} (tour : s.Tour depth g entry outputs r stops e)
      (interrupted : Interrupted s m depth g (Place.entrance entry outputs r) stops e final)
      (nested : ∀ x ∈ e.walk.nested, CutShort s m final (depth + 1) x) :
      CutShort s m final depth (Walk.conclude s g entry e).1

variable {s : Surroundings} {m : Moment} {depth : Nat} {g : Graph} {entry : String} {outputs : Outputs}
  {r final : Run} {stops : List Stop} {e : Ending}

theorem Tour.interrupted (tour : s.Tour depth g entry outputs r stops e) (told : s.shutdownAt = some m)
    (later : Leads s (Walk.conclude s g entry e).2.run final) :
    Interrupted s m depth g (Place.entrance entry outputs r) stops e final := by
  have decided := Fanout.fires_decided s depth g
  have leads := Fanout.Fires.leads (s := s) depth g
  have ends : ∀ before q n pause r₁, Passes s (Fanout.Fires s) depth g (Place.entrance entry outputs r) before q →
      Asks s (Fanout.Fires s) depth g q n pause r₁ → m.ComesWithin (s.timer pause.nanos) r₁ →
      ∃ chain v, stops = before ++ [⟨chain, v, .ran n (some .cancelled)⟩] ∧ e.fault = some .cancelled ∧
        e.walk.run = { r₁ with now := max r₁.now m.instant } := by
    intro before q n pause r₁ passes asks comes
    obtain ⟨rest, rfl, course⟩ := passes.course decided tour
    have cut := Run.pause_of_comesWithin told comes
    obtain ⟨chain, v, rfl, fault, run⟩ := asks.ends decided cut course
    exact ⟨chain, v, rfl, fault, run⟩
  constructor
  case cancelled =>
    constructor
    · intro fault
      obtain ⟨before, q, n, pause, r₁, passes, asks, cut⟩ := tour.exists_asks fault
      refine ⟨before, q, n, pause, r₁, passes, asks, ?_⟩
      by_cases comes : m.ComesWithin (s.timer pause.nanos) r₁
      · exact comes
      · simp [Run.pause_of_not_comesWithin told comes] at cut
    · rintro ⟨before, q, n, pause, r₁, passes, asks, comes⟩
      obtain ⟨-, -, -, fault, -⟩ := ends before q n pause r₁ passes asks comes
      exact fault
  case last =>
    intro before q n pause r₁ passes asks comes
    obtain ⟨chain, v, all, -, run⟩ := ends before q n pause r₁ passes asks comes
    have up : m.HasCome e.walk.run := by
      rw [run]
      exact ⟨comes.1, Nat.le_max_right _ _⟩
    have stopped := ((Walk.conclude_leads entry e).trans later).stands told up
    rw [run] at stopped
    exact ⟨chain, v, all, run, stopped⟩
  case stands =>
    intro before q passes up
    obtain ⟨rest, -, course⟩ := passes.course decided tour
    have onward := (course.leads leads).trans ((Walk.conclude_leads entry e).trans later)
    exact onward.stands told up
  case normal => exact fun whole => tour.undisturbed whole
  case quiet =>
    intro entry fault
    simp only [Walk.conclude, fault, Walk.diagnose]

theorem inherited_cutShort (told : s.shutdownAt = some m) :
    Fanout.Inherited s fun final depth x => s.CutShort m final depth x := by
  intro final depth g entry outputs r stops e tour later nested
  exact .mk tour (tour.interrupted told later) nested

/-- Whatever the command, and whenever the engine is told to shut down, every walk of the command is cut short
where it comes to a pause; of the built-in nodes these are the delays. -/
theorem shutdown_cuts_delays (s : Surroundings) (m : Moment) (c : Command) (r : Run) :
    let s := { s with shutdownAt := some m }
    let done := c.perform s r
    (∀ x ∈ done.1.walks, s.CutShort m done.2 0 x) ∧
      (m.HasCome r → done.2.now = r.now ∧ done.2.pauses = r.pauses) ∧
      ∀ t call, ∃ out, (builtin t call).result = .ok out ∧
        ((∃ pause, out.next = .wait pause) ↔ t = .flow .delay) := by
  intro s done
  have told : s.shutdownAt = some m := rfl
  refine ⟨perform_inherits (inherited_cutShort told) c r, ?_, builtin_waits⟩
  intro up
  have opening : m.HasCome (c.opening r) ∧ (c.opening r).now = r.now ∧ (c.opening r).pauses = r.pauses := by
    cases c with
    | setProperty type id property v =>
      simp only [Command.opening]
      split
      · exact ⟨up, rfl, rfl⟩
      · exact ⟨up, rfl, rfl⟩
    | _ => exact ⟨up, rfl, rfl⟩
  obtain ⟨here, now, pauses⟩ := opening
  have stands := (s.perform_leads c r).stands told here
  rwa [now, pauses] at stands

theorem shutdown_cuts_delays_raised :
    let s : Surroundings := { registry := .builtins, library := [], settings := {}, draws := .ofSeed 7 }
    let m : Moment := ⟨500, 0⟩
    let c : Command := .executeNode { id := "wait", typeTag := "Flow_Delay" }
    let r : Run := { world := {}, now := 700 }
    let done := c.perform { s with shutdownAt := some m } r
    m.HasCome r ∧ done.2.now = 700 ∧ done.1.walks.length = 1 ∧
      ∀ x ∈ done.1.walks, CutShort { s with shutdownAt := some m } m done.2 0 x := by
  intro s m c r done
  have up : m.HasCome r := by decide
  obtain ⟨cut, stands, -⟩ := s.shutdown_cuts_delays m c r
  exact ⟨up, (stands up).1, rfl, cut⟩

end Surroundings

end StoryGraph
