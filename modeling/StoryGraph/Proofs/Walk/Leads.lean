import StoryGraph.Engine.Basic
import StoryGraph.Proofs.Walk.Fires

/-!
What a run is made of. Whatever walks do, a run changes in three ways only: it takes over what a handler did,
it pauses, and it tells the host of a fault. Main statement: from the opening of a command to its end a run
is made of these, so what each of them preserves every command preserves. So it only ever goes on: nothing that
has happened is taken back.
-/

namespace StoryGraph

namespace Run

/-- Makes up one run from another, in the given surroundings. -/
inductive Leads (s : Surroundings) : Run → Run → Prop where
  | refl {r} : Leads s r r
  | handled {r n h r'} {c : Call} (handler : s.registry.handlerFor n = some h) (world : c.world = r.world)
      (next : Leads s (r.absorb (h c)) r') : Leads s r r'
  | paused {r millis r'} (next : Leads s (r.pause s millis).2 r') : Leads s r r'
  | told {r text r'} (next : Leads s (r.diagnose s.settings text) r') : Leads s r r'

variable {s : Surroundings} {r r' r'' : Run}

theorem Leads.trans (first : Leads s r r') (later : Leads s r' r'') : Leads s r r'' := by
  induction first with
  | refl => exact later
  | handled handler world _ ih => exact .handled handler world (ih later)
  | paused _ ih => exact .paused (ih later)
  | told _ ih => exact .told (ih later)

theorem Leads.handler {n : Node} {h : Handler} {c : Call} (handler : s.registry.handlerFor n = some h)
    (world : c.world = r.world) : Leads s r (r.absorb (h c)) := .handled handler world .refl

theorem Leads.pause {millis : Nat} : Leads s r (r.pause s millis).2 := .paused .refl

theorem Leads.diagnose {text : String} : Leads s r (r.diagnose s.settings text) := .told .refl

/-- A dated list goes on, with nothing from before an instant. -/
def Continues {α : Type} (t : Nat) (l l' : List (Nat × α)) : Prop :=
  ∃ later, l' = l ++ later ∧ ∀ e ∈ later, t ≤ e.1

namespace Continues

variable {α : Type} {t t' : Nat} {l l' l'' : List (Nat × α)}

theorem refl : Continues t l l := ⟨[], (List.append_nil l).symm, fun _ h => absurd h List.not_mem_nil⟩

theorem trans (h : Continues t l l') (le : t ≤ t') (h' : Continues t' l' l'') : Continues t l l'' := by
  obtain ⟨first, rfl, here⟩ := h
  obtain ⟨second, rfl, there⟩ := h'
  refine ⟨first ++ second, List.append_assoc l first second, fun e he => ?_⟩
  cases List.mem_append.1 he with
  | inl he => exact here e he
  | inr he => exact Nat.le_trans le (there e he)

theorem map {β : Type} (f : β → α) (new : List β) : Continues t l (l ++ new.map fun b => (t, f b)) := by
  refine ⟨_, rfl, fun e he => ?_⟩
  obtain ⟨b, -, rfl⟩ := List.mem_map.1 he
  exact Nat.le_refl t

/-- What lies before the instant is the same in both. -/
theorem filter_lt (h : Continues t l l') (le : t' ≤ t) :
    (l'.filter fun e => decide (e.1 < t')) = l.filter fun e => decide (e.1 < t') := by
  obtain ⟨later, rfl, dated⟩ := h
  have none : (later.filter fun e => decide (e.1 < t')) = [] := by
    refine List.filter_eq_nil_iff.2 fun e he => ?_
    have := dated e he
    simp only [decide_eq_true_eq]
    omega
  rw [List.filter_append, none, List.append_nil]

end Continues

/-- The clock and the count of pauses go on, and so does what has been sent and logged. -/
structure Onward (r r' : Run) : Prop where
  now : r.now ≤ r'.now
  pauses : r.pauses ≤ r'.pauses
  events : Continues r.now r.events r'.events
  logs : Continues r.now r.logs r'.logs

namespace Onward

theorem refl : Onward r r := ⟨Nat.le_refl _, Nat.le_refl _, .refl, .refl⟩

theorem trans (h : Onward r r') (h' : Onward r' r'') : Onward r r'' where
  now := Nat.le_trans h.now h'.now
  pauses := Nat.le_trans h.pauses h'.pauses
  events := h.events.trans h.now h'.events
  logs := h.logs.trans h.now h'.logs

theorem absorb (r : Run) (a : Response) : Onward r (r.absorb a) :=
  ⟨Nat.le_refl _, Nat.le_refl _, .map _ _, .map _ _⟩

theorem wake (r : Run) (millis : Nat) : Onward r (r.wake millis) :=
  ⟨Nat.le_add_right _ _, Nat.le_succ _, .refl, .refl⟩

theorem pause (s : Surroundings) (r : Run) (millis : Nat) : Onward r (r.pause s millis).2 := by
  simp only [Run.pause]
  split
  · exact .wake r millis
  · split
    · exact ⟨Nat.le_max_left _ _, Nat.le_refl _, .refl, .refl⟩
    · exact .wake r millis

theorem diagnose (s : Settings) (r : Run) (text : String) : Onward r (r.diagnose s text) := by
  simp only [Run.diagnose]
  split
  · exact ⟨Nat.le_refl _, Nat.le_refl _, .map (fun _ => HostEvent.diagnostic text) [()], .refl⟩
  · exact .refl

end Onward

theorem Leads.onward (l : Leads s r r') : Onward r r' := by
  induction l with
  | refl => exact .refl
  | handled _ _ _ ih => exact (Onward.absorb _ _).trans ih
  | paused _ ih => exact (Onward.pause s _ _).trans ih
  | told _ ih => exact (Onward.diagnose s.settings _ _).trans ih

end Run

open Run (Leads)

namespace Walk

variable {s : Surroundings} {F : Firing} {steps : Nat} {pending : List (List Node × Visit)} {w : Walk}
  {depth : Nat} {g : Graph} {stops : List Stop} {e : Ending}

/-- On its way from a node a walk pauses at most. -/
theorem after_run {node : String} {trail : List String} {next : Next} {r r' : Run}
    {result : Except Fault (List Visit)} (h : after s g node trail next r = (result, r')) :
    r' = r ∨ ∃ millis, r' = (r.pause s millis).2 := by
  cases next with
  | goOn port | fork ports | stop | fail message =>
    simp only [after, Prod.mk.injEq] at h
    exact .inl h.2.symm
  | wait pause =>
    refine .inr ⟨s.timer pause.nanos, ?_⟩
    simp only [after] at h
    split at h <;> rename_i paused <;> rw [paused] <;> exact (Prod.ext_iff.1 h).2.symm

theorem after_leads {node : String} {trail : List String} {next : Next} {r r' : Run}
    {result : Except Fault (List Visit)} (h : after s g node trail next r = (result, r')) : Leads s r r' := by
  obtain rfl | ⟨millis, rfl⟩ := after_run h
  · exact .refl
  · exact .pause

theorem Course.leads (fires : ∀ effects r reports r', F depth g effects r reports r' → Leads s r r')
    (c : Course s F steps pending w depth g stops e) : Leads s w.run e.walk.run := by
  induction c with
  | done | cycle | spent => exact .refl
  | missing _ _ ih | bare _ _ _ _ _ ih => exact ih fires
  | broke _ _ _ handler _ => exact .handler handler rfl
  | halted _ _ _ handler _ effects ways =>
    exact (Leads.handler handler rfl).trans ((fires _ _ _ _ effects).trans (after_leads ways))
  | went _ _ _ handler _ effects ways _ ih =>
    have here := (fires _ _ _ _ effects).trans (after_leads ways)
    exact (Leads.handler handler rfl).trans (here.trans (ih fires))

/-- At its end a walk tells the host at most. -/
theorem conclude_run (entry : String) (e : Ending) : (conclude s g entry e).2.run = e.walk.run ∨
    ∃ text, (conclude s g entry e).2.run = e.walk.run.diagnose s.settings text := by
  simp only [conclude, diagnose]
  split
  · exact .inl rfl
  · exact .inl rfl
  · exact .inr ⟨_, rfl⟩

theorem conclude_leads (entry : String) (e : Ending) : Leads s e.walk.run (conclude s g entry e).2.run := by
  obtain same | ⟨text, told⟩ := conclude_run (s := s) (g := g) entry e
  · rw [same]
    exact .refl
  · rw [told]
    exact .diagnose

end Walk

namespace Fanout

variable {s : Surroundings} {depth : Nat}

theorem Conducts.leads {F : Firing} {entries : List Entry} {seed : Entry → Outputs} {r r' : Run}
    {walks : List WalkReport} (fires : ∀ g effects r reports r', F depth g effects r reports r' → Leads s r r')
    (c : Conducts s F entries r depth seed walks r') : Leads s r r' := by
  induction c with
  | nil => exact .refl
  | cons walk _ ih => exact (walk.leads (fires _)).trans ((Walk.conclude_leads _ _).trans (ih fires))

theorem fires_leads_of_deeper {g : Graph} {effects : List Effect} {r r' : Run} {reports : List WalkReport}
    (deeper : ∀ entries r seed walks r', depth + 1 ≤ s.settings.maxFanoutDepth →
      Conducts s (Fires s) entries r (depth + 1) seed walks r' → Leads s r r')
    (f : Fires s depth g effects r reports r') : Leads s r r' := by
  induction effects generalizing r reports with
  | nil =>
    cases f
    exact .refl
  | cons effect rest ih =>
    cases f with
    | dropped limit next => exact Leads.diagnose.trans (ih next)
    | walked limit walks next => exact (deeper _ _ _ _ _ limit walks).trans (ih next)

theorem Fires.leads (depth : Nat) :
    ∀ g effects r reports r', Fires s depth g effects r reports r' → Leads s r r' := by
  induction depth using depth_induction (D := s.settings.maxFanoutDepth) with
  | step depth deeper =>
    intro g effects r reports r' f
    exact fires_leads_of_deeper (fun _ _ _ _ _ limit c => c.leads (deeper limit)) f

end Fanout

theorem World.writeProperty_unmatched {w w' : World} {t : EntityType} {id property : String} {v : Value}
    (h : w.writeProperty t id property v = (w', .unmatched)) : w' = w := by
  simp only [writeProperty] at h
  split at h
  · split at h <;> cases h
  · exact (Prod.ext_iff.1 h).1.symm

/-- The run in which the walks of a command begin: the command has changed the world itself. -/
def Command.opening (c : Command) (r : Run) : Run :=
  match c with
  | .setProperty type id property v =>
    match EntityType.ofName? type with
    | none => r
    | some t => { r with world := (r.world.writeProperty t id property v).1 }
  | .advanceTurn => { r with world := r.world.tick }
  | _ => r

/-- The command itself takes no time and sends nothing. -/
theorem Command.opening_onward (c : Command) (r : Run) : r.Onward (c.opening r) := by
  cases c with
  | setProperty type id property v =>
    simp only [opening]
    split
    · exact .refl
    · exact ⟨Nat.le_refl _, Nat.le_refl _, .refl, .refl⟩
  | advanceTurn => exact ⟨Nat.le_refl _, Nat.le_refl _, .refl, .refl⟩
  | trigger | executeNode | getProperty | snapshot => exact .refl

namespace Surroundings

variable (s : Surroundings)

theorem walkAll_leads (depth : Nat) (seed : Entry → Outputs) (entries : List Entry) (r : Run) :
    Leads s r (Fanout.walkAll (s.conduct depth) seed entries r).2 :=
  (Fanout.conducts_walkAll s depth seed entries r).leads (Fanout.Fires.leads depth)

theorem conduct_leads (depth : Nat) (g : Graph) (entry : String) (outputs : Outputs) (r : Run) :
    Leads s r (s.conduct depth g entry outputs r).2 := by
  obtain ⟨stops, e, tour, walk⟩ := s.exists_tour depth g entry outputs r
  have ending := (tour.leads (Fanout.Fires.leads depth g)).trans (Walk.conclude_leads (g := g) entry e)
  simpa only [conduct, walk] using ending

theorem setProperty_leads (type id property : String) (v : Value) (r : Run) :
    Leads s ((Command.setProperty type id property v).opening r) (s.setProperty type id property v r).2 := by
  simp only [setProperty, Command.opening]
  cases EntityType.ofName? type with
  | none => exact .refl
  | some t =>
    simp only
    cases written : r.world.writeProperty t id property v with
    | mk w outcome =>
      cases outcome with
      | unmatched =>
        rw [World.writeProperty_unmatched written]
        exact .refl
      | unchanged => exact .refl
      | changed change => exact s.walkAll_leads 0 _ _ _

theorem advanceTurn_leads (r : Run) : Leads s (Command.advanceTurn.opening r) (s.advanceTurn r).2 := by
  simp only [advanceTurn, broadcast, Command.opening]
  exact s.walkAll_leads 0 _ _ _

/-- A command opens the run and leads it to its end. -/
theorem perform_leads (c : Command) (r : Run) : Leads s (c.opening r) (c.perform s r).2 := by
  cases c with
  | trigger ownerType ownerId tag => exact s.walkAll_leads 0 _ _ r
  | executeNode n => exact s.conduct_leads 0 _ _ _ r
  | setProperty type id property v =>
    simp only [Command.perform]
    exact s.setProperty_leads type id property v r
  | advanceTurn =>
    simp only [Command.perform]
    exact s.advanceTurn_leads r
  | getProperty | snapshot => exact .refl

theorem perform_onward (c : Command) (r : Run) : r.Onward (c.perform s r).2 :=
  (c.opening_onward r).trans (s.perform_leads c r).onward

end Surroundings

end StoryGraph
