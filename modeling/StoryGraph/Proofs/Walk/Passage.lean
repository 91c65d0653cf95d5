import StoryGraph.Proofs.Walk.Leads

/-!
The places that a walk passes through on its way, one before each visit, and what it meets there. Main
statements: from every place that it passes, a walk goes on to the same ending; and it is cancelled exactly
if it comes to a pause that is cut short.
-/

namespace StoryGraph

open Run (Leads)

/-- Effects are carried out in one way only. -/
def Firing.Decided (F : Firing) (depth : Nat) (g : Graph) : Prop :=
  ∀ effects r a b a' b', F depth g effects r a b → F depth g effects r a' b' → a = a' ∧ b = b'

namespace Walk

/-- A walk between two visits. -/
structure Place where
  steps : Nat
  pending : List (List Node × Visit)
  walk : Walk

/-- Where a walk begins. -/
def Place.entrance (entry : String) (outputs : Outputs) (r : Run) : Place :=
  ⟨0, [([], ⟨entry, Port.exec, []⟩)], { outputs := outputs, run := r }⟩

/-- From one place to a later one, by the stops between them. -/
inductive Passes (s : Surroundings) (F : Firing) (depth : Nat) (g : Graph) : Place → List Stop → Place → Prop where
  | here {p} : Passes s F depth g p [] p
  | missing {steps chain v rest w stops q} (found : g.node? v.node = none)
      (next : Passes s F depth g ⟨steps, rest, w⟩ stops q) :
      Passes s F depth g ⟨steps, (chain, v) :: rest, w⟩ (⟨chain, v, .missing⟩ :: stops) q
  | bare {steps chain v rest w n stops q} (found : g.node? v.node = some n)
      (trail : Text.fold n.id ∉ v.trail) (limit : steps < s.settings.maxWalkSteps)
      (handler : s.registry.handlerFor n = none) (next : Passes s F depth g ⟨steps + 1, rest, w⟩ stops q) :
      Passes s F depth g ⟨steps, (chain, v) :: rest, w⟩ (⟨chain, v, .bare n⟩ :: stops) q
  | went {steps chain v rest w n h out reports r visits r' stops q} (found : g.node? v.node = some n)
      (trail : Text.fold n.id ∉ v.trail) (limit : steps < s.settings.maxWalkSteps)
      (handler : s.registry.handlerFor n = some h) (result : (h (w.call s g depth n v)).result = .ok out)
      (effects : F depth g out.effects (w.run.absorb (h (w.call s g depth n v))) reports r)
      (ways : after s g n.id (Text.fold n.id :: v.trail) out.next r = (.ok visits, r'))
      (next : Passes s F depth g ⟨steps + 1, extend chain n visits ++ rest, w.served n v out reports r'⟩ stops q) :
      Passes s F depth g ⟨steps, (chain, v) :: rest, w⟩ (⟨chain, v, .ran n none⟩ :: stops) q

/-- The next node asks for a pause, which begins in this run once the walks that the node starts are over. -/
inductive Asks (s : Surroundings) (F : Firing) (depth : Nat) (g : Graph) : Place → Node → Latent → Run → Prop where
  | mk {steps chain v rest w n h out reports r pause} (found : g.node? v.node = some n)
      (trail : Text.fold n.id ∉ v.trail) (limit : steps < s.settings.maxWalkSteps)
      (handler : s.registry.handlerFor n = some h) (result : (h (w.call s g depth n v)).result = .ok out)
      (effects : F depth g out.effects (w.run.absorb (h (w.call s g depth n v))) reports r)
      (asked : out.next = .wait pause) :
      Asks s F depth g ⟨steps, (chain, v) :: rest, w⟩ n pause r

variable {s : Surroundings} {F : Firing} {depth : Nat} {g : Graph} {p q : Place} {before stops : List Stop}
  {e : Ending}

/-! What a course does at its first visit is decided by what is found there. -/

section Inversion

variable {steps : Nat} {chain : List Node} {v : Visit} {rest : List (List Node × Visit)} {w : Walk} {n : Node}

theorem Course.of_missing (found : g.node? v.node = none)
    (c : Course s F steps ((chain, v) :: rest) w depth g stops e) :
    ∃ later, stops = ⟨chain, v, .missing⟩ :: later ∧ Course s F steps rest w depth g later e := by
  cases c with
  | missing _ next => exact ⟨_, rfl, next⟩
  | cycle found' | spent found' | bare found' | broke found' | halted found' | went found' =>
    simp [found] at found'

theorem Course.of_bare (found : g.node? v.node = some n) (trail : Text.fold n.id ∉ v.trail)
    (limit : steps < s.settings.maxWalkSteps) (handler : s.registry.handlerFor n = none)
    (c : Course s F steps ((chain, v) :: rest) w depth g stops e) :
    ∃ later, stops = ⟨chain, v, .bare n⟩ :: later ∧ Course s F (steps + 1) rest w depth g later e := by
  cases c with
  | bare found' _ _ _ next =>
    cases found.symm.trans found'
    exact ⟨_, rfl, next⟩
  | missing found' => simp [found] at found'
  | cycle found' trail' =>
    cases found.symm.trans found'
    exact absurd trail' trail
  | spent found' _ limit' => exact absurd limit (Nat.not_lt.2 limit')
  | broke found' _ _ handler' | halted found' _ _ handler' | went found' _ _ handler' =>
    cases found.symm.trans found'
    simp [handler] at handler'

/-- A node that answers ends the walk or lets it go on, as its way on comes out. -/
theorem Course.of_answer {h : Handler} {out : Output} {reports : List WalkReport} {r : Run}
    (decided : F.Decided depth g)
    (found : g.node? v.node = some n) (trail : Text.fold n.id ∉ v.trail)
    (limit : steps < s.settings.maxWalkSteps) (handler : s.registry.handlerFor n = some h)
    (result : (h (w.call s g depth n v)).result = .ok out)
    (effects : F depth g out.effects (w.run.absorb (h (w.call s g depth n v))) reports r)
    (c : Course s F steps ((chain, v) :: rest) w depth g stops e) :
    match after s g n.id (Text.fold n.id :: v.trail) out.next r with
    | (.error fault, r') =>
      stops = [⟨chain, v, .ran n (some fault)⟩] ∧ e = ⟨some fault, steps + 1, w.served n v out reports r'⟩
    | (.ok visits, r') => ∃ later, stops = ⟨chain, v, .ran n none⟩ :: later ∧
      Course s F (steps + 1) (extend chain n visits ++ rest) (w.served n v out reports r') depth g later e := by
  cases c with
  | halted found' _ _ handler' result' effects' ways =>
    cases found.symm.trans found'
    cases handler.symm.trans handler'
    cases result.symm.trans result'
    obtain ⟨rfl, rfl⟩ := decided _ _ _ _ _ _ effects effects'
    rw [ways]
    exact ⟨rfl, rfl⟩
  | went found' _ _ handler' result' effects' ways next =>
    cases found.symm.trans found'
    cases handler.symm.trans handler'
    cases result.symm.trans result'
    obtain ⟨rfl, rfl⟩ := decided _ _ _ _ _ _ effects effects'
    rw [ways]
    exact ⟨_, rfl, next⟩
  | missing found' => simp [found] at found'
  | cycle found' trail' =>
    cases found.symm.trans found'
    exact absurd trail' trail
  | spent found' _ limit' => exact absurd limit (Nat.not_lt.2 limit')
  | bare found' _ _ handler' =>
    cases found.symm.trans found'
    simp [handler] at handler'
  | broke found' _ _ handler' result' =>
    cases found.symm.trans found'
    cases handler.symm.trans handler'
    simp [result] at result'

end Inversion

/-- A walk goes on from every place that it passes. -/
theorem Passes.course (h : Passes s F depth g p before q)
    (decided : F.Decided depth g)
    (c : Course s F p.steps p.pending p.walk depth g stops e) :
    ∃ later, stops = before ++ later ∧ Course s F q.steps q.pending q.walk depth g later e := by
  induction h generalizing stops with
  | here => exact ⟨stops, rfl, c⟩
  | missing found _ ih =>
    obtain ⟨rest, rfl, next⟩ := c.of_missing found
    obtain ⟨later, rfl, ending⟩ := ih next
    exact ⟨later, rfl, ending⟩
  | bare found trail limit handler _ ih =>
    obtain ⟨rest, rfl, next⟩ := c.of_bare found trail limit handler
    obtain ⟨later, rfl, ending⟩ := ih next
    exact ⟨later, rfl, ending⟩
  | went found trail limit handler result effects ways _ ih =>
    have answer := c.of_answer decided found trail limit handler result effects
    rw [ways] at answer
    obtain ⟨rest, rfl, next⟩ := answer
    obtain ⟨later, rfl, ending⟩ := ih next
    exact ⟨later, rfl, ending⟩

theorem Passes.leads (h : Passes s F depth g p before q)
    (fires : ∀ effects r reports r', F depth g effects r reports r' → Leads s r r') :
    Leads s p.walk.run q.walk.run := by
  induction h with
  | here => exact .refl
  | missing _ _ ih | bare _ _ _ _ _ ih => exact ih
  | went _ _ _ handler _ effects ways _ ih =>
    have node := (Leads.handler handler rfl).trans ((fires _ _ _ _ effects).trans (after_leads ways))
    exact node.trans ih

/-- A walk whose pause is cut short ends at the node that asked for it. -/
theorem Asks.ends {n : Node} {pause : Latent} {r r' : Run} {fault : Fault} (h : Asks s F depth g p n pause r)
    (decided : F.Decided depth g)
    (cut : r.pause s (s.timer pause.nanos) = (some fault, r'))
    (c : Course s F p.steps p.pending p.walk depth g stops e) :
    ∃ chain v, stops = [⟨chain, v, .ran n (some fault)⟩] ∧ e.fault = some fault ∧ e.walk.run = r' := by
  cases h with
  | @mk _ chain v _ _ _ _ out _ _ _ found trail limit handler result effects asked =>
    have answer := c.of_answer decided found trail limit handler result effects
    simp only [asked, after, cut] at answer
    obtain ⟨rfl, rfl⟩ := answer
    exact ⟨chain, v, rfl, rfl, rfl⟩

theorem after_eq_cancelled {node : String} {trail : List String} {next : Next} {r r' : Run}
    (h : after s g node trail next r = (.error .cancelled, r')) :
    ∃ pause, next = .wait pause ∧ r.pause s (s.timer pause.nanos) = (some .cancelled, r') := by
  cases next with
  | goOn port | fork ports | stop | fail message => simp [after] at h
  | wait pause =>
    refine ⟨pause, rfl, ?_⟩
    simp only [after] at h
    split at h
    case h_1 fault run paused =>
      cases h
      exact paused
    case h_2 => simp at h

theorem Course.exists_asks {steps : Nat} {pending : List (List Node × Visit)} {w : Walk}
    (c : Course s F steps pending w depth g stops e) (cancelled : e.fault = some .cancelled) :
    ∃ before q n pause r, Passes s F depth g ⟨steps, pending, w⟩ before q ∧ Asks s F depth g q n pause r ∧
      r.pause s (s.timer pause.nanos) = (some .cancelled, e.walk.run) := by
  induction c with
  | done | cycle | spent | broke => simp at cancelled
  | missing found _ ih =>
    obtain ⟨before, q, n, pause, r, passes, asks⟩ := ih cancelled
    exact ⟨_, q, n, pause, r, .missing found passes, asks⟩
  | bare found trail limit handler _ ih =>
    obtain ⟨before, q, n, pause, r, passes, asks⟩ := ih cancelled
    exact ⟨_, q, n, pause, r, .bare found trail limit handler passes, asks⟩
  | halted found trail limit handler result effects ways =>
    cases cancelled
    obtain ⟨pause, asked, cut⟩ := after_eq_cancelled ways
    exact ⟨[], _, _, pause, _, .here, .mk found trail limit handler result effects asked, cut⟩
  | went found trail limit handler result effects ways _ ih =>
    obtain ⟨before, q, n, pause, r, passes, asks⟩ := ih cancelled
    exact ⟨_, q, n, pause, r, .went found trail limit handler result effects ways passes, asks⟩

end Walk

theorem Fanout.fires_decided (s : Surroundings) (depth : Nat) (g : Graph) :
    Firing.Decided (Fires s) depth g := by
  intro effects r a b a' b' f f'
  have one := Fires.fireAll_eq depth g effects r a b f
  have other := Fires.fireAll_eq depth g effects r a' b' f'
  exact Prod.mk.inj (one.symm.trans other)

end StoryGraph
