import StoryGraph.Proofs.Walk.Passage

/-!
Which handlers walks call: those of the nodes that they come to, and of the nodes that the walks within them
come to. Main statements: from the beginning of some walks to their end a run is made of these calls, of pauses
and of messages to the host, and of nothing else; and each call is made in the world of its moment.
-/

namespace StoryGraph

open Run (Leads)

namespace Run

/-- Makes up one run from another, by calls of some kind only. -/
inductive LedBy (s : Surroundings) (Q : Call → Prop) : Run → Run → Prop where
  | refl {r} : LedBy s Q r r
  | handled {r h c r'} (made : Q c) (handler : s.registry.handlerFor c.node = some h) (world : c.world = r.world)
      (next : LedBy s Q (r.absorb (h c)) r') : LedBy s Q r r'
  | paused {r millis r'} (next : LedBy s Q (r.pause s millis).2 r') : LedBy s Q r r'
  | told {r text r'} (next : LedBy s Q (r.diagnose s.settings text) r') : LedBy s Q r r'

namespace LedBy

variable {s : Surroundings} {Q P : Call → Prop} {r r' r'' : Run}

theorem trans (first : LedBy s Q r r') (later : LedBy s Q r' r'') : LedBy s Q r r'' := by
  induction first with
  | refl => exact later
  | handled made handler world _ ih => exact .handled made handler world (ih later)
  | paused _ ih => exact .paused (ih later)
  | told _ ih => exact .told (ih later)

theorem mono (l : LedBy s Q r r') (wider : ∀ c, Q c → P c) : LedBy s P r r' := by
  induction l with
  | refl => exact .refl
  | handled made handler world _ ih => exact .handled (wider _ made) handler world ih
  | paused _ ih => exact .paused ih
  | told _ ih => exact .told ih

theorem call {c : Call} {h : Handler} (made : Q c) (handler : s.registry.handlerFor c.node = some h)
    (world : c.world = r.world) : LedBy s Q r (r.absorb (h c)) := .handled made handler world .refl

end LedBy

end Run

open Run (LedBy)

namespace Walk

variable {s : Surroundings} {F : Firing} {depth : Nat} {g : Graph} {p : Place}

/-- At the next visit from a place a handler is called. -/
inductive Calls (s : Surroundings) (depth : Nat) (g : Graph) : Place → Call → Prop where
  | mk {steps chain v rest w n h} (found : g.node? v.node = some n) (trail : Text.fold n.id ∉ v.trail)
      (limit : steps < s.settings.maxWalkSteps) (handler : s.registry.handlerFor n = some h) :
      Calls s depth g ⟨steps, (chain, v) :: rest, w⟩ (w.call s g depth n v)

/-- The next node asks for an effect, which is carried out from this run on. -/
inductive Requests (s : Surroundings) (F : Firing) (depth : Nat) (g : Graph) : Place → Effect → Run → Prop where
  | mk {steps chain v rest w n h out before effect after reports r} (found : g.node? v.node = some n)
      (trail : Text.fold n.id ∉ v.trail) (limit : steps < s.settings.maxWalkSteps)
      (handler : s.registry.handlerFor n = some h) (result : (h (w.call s g depth n v)).result = .ok out)
      (asked : out.effects = before ++ effect :: after)
      (effects : F depth g before (w.run.absorb (h (w.call s g depth n v))) reports r) :
      Requests s F depth g ⟨steps, (chain, v) :: rest, w⟩ effect r

theorem Calls.exists_handler {c : Call} (h : Calls s depth g p c) :
    c.world = p.walk.run.world ∧ ∃ h, s.registry.handlerFor c.node = some h := by
  cases h with
  | mk _ _ _ handler => exact ⟨rfl, _, handler⟩

theorem Requests.leads {effect : Effect} {r : Run} (h : Requests s F depth g p effect r)
    (fires : ∀ effects r reports r', F depth g effects r reports r' → Leads s r r') :
    Leads s p.walk.run r := by
  cases h with
  | mk _ _ _ handler _ _ effects => exact (Leads.handler handler rfl).trans (fires _ _ _ _ effects)

end Walk

namespace Fanout

variable {s : Surroundings} {depth : Nat} {c : Call}

/-- Walks of these entries, or walks within them, make this call. -/
inductive Makes (s : Surroundings) : Nat → List Entry → (Entry → Outputs) → Run → Call → Prop where
  | here {depth entry rest seed r stops p c}
      (passes : Walk.Passes s (Fires s) depth entry.graph (.entrance entry.node (seed entry) r) stops p)
      (calls : Walk.Calls s depth entry.graph p c) : Makes s depth (entry :: rest) seed r c
  | within {depth entry rest seed r stops p effect r' c} (limit : depth + 1 ≤ s.settings.maxFanoutDepth)
      (passes : Walk.Passes s (Fires s) depth entry.graph (.entrance entry.node (seed entry) r) stops p)
      (requests : Walk.Requests s (Fires s) depth entry.graph p effect r')
      (makes : Makes s (depth + 1) (entries s.library effect) (Fanout.seed effect) r' c) :
      Makes s depth (entry :: rest) seed r c
  | later {depth entry rest seed r c}
      (makes : Makes s depth rest seed (s.conduct depth entry.graph entry.node (seed entry) r).2 c) :
      Makes s depth (entry :: rest) seed r c

/-- A call is made in the world of a run that the beginning leads to. -/
theorem Makes.exists_leads {entries : List Entry} {seed : Entry → Outputs} {r : Run}
    (h : Makes s depth entries seed r c) :
    (∃ r', Leads s r r' ∧ c.world = r'.world) ∧ ∃ h, s.registry.handlerFor c.node = some h := by
  induction h with
  | here passes calls =>
    obtain ⟨world, handler⟩ := calls.exists_handler
    exact ⟨⟨_, passes.leads (Fires.leads _ _), world⟩, handler⟩
  | within _ passes requests _ ih =>
    obtain ⟨⟨r', leads, world⟩, handler⟩ := ih
    have asked := (passes.leads (Fires.leads _ _)).trans (requests.leads (Fires.leads _ _))
    exact ⟨⟨r', asked.trans leads, world⟩, handler⟩
  | later _ ih =>
    obtain ⟨⟨r', leads, world⟩, handler⟩ := ih
    exact ⟨⟨r', (s.conduct_leads _ _ _ _ _).trans leads, world⟩, handler⟩

/-- The walks that one of these effects starts make this call. -/
def Spawns (s : Surroundings) (depth : Nat) (g : Graph) (effects : List Effect) (r : Run) (c : Call) : Prop :=
  depth + 1 ≤ s.settings.maxFanoutDepth ∧ ∃ before effect after reports r',
    effects = before ++ effect :: after ∧ Fires s depth g before r reports r' ∧
      Makes s (depth + 1) (entries s.library effect) (seed effect) r' c

/-- From this place on, a walk or a walk within it makes this call. -/
def MakesFrom (s : Surroundings) (depth : Nat) (g : Graph) (p : Walk.Place) (c : Call) : Prop :=
  ∃ stops q, Walk.Passes s (Fires s) depth g p stops q ∧
    (Walk.Calls s depth g q c ∨ depth + 1 ≤ s.settings.maxFanoutDepth ∧ ∃ effect r',
      Walk.Requests s (Fires s) depth g q effect r' ∧
        Makes s (depth + 1) (entries s.library effect) (seed effect) r' c)

theorem Fires.ledBy {g : Graph} {effects : List Effect} {r r' : Run} {reports : List WalkReport}
    (deeper : ∀ entries r seed walks r', depth + 1 ≤ s.settings.maxFanoutDepth →
      Conducts s (Fires s) entries r (depth + 1) seed walks r' →
        LedBy s (Makes s (depth + 1) entries seed r) r r')
    (f : Fires s depth g effects r reports r') : LedBy s (Spawns s depth g effects r) r r' := by
  induction effects generalizing r reports with
  | nil =>
    cases f
    exact .refl
  | cons effect rest ih =>
    cases f with
    | dropped limit next =>
      refine .told ((ih next).mono fun c spawned => ?_)
      exact absurd spawned.1 (Nat.not_le.2 limit)
    | walked limit walks next =>
      have first := (deeper _ _ _ _ _ limit walks).mono (P := Spawns s depth g (effect :: rest) r)
        fun c makes => ⟨limit, [], effect, rest, [], r, rfl, .nil, makes⟩
      refine first.trans ((ih next).mono fun c spawned => ?_)
      obtain ⟨-, before, e, after, reports, r₁, rfl, fires, makes⟩ := spawned
      exact ⟨limit, effect :: before, e, after, _, r₁, rfl, .walked limit walks fires, makes⟩

end Fanout

namespace Walk

variable {s : Surroundings} {Q : Call → Prop} {depth : Nat} {g : Graph} {steps : Nat}
  {pending : List (List Node × Visit)} {w : Walk} {stops : List Stop} {e : Ending}

theorem after_ledBy {node : String} {trail : List String} {next : Next} {r r' : Run}
    {result : Except Fault (List Visit)} (h : after s g node trail next r = (result, r')) : LedBy s Q r r' := by
  obtain rfl | ⟨millis, rfl⟩ := after_run h
  · exact .refl
  · exact .paused .refl

theorem conclude_ledBy (entry : String) (e : Ending) : LedBy s Q e.walk.run (conclude s g entry e).2.run := by
  obtain same | ⟨text, told⟩ := conclude_run (s := s) (g := g) entry e
  · rw [same]
    exact .refl
  · rw [told]
    exact .told .refl

theorem Course.ledBy
    (fires : ∀ effects r reports r', Fanout.Fires s depth g effects r reports r' →
      LedBy s (Fanout.Spawns s depth g effects r) r r')
    (c : Course s (Fanout.Fires s) steps pending w depth g stops e) :
    LedBy s (Fanout.MakesFrom s depth g ⟨steps, pending, w⟩) w.run e.walk.run := by
  -- What a visit comes to: its call, the calls that its effects lead to, and a pause.
  have visit {steps chain v rest w n h out reports r result r'} (found : g.node? v.node = some n)
      (trail : Text.fold n.id ∉ v.trail) (limit : steps < s.settings.maxWalkSteps)
      (handler : s.registry.handlerFor n = some h) (answer : (h (w.call s g depth n v)).result = .ok out)
      (effects : Fanout.Fires s depth g out.effects (w.run.absorb (h (w.call s g depth n v))) reports r)
      (ways : after s g n.id (Text.fold n.id :: v.trail) out.next r = (result, r')) :
      LedBy s (Fanout.MakesFrom s depth g ⟨steps, (chain, v) :: rest, w⟩) w.run r' := by
    refine (LedBy.call ⟨[], _, .here, .inl (.mk found trail limit handler)⟩ handler rfl).trans ?_
    refine ((fires _ _ _ _ effects).mono fun c spawned => ?_).trans (after_ledBy ways)
    obtain ⟨deep, before, effect, after, reports, r₁, asked, fired, makes⟩ := spawned
    exact ⟨[], _, .here, .inr ⟨deep, effect, r₁, .mk found trail limit handler answer asked fired, makes⟩⟩
  induction c with
  | done | cycle | spent => exact .refl
  | missing found _ ih =>
    refine (ih fires visit).mono fun c makes => ?_
    obtain ⟨stops, q, passes, here⟩ := makes
    exact ⟨_, q, .missing found passes, here⟩
  | bare found trail limit handler _ ih =>
    refine (ih fires visit).mono fun c makes => ?_
    obtain ⟨stops, q, passes, here⟩ := makes
    exact ⟨_, q, .bare found trail limit handler passes, here⟩
  | broke found trail limit handler _ =>
    exact .call ⟨[], _, .here, .inl (.mk found trail limit handler)⟩ handler rfl
  | halted found trail limit handler result effects ways =>
    exact visit found trail limit handler result effects ways
  | went found trail limit handler result effects ways _ ih =>
    refine (visit found trail limit handler result effects ways).trans ((ih fires visit).mono fun c makes => ?_)
    obtain ⟨stops, q, passes, here⟩ := makes
    exact ⟨_, q, .went found trail limit handler result effects ways passes, here⟩

end Walk

namespace Fanout

variable {s : Surroundings} {depth : Nat}

theorem Conducts.ledBy {entries : List Entry} {seed : Entry → Outputs} {r r' : Run} {walks : List WalkReport}
    (fires : ∀ g effects r reports r', Fires s depth g effects r reports r' →
      LedBy s (Spawns s depth g effects r) r r')
    (c : Conducts s (Fires s) entries r depth seed walks r') : LedBy s (Makes s depth entries seed r) r r' := by
  induction c with
  | nil => exact .refl
  | @cons entry rest r depth seed stops e later r' walk _ ih =>
    have walked := (walk.ledBy (fires entry.graph)).mono (P := Makes s depth (entry :: rest) seed r)
      fun c makes => by
        obtain ⟨stops, p, passes, here⟩ := makes
        cases here with
        | inl calls => exact .here passes calls
        | inr deep =>
          obtain ⟨limit, effect, r₁, requests, makes⟩ := deep
          exact .within limit passes requests makes
    refine walked.trans ((Walk.conclude_ledBy entry.node e).trans ((ih fires).mono fun c makes => .later ?_))
    rw [Surroundings.conduct, s.walk_of_tour depth entry.graph entry.node (seed entry) r walk]
    exact makes

/-- Walks lead a run on by the calls that they make. -/
theorem ledBy_walkAll (s : Surroundings) (depth : Nat) (seed : Entry → Outputs) (entries : List Entry) (r : Run) :
    LedBy s (Makes s depth entries seed r) r (walkAll (s.conduct depth) seed entries r).2 := by
  have leads (depth : Nat) : ∀ entries r seed walks r', Conducts s (Fires s) entries r depth seed walks r' →
      LedBy s (Makes s depth entries seed r) r r' := by
    induction depth using depth_induction (D := s.settings.maxFanoutDepth) with
    | step depth deeper =>
      intro entries r seed walks r' c
      exact c.ledBy fun g effects r reports r' f => f.ledBy fun _ _ _ _ _ limit => deeper limit _ _ _ _ _
  exact leads depth _ _ _ _ _ (conducts_walkAll s depth seed entries r)

end Fanout

end StoryGraph
