import StoryGraph.Proofs.Walk.Course

/-!
How triggers are carried out, as rules without a measure: an effect below the deepest level is dropped,
any other starts its walks one level deeper, and each of them takes its course. Main statement: every
trigger, at every depth, is carried out to its end, and comes to what the engine computes.
-/

namespace StoryGraph

namespace Walk

/-- The report of a walk that has ended, and its state once the host has been told. -/
def conclude (s : Surroundings) (g : Graph) (entry : String) (e : Ending) : WalkReport × Walk :=
  (.mk g.id entry (Status.of e.fault) e.steps e.walk.nested,
    { e.walk with run := diagnose s g e.fault e.walk.run })

end Walk

namespace Fanout

/-- The host is told that an effect of a walk over `g` is dropped. -/
def drop (s : Surroundings) (depth : Nat) (g : Graph) (r : Run) : Run :=
  r.diagnose s.settings ("graph '" ++ g.id ++ "': nested trigger dropped at depth " ++
    toString (depth + 1) ++ " (limit " ++ toString s.settings.maxFanoutDepth ++ ")")

def entries (l : Library) : Effect → List Entry
  | .changed c => l.listeners c
  | .trigger ownerType ownerId tag => l.entriesFor ownerType ownerId tag

def seed : Effect → Entry → Outputs
  | .changed c => announce c
  | .trigger _ _ _ => fun _ => .empty

/-- Entries are walked in order, each along its course. -/
inductive Conducts (s : Surroundings) (F : Firing) :
    List Entry → Run → Nat → (Entry → Outputs) → List WalkReport → Run → Prop where
  | nil {r depth seed} : Conducts s F [] r depth seed [] r
  | cons {entry rest r depth seed stops e later r'}
      (walk : Walk.Course s F 0 [([], ⟨entry.node, Port.exec, []⟩)] { outputs := seed entry, run := r } depth
        entry.graph stops e)
      (next : Conducts s F rest (Walk.conclude s entry.graph entry.node e).2.run depth seed later r') :
      Conducts s F (entry :: rest) r depth seed ((Walk.conclude s entry.graph entry.node e).1 :: later) r'

/-- Effects are carried out in order, within the limit of depth. -/
inductive Fires (s : Surroundings) : Firing where
  | nil {depth g r} : Fires s depth g [] r [] r
  | dropped {depth g effect rest r later r'} (limit : s.settings.maxFanoutDepth < depth + 1)
      (next : Fires s depth g rest (drop s depth g r) later r') :
      Fires s depth g (effect :: rest) r later r'
  | walked {depth g effect rest r reports r' later r''} (limit : depth + 1 ≤ s.settings.maxFanoutDepth)
      (walks : Conducts s (Fires s) (entries s.library effect) r (depth + 1) (seed effect) reports r')
      (next : Fires s depth g rest r' later r'') :
      Fires s depth g (effect :: rest) r (reports ++ later) r''

theorem walksOf_eq (s : Surroundings) (conduct : Conduct) (effect : Effect) (r : Run) :
    walksOf s conduct effect r = walkAll conduct (seed effect) (entries s.library effect) r := by
  cases effect <;> rfl

/-- The levels that are left are no budget of their own: an effect is dropped exactly where its walks
would be deeper than the limit. -/
theorem fire_eq (s : Surroundings) (depth : Nat) (g : Graph) (effect : Effect) (r : Run) :
    fire s (s.settings.maxFanoutDepth - depth) depth g effect r =
      if depth + 1 ≤ s.settings.maxFanoutDepth then
        walkAll (s.conduct (depth + 1)) (seed effect) (entries s.library effect) r
      else ([], drop s depth g r) := by
  split
  case isTrue h =>
    obtain ⟨levels, hl⟩ := Nat.exists_eq_add_of_le h
    have here : s.settings.maxFanoutDepth - depth = levels + 1 := by omega
    have below : s.settings.maxFanoutDepth - (depth + 1) = levels := by omega
    rw [here, ← walksOf_eq]
    have walk : s.conduct (depth + 1) = fun g entry outputs r =>
        let conducted := Walk.conduct s (fire s levels (depth + 1) g) g (depth + 1) entry outputs r
        (conducted.1, conducted.2.run) := by
      funext g entry outputs r
      simp only [Surroundings.conduct, Surroundings.walk, below]
    rw [walk]
    rfl
  case isFalse h =>
    have here : s.settings.maxFanoutDepth - depth = 0 := by omega
    rw [here]
    rfl

theorem fires_of_conducts {s : Surroundings} {depth : Nat} {g : Graph}
    (walks : ∀ entries seed r, depth + 1 ≤ s.settings.maxFanoutDepth →
      Conducts s (Fires s) entries r (depth + 1) seed (walkAll (s.conduct (depth + 1)) seed entries r).1
        (walkAll (s.conduct (depth + 1)) seed entries r).2)
    (effects : List Effect) (r : Run) :
    let fired := Walk.fireAll (fire s (s.settings.maxFanoutDepth - depth) depth g) effects r
    Fires s depth g effects r fired.1 fired.2 := by
  induction effects generalizing r with
  | nil => exact .nil
  | cons effect rest ih =>
    by_cases limit : depth + 1 ≤ s.settings.maxFanoutDepth
    · simp only [Walk.fireAll, fire_eq, if_pos limit]
      exact .walked limit (walks _ _ _ limit) (ih _)
    · simp only [Walk.fireAll, fire_eq, if_neg limit]
      exact .dropped (Nat.lt_of_not_le limit) (ih _)

theorem conducts_of_fires {s : Surroundings} {depth : Nat} {seed : Entry → Outputs}
    (fires : ∀ g effects r,
      let fired := Walk.fireAll (fire s (s.settings.maxFanoutDepth - depth) depth g) effects r
      Fires s depth g effects r fired.1 fired.2)
    (entries : List Entry) (r : Run) :
    Conducts s (Fires s) entries r depth seed (walkAll (s.conduct depth) seed entries r).1
      (walkAll (s.conduct depth) seed entries r).2 := by
  induction entries generalizing r with
  | nil => exact .nil
  | cons entry rest ih =>
    obtain ⟨stops, course⟩ := Walk.exists_course (fires entry.graph) 0
      [([], ⟨entry.node, Port.exec, []⟩)] { outputs := seed entry, run := r }
    exact .cons course (ih _)

/-- Induction from the deepest level up. -/
theorem depth_induction {D : Nat} {P : Nat → Prop}
    (step : ∀ depth, (depth + 1 ≤ D → P (depth + 1)) → P depth) (depth : Nat) : P depth := by
  -- On the levels that are left. None is left at the limit and beyond it.
  induction hl : D - depth generalizing depth with
  | zero => exact step depth fun h => absurd h (by omega)
  | succ levels ih => exact step depth fun _ => ih (depth + 1) (by omega)

theorem conducts_walkAll (s : Surroundings) (depth : Nat) :
    ∀ (seed : Entry → Outputs) (entries : List Entry) (r : Run),
      Conducts s (Fires s) entries r depth seed (walkAll (s.conduct depth) seed entries r).1
        (walkAll (s.conduct depth) seed entries r).2 := by
  induction depth using depth_induction (D := s.settings.maxFanoutDepth) with
  | step depth deeper =>
    intro seed entries r
    refine conducts_of_fires (fun g => fires_of_conducts fun entries seed r limit => ?_) entries r
    exact deeper limit seed entries r

theorem fires_fireAll (s : Surroundings) (depth : Nat) (g : Graph) (effects : List Effect) (r : Run) :
    let fired := Walk.fireAll (fire s (s.settings.maxFanoutDepth - depth) depth g) effects r
    Fires s depth g effects r fired.1 fired.2 :=
  fires_of_conducts (fun entries seed r _ => conducts_walkAll s (depth + 1) seed entries r) effects r

theorem walk_of_course {s : Surroundings} {depth : Nat} {g : Graph} {entry : String} {outputs : Outputs} {r : Run}
    {stops : List Stop} {e : Ending}
    (fires : ∀ effects r reports r', Fires s depth g effects r reports r' →
      Walk.fireAll (fire s (s.settings.maxFanoutDepth - depth) depth g) effects r = (reports, r'))
    (c : Walk.Course s (Fires s) 0 [([], ⟨entry, Port.exec, []⟩)] { outputs := outputs, run := r } depth g stops e) :
    s.walk depth g entry outputs r = Walk.conclude s g entry e := by
  have ending := c.finish_eq fires
  rw [List.map_singleton] at ending
  simp only [Surroundings.walk, Walk.conduct, ending, Walk.conclude]

theorem walkAll_of_conducts {s : Surroundings} {depth : Nat} {seed : Entry → Outputs} {entries : List Entry}
    {r r' : Run} {walks : List WalkReport}
    (fires : ∀ g effects r reports r', Fires s depth g effects r reports r' →
      Walk.fireAll (fire s (s.settings.maxFanoutDepth - depth) depth g) effects r = (reports, r'))
    (c : Conducts s (Fires s) entries r depth seed walks r') :
    walkAll (s.conduct depth) seed entries r = (walks, r') := by
  induction c with
  | nil => rfl
  | cons walk next ih =>
    simp only [walkAll, Surroundings.conduct, walk_of_course (fires _) walk]
    exact congrArg (fun p : List WalkReport × Run => (_ :: p.1, p.2)) (ih fires)

theorem fireAll_of_fires {s : Surroundings} {depth : Nat} {g : Graph}
    (walks : ∀ entries r seed walks r', depth + 1 ≤ s.settings.maxFanoutDepth →
      Conducts s (Fires s) entries r (depth + 1) seed walks r' →
        walkAll (s.conduct (depth + 1)) seed entries r = (walks, r'))
    {effects : List Effect} {r r' : Run} {reports : List WalkReport} (f : Fires s depth g effects r reports r') :
    Walk.fireAll (fire s (s.settings.maxFanoutDepth - depth) depth g) effects r = (reports, r') := by
  induction effects generalizing r reports with
  | nil =>
    cases f
    rfl
  | cons effect rest ih =>
    cases f with
    | dropped limit next => simp [Walk.fireAll, fire_eq, Nat.not_le.2 limit, ih next]
    | walked limit here next => simp [Walk.fireAll, fire_eq, limit, walks _ _ _ _ _ limit here, ih next]

theorem Fires.fireAll_eq {s : Surroundings} (depth : Nat) :
    ∀ g effects r reports r', Fires s depth g effects r reports r' →
      Walk.fireAll (fire s (s.settings.maxFanoutDepth - depth) depth g) effects r = (reports, r') := by
  induction depth using depth_induction (D := s.settings.maxFanoutDepth) with
  | step depth deeper =>
    intro g effects r reports r' f
    exact fireAll_of_fires (fun _ _ _ _ _ limit c => walkAll_of_conducts (deeper limit) c) f

end Fanout

namespace Surroundings

def Tour (s : Surroundings) (depth : Nat) (g : Graph) (entry : String) (outputs : Outputs) (r : Run)
    (stops : List Stop) (e : Ending) : Prop :=
  Walk.Course s (Fanout.Fires s) 0 [([], ⟨entry, Port.exec, []⟩)] { outputs := outputs, run := r } depth g stops e

variable (s : Surroundings) (depth : Nat) (g : Graph) (entry : String) (outputs : Outputs) (r : Run)

theorem exists_tour : ∃ stops e, s.Tour depth g entry outputs r stops e ∧
    s.walk depth g entry outputs r = Walk.conclude s g entry e := by
  obtain ⟨stops, course⟩ := Walk.exists_course (Fanout.fires_fireAll s depth g) 0
    [([], ⟨entry, Port.exec, []⟩)] { outputs := outputs, run := r }
  exact ⟨stops, _, course, rfl⟩

theorem walk_of_tour {stops : List Stop} {e : Ending} (h : s.Tour depth g entry outputs r stops e) :
    s.walk depth g entry outputs r = Walk.conclude s g entry e :=
  Fanout.walk_of_course (Fanout.Fires.fireAll_eq depth g) h

/-- A node that is run alone, and asks for nothing, leaves the run as its handler does. -/
theorem single_plain {s : Surroundings} {n : Node} {h : Handler} {values : Table String Value} {port : String}
    (r : Run) (handler : s.registry.handlerFor n = some h) (room : 0 < s.settings.maxWalkSteps)
    (result : (h (Walk.call s (Graph.single n) 0 n ⟨n.id, Port.exec, []⟩ { run := r })).result =
      .ok { values, next := .goOn port }) :
    (s.single n r).2 = r.absorb (h (Walk.call s (Graph.single n) 0 n ⟨n.id, Port.exec, []⟩ { run := r })) := by
  have found : (Graph.single n).node? n.id = some n := by
    simp [Graph.node?, Graph.single, Text.sameName_refl]
  have tour : s.Tour 0 (Graph.single n) n.id .empty r _ _ :=
    .went found List.not_mem_nil room handler result .nil rfl .done
  rw [single, conduct, walk_of_tour s 0 _ _ _ _ tour]
  rfl

end Surroundings

end StoryGraph
