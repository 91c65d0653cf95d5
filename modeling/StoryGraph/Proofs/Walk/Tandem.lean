import StoryGraph.Proofs.Graph.Likeness
import StoryGraph.Proofs.Handler.Reading
import StoryGraph.Proofs.Walk.Requests
import StoryGraph.Proofs.Walk.Unfailing

/-!
Two engines side by side, over graphs that are written alike, on runs that are related. The limits of the second
are no lower and its walks lie no deeper, and where it has more room the first does not come to its own limits. Main
statement: if the relation is kept by all that can happen to both runs at once, the walks of the two make the same
reports and leave related runs.
-/

namespace StoryGraph

/-- What happens to two related runs at once leaves them related: the answer of a built-in handler, a pause, and word
of a fault. -/
structure Tandem (s s' : Surroundings) (R : Run → Run → Prop) : Prop where
  registry : s'.registry = s.registry
  timer : s'.timer = s.timer
  draws : s'.draws = s.draws
  library : s.library.Alike s'.library
  steps : s.settings.maxWalkSteps ≤ s'.settings.maxWalkSteps
  levels : s.settings.maxFanoutDepth ≤ s'.settings.maxFanoutDepth
  world : ∀ {r r'}, R r r' → r'.world = r.world
  drawn : ∀ {r r'}, R r r' → r'.drawn = r.drawn
  absorb : ∀ {r r'}, R r r' → ∀ t c, R (r.absorb (builtin t c)) (r'.absorb (builtin t c))
  pause : ∀ {r r'}, R r r' → ∀ millis,
    (r'.pause s' millis).1 = (r.pause s millis).1 ∧ R (r.pause s millis).2 (r'.pause s' millis).2
  told : ∀ {r r'}, R r r' → ∀ text, R (r.diagnose s.settings text) (r'.diagnose s'.settings text)

structure Matched (R : Run → Run → Prop) {α : Type} (x x' : α × Run) : Prop where
  result : x'.1 = x.1
  run : R x.2 x'.2

/-- The same visit, but for the case in which its node is written, and by whatever port. -/
structure Visit.Alike (v v' : Visit) : Prop where
  node : Text.fold v'.node = Text.fold v.node
  trail : v'.trail = v.trail

structure Walk.Alike (R : Run → Run → Prop) (w w' : Walk) : Prop where
  outputs : w'.outputs = w.outputs
  nested : w'.nested = w.nested
  run : R w.run w'.run

structure Ending.Alike (R : Run → Run → Prop) (e e' : Ending) : Prop where
  fault : e'.fault = e.fault
  steps : e'.steps = e.steps
  walk : e.walk.Alike R e'.walk

/-- The same occasion, but for the case in which the owner and the tag are written. -/
inductive Occasion.Alike : Occasion → Occasion → Prop where
  | event {type type' id id' tag tag'} (sameType : Text.fold type' = Text.fold type)
      (sameId : Text.fold id' = Text.fold id) (sameTag : Text.fold tag' = Text.fold tag) :
      Alike (event type id tag) (event type' id' tag')
  | broadcast {tag tag'} (sameTag : Text.fold tag' = Text.fold tag) : Alike (broadcast tag) (broadcast tag')
  | change (c : Change) : Alike (change c) (change c)

structure Departure.Alike (R : Run → Run → Prop) (d d' : Departure) : Prop where
  graph : d.graph.Alike d'.graph
  entry : d'.entry = d.entry
  outputs : d'.outputs = d.outputs
  run : R d.run d'.run

theorem Fanout.announce_alike (c : Change) {e e' : Entry} (same : e.Alike e') : announce c e' = announce c e := by
  simp only [announce, same.node]

namespace Occasion.Alike

variable {o o' : Occasion}

theorem refl : ∀ o : Occasion, o.Alike o
  | .event _ _ _ => .event rfl rfl rfl
  | .broadcast _ => .broadcast rfl
  | .change c => .change c

theorem seed (h : o.Alike o') (e e' : Entry) (same : e.Alike e') : o'.seed e' = o.seed e := by
  cases h with
  | event | broadcast => rfl
  | change c => exact Fanout.announce_alike c same

theorem entries (h : o.Alike o') {l l' : Library} (library : l.Alike l') :
    List.Forall₂ Entry.Alike (o.entries l) (o'.entries l') := by
  cases h with
  | event sameType sameId sameTag => exact library.entriesFor sameType sameId sameTag
  | broadcast sameTag => exact library.entriesForAnyOwner sameTag
  | change c => exact library.listeners c

end Occasion.Alike

variable {s s' : Surroundings} {R : Run → Run → Prop}

namespace Walk

variable {fire fire' : Fire} {g g' : Graph} {depth : Nat}

theorem follow_alike (alike : g.Alike g') (node : String) (trail ports : List String) :
    List.Forall₂ Visit.Alike (follow g node trail ports) (follow g' node trail ports) := by
  refine List.rel_filterMap (R := Eq) (fun port port' same => ?_) (List.forall₂_eq_eq_eq ▸ rfl)
  subst same
  exact rel_map (fun c c' connection => ⟨connection.toNode, rfl⟩) (alike.connectionFrom? node port)

/-- Where a node goes on, it goes on in both walks. -/
theorem after_ok_alike (tandem : Tandem s s' R) (alike : g.Alike g') {node : String} {trail : List String}
    {next : Next} {r r' later : Run} {visits : List Visit} (related : R r r')
    (ways : after s g node trail next r = (.ok visits, later)) :
    ∃ visits' later', after s' g' node trail next r' = (.ok visits', later') ∧
      List.Forall₂ Visit.Alike visits visits' ∧ R later later' := by
  have same := follow_alike alike node trail
  cases next with
  | goOn port | fork ports =>
    cases ways
    exact ⟨_, _, rfl, same _, related⟩
  | stop =>
    cases ways
    exact ⟨_, _, rfl, .nil, related⟩
  | fail message => cases ways
  | wait pause =>
    obtain ⟨fault, after⟩ := tandem.pause related (s.timer pause.nanos)
    simp only [Walk.after, tandem.timer] at ways ⊢
    split at ways
    case h_1 => cases ways
    case h_2 here =>
      cases ways
      rw [here] at fault after
      rw [← Prod.eta (Run.pause s' _ r'), fault]
      exact ⟨_, _, rfl, same _, after⟩

/-- Where a node ends the walk, it ends both for the same fault. -/
theorem after_error_alike (tandem : Tandem s s' R) (g g' : Graph) {node : String} {trail : List String}
    {next : Next} {r r' later : Run} {fault : Fault} (related : R r r')
    (ways : after s g node trail next r = (.error fault, later)) :
    ∃ later', after s' g' node trail next r' = (.error fault, later') ∧ R later later' := by
  cases next with
  | goOn port | fork ports | stop => cases ways
  | fail message =>
    cases ways
    exact ⟨_, rfl, related⟩
  | wait pause =>
    obtain ⟨same, after⟩ := tandem.pause related (s.timer pause.nanos)
    simp only [Walk.after, tandem.timer] at ways ⊢
    split at ways
    case h_1 here =>
      cases ways
      rw [here] at same after
      rw [← Prod.eta (Run.pause s' _ r'), same]
      exact ⟨_, rfl, after⟩
    case h_2 => cases ways

theorem fireAll_alike {effects : List Effect} {r r' : Run} (related : R r r')
    (fires : ∀ q ∈ asked fire effects r, ∀ r', R q.run r' →
      Matched R (fire q.effect q.run) (fire' q.effect r')) :
    Matched R (fireAll fire effects r) (fireAll fire' effects r') := by
  induction effects generalizing r r' with
  | nil => exact ⟨rfl, related⟩
  | cons effect rest ih =>
    have here := fires ⟨effect, r⟩ List.mem_cons_self r' related
    have later := ih here.run fun q mem => fires q (List.mem_cons_of_mem _ mem)
    simp only [fireAll]
    exact ⟨by rw [here.result, later.result], later.run⟩

theorem firing_alike {asks : List Effect} {reports : List WalkReport} {r r' later : Run} (related : R r r')
    (fires : ∀ q ∈ asked fire asks r, ∀ r', R q.run r' → Matched R (fire q.effect q.run) (fire' q.effect r'))
    (effects : fireAll fire asks r = (reports, later)) :
    ∃ later', fireAll fire' asks r' = (reports, later') ∧ R later later' := by
  have fired := fireAll_alike related fires
  rw [effects] at fired
  exact ⟨(fireAll fire' asks r').2, Prod.ext fired.result rfl, fired.run⟩

theorem call_alike (tandem : Tandem s s' R) (alike : g.Alike g') (depth depth' : Nat) {n n' : Node}
    (node : n.Alike n') (v v' : Visit) {w w' : Walk} (walks : w.Alike R w') :
    (w.call s g depth n v).Alike (w'.call s' g' depth' n' v') where
  id := node.id
  properties := node.properties
  graphId := alike.id
  outputs := walks.outputs
  world := tandem.world walks.run
  draws := by rw [call, call, tandem.draws, tandem.drawn walks.run]

theorem served_alike {n n' : Node} (id : n'.id = n.id) (v v' : Visit) (out : Output) (reports : List WalkReport)
    {r r' : Run} (related : R r r') {w w' : Walk} (walks : w.Alike R w') :
    (w.served n v out reports r).Alike R (w'.served n' v' out reports r') where
  outputs := by rw [served, served, id, walks.outputs]
  nested := congrArg (· ++ reports) walks.nested
  run := related

theorem answer_alike (tandem : Tandem s s' R) (builtins : s.registry.IsBuiltin) (alike : g.Alike g')
    (depth depth' : Nat) {n n' : Node} (node : n.Alike n') (v v' : Visit) {w w' : Walk} (walks : w.Alike R w')
    {h : Handler} (handler : s.registry.handlerFor n = some h) :
    s'.registry.handlerFor n' = some h ∧
      h (w'.call s' g' depth' n' v') = h (w.call s g depth n v) ∧
      R (w.run.absorb (h (w.call s g depth n v))) (w'.run.absorb (h (w'.call s' g' depth' n' v'))) := by
  obtain ⟨t, -, -, rfl⟩ := builtins.of_handlerFor handler
  have answer := builtin_alike t (call_alike tandem alike depth depth' node v v' walks)
  refine ⟨?_, answer, ?_⟩
  · rw [Registry.handlerFor, node.kind?, tandem.registry]
    exact handler
  · rw [answer]
    exact tandem.absorb walks.run t _

theorem found_alike (alike : g.Alike g') {v v' : Visit} (visit : v.Alike v') {n : Node}
    (found : g.node? v.node = some n) :
    ∃ n', g'.node? v'.node = some n' ∧ n.Alike n' ∧ (Text.fold n'.id ∈ v'.trail ↔ Text.fold n.id ∈ v.trail) := by
  obtain ⟨n', found', node⟩ := alike.node?_some visit.node found
  exact ⟨n', found', node, by rw [node.id, visit.trail]⟩

theorem extend_alike (chain chain' : List Node) (n n' : Node) {visits visits' : List Visit}
    {rest rest' : List (List Node × Visit)} (same : List.Forall₂ Visit.Alike visits visits')
    (later : List.Forall₂ (fun p p' => p.2.Alike p'.2) rest rest') :
    List.Forall₂ (fun p p' => p.2.Alike p'.2) (extend chain n visits ++ rest) (extend chain' n' visits' ++ rest') := by
  refine List.rel_append ?_ later
  rw [extend, extend, List.forall₂_map_left_iff, List.forall₂_map_right_iff]
  exact same

/-- A course that the first walk takes the second takes too. -/
theorem Course.alike (tandem : Tandem s s' R) (builtins : s.registry.IsBuiltin) (alike : g.Alike g')
    {steps depth' : Nat} {pending pending' : List (List Node × Visit)} {w w' : Walk} {stops : List Stop} {e : Ending}
    (c : Course s (Firing.of fire) steps pending w depth g stops e)
    (fires : ∀ q ∈ requests s s.registry.handlerFor fire g depth steps (pending.map Prod.snd) w, ∀ r',
      R q.run r' → Matched R (fire q.effect q.run) (fire' q.effect r'))
    (spare : s'.settings.maxWalkSteps = s.settings.maxWalkSteps ∨ ∀ limit, e.fault ≠ some (.stepLimit limit))
    (paired : List.Forall₂ (fun p p' => p.2.Alike p'.2) pending pending') (walks : w.Alike R w') :
    ∃ stops' e', Course s' (Firing.of fire') steps pending' w' depth' g' stops' e' ∧ e.Alike R e' := by
  induction c generalizing pending' w' with
  | done =>
    cases paired
    exact ⟨_, _, .done, rfl, rfl, walks⟩
  | missing found _ ih =>
    obtain ⟨⟨chain', v'⟩, rest', visit, rest, rfl⟩ := List.forall₂_cons_left_iff.1 paired
    rw [List.map_cons, requests_missing found] at fires
    obtain ⟨stops', e', later, same⟩ := ih alike fires spare rest walks
    exact ⟨_, e', .missing (alike.node?_none visit.node found) later, same⟩
  | cycle found trail =>
    obtain ⟨⟨chain', v'⟩, rest', visit, rest, rfl⟩ := List.forall₂_cons_left_iff.1 paired
    obtain ⟨n', found', node, met⟩ := found_alike alike visit found
    exact ⟨_, _, .cycle found' (met.2 trail), by rw [node.id], rfl, walks⟩
  | spent found trail limit =>
    obtain ⟨⟨chain', v'⟩, rest', visit, rest, rfl⟩ := List.forall₂_cons_left_iff.1 paired
    obtain ⟨n', found', node, met⟩ := found_alike alike visit found
    have trail' := mt met.1 trail
    -- Nowhere else does the second walk look at its limit, unless to find that it has more steps.
    have equal : s'.settings.maxWalkSteps = s.settings.maxWalkSteps :=
      spare.resolve_right fun never => never _ rfl
    exact ⟨_, _, .spent found' trail' (equal ▸ limit), by rw [equal], rfl, walks⟩
  | bare found trail limit handler _ ih =>
    obtain ⟨⟨chain', v'⟩, rest', visit, rest, rfl⟩ := List.forall₂_cons_left_iff.1 paired
    obtain ⟨n', found', node, met⟩ := found_alike alike visit found
    have trail' := mt met.1 trail
    have handler' : s'.registry.handlerFor n' = none := by
      rwa [Registry.handlerFor, node.kind?, tandem.registry]
    rw [List.map_cons, requests_bare found trail limit handler] at fires
    obtain ⟨stops', e', later, same⟩ := ih alike fires spare rest walks
    exact ⟨_, e', .bare found' trail' (limit.trans_le tandem.steps) handler' later, same⟩
  | broke found trail limit handler result =>
    obtain ⟨t, -, -, rfl⟩ := builtins.of_handlerFor handler
    obtain ⟨out, answer, -⟩ := builtin_fits t _
    rw [answer] at result
    cases result
  | @halted _ chain v _ w depth _ n h out reports r fault r₁ found trail limit handler result effects ways =>
    obtain ⟨⟨chain', v'⟩, rest', visit, rest, rfl⟩ := List.forall₂_cons_left_iff.1 paired
    obtain ⟨n', found', node, met⟩ := found_alike alike visit found
    have trail' := mt met.1 trail
    obtain ⟨handler', answer, absorbed⟩ := answer_alike tandem builtins alike depth depth' node v v' walks handler
    rw [List.map_cons, requests_halted found trail limit handler result effects ways] at fires
    obtain ⟨later', effects', gone⟩ := firing_alike absorbed fires effects
    obtain ⟨r₁', ways', related⟩ := after_error_alike tandem _ g' gone ways
    rw [← node.id, ← visit.trail] at ways'
    exact ⟨_, _, .halted found' trail' (limit.trans_le tandem.steps) handler' (answer ▸ result) effects' ways', rfl,
      rfl, served_alike node.id v v' out reports related walks⟩
  | @went _ chain v _ w depth _ n h out reports r visits r₁ _ _ found trail limit handler result effects ways _ ih =>
    obtain ⟨⟨chain', v'⟩, rest', visit, rest, rfl⟩ := List.forall₂_cons_left_iff.1 paired
    obtain ⟨n', found', node, met⟩ := found_alike alike visit found
    have trail' := mt met.1 trail
    obtain ⟨handler', answer, absorbed⟩ := answer_alike tandem builtins alike depth depth' node v v' walks handler
    rw [List.map_cons, requests_went found trail limit handler result effects ways] at fires
    obtain ⟨later', effects', gone⟩ := firing_alike absorbed
      (fun q mem => fires q (List.mem_append_left _ mem)) effects
    obtain ⟨visits', r₁', ways', following, related⟩ := after_ok_alike tandem alike gone ways
    rw [← node.id, ← visit.trail] at ways'
    rw [← map_snd_extend chain n visits, ← List.map_append] at fires
    obtain ⟨stops', e', later, same⟩ := ih alike (fun q mem => fires q (List.mem_append_right _ mem)) spare
      (extend_alike chain chain' n n' following rest) (served_alike node.id v v' out reports related walks)
    exact ⟨_, e', .went found' trail' (limit.trans_le tandem.steps) handler' (answer ▸ result) effects' ways' later,
      same⟩

theorem conclude_alike (tandem : Tandem s s' R) (alike : g.Alike g') (entry : String) {e e' : Ending}
    (same : e.Alike R e') :
    Matched R ((conclude s g entry e).1, (conclude s g entry e).2.run)
      ((conclude s' g' entry e').1, (conclude s' g' entry e').2.run) := by
  constructor
  case result => simp only [conclude, alike.id, same.fault, same.steps, same.walk.nested]
  case run =>
    simp only [conclude, diagnose, same.fault, alike.id]
    split
    · exact same.walk.run
    · exact same.walk.run
    · exact tandem.told same.walk.run _

end Walk

namespace Surroundings

/-- Either the two engines have the same room for this walk, or the first does not come to its limits. -/
structure Spares (s s' : Surroundings) (depth depth' : Nat) (d : Departure) : Prop where
  steps : s'.settings.maxWalkSteps = s.settings.maxWalkSteps ∨ ∀ x ∈ (s.arrive depth d).1.all,
    x.status ≠ .aborted (Fault.stepLimit s.settings.maxWalkSteps).message
  levels : (s'.settings.maxFanoutDepth, depth') = (s.settings.maxFanoutDepth, depth) ∨ s.dropped depth d = []

/-- What a walk is spared the walks within it are spared. -/
theorem Spares.below {depth depth' : Nat} {d below : Departure} {q : Request} (h : s.Spares s' depth depth' d)
    (limit : depth + 1 ≤ s.settings.maxFanoutDepth) (asked : q ∈ s.requests depth d)
    (started : below ∈ s.started (depth + 1) q) : s.Spares s' (depth + 1) (depth' + 1) below where
  steps := by
    refine h.steps.imp_right fun spared x hx => spared x ?_
    have within : (s.arrive (depth + 1) below).1 ∈ (s.arrive depth d).1.nested := by
      rw [nested_arrive, List.mem_flatMap]
      refine ⟨q, asked, ?_⟩
      rw [s.fire_started limit]
      exact List.mem_map_of_mem started
    exact WalkReport.mem_all_of_nested within hx
  levels := by
    refine h.levels.imp (congrArg (Prod.map id Nat.succ)) fun spared => List.eq_nil_iff_forall_not_mem.2 fun x hx => ?_
    have member : x ∈ s.dropped depth d := by
      rw [dropped_eq, List.mem_flatMap]
      refine ⟨q, asked, ?_⟩
      rw [lost, if_pos limit]
      exact List.mem_flatMap.2 ⟨below, started, hx⟩
    rw [spared] at member
    exact List.not_mem_nil member

theorem departures_alike {depth depth' : Nat} {seed seed' : Entry → Outputs}
    (seeds : ∀ e e', e.Alike e' → seed' e' = seed e) {entries entries' : List Entry}
    (same : List.Forall₂ Entry.Alike entries entries') {r r' : Run} (related : R r r')
    (walks : ∀ d ∈ s.departures depth seed entries r, ∀ d', d.Alike R d' →
      Matched R (s.arrive depth d) (s'.arrive depth' d')) :
    Matched R (Fanout.walkAll (s.conduct depth) seed entries r)
      (Fanout.walkAll (s'.conduct depth') seed' entries' r') := by
  induction same generalizing r r' with
  | nil => exact ⟨rfl, related⟩
  | @cons e e' rest rest' head tail ih =>
    have here := walks _ List.mem_cons_self ⟨e'.graph, e'.node, seed' e', r'⟩
      ⟨head.graph, head.node, seeds e e' head, related⟩
    have later := ih here.run fun d mem => walks d (List.mem_cons_of_mem _ mem)
    simp only [Fanout.walkAll]
    exact ⟨congrArg₂ List.cons here.result later.result, later.run⟩

end Surroundings

theorem Fanout.seed_alike (effect : Effect) (e e' : Entry) (same : e.Alike e') : seed effect e' = seed effect e := by
  cases effect with
  | changed c => exact announce_alike c same
  | trigger => rfl

theorem Fanout.entries_alike {l l' : Library} (same : l.Alike l') (effect : Effect) :
    List.Forall₂ Entry.Alike (entries l effect) (entries l' effect) := by
  cases effect with
  | changed c => exact same.listeners c
  | trigger ownerType ownerId tag => exact same.entriesFor rfl rfl rfl

namespace Surroundings

theorem fire_alike (tandem : Tandem s s' R) {depth depth' : Nat} (above : depth' ≤ depth) {d d' : Departure}
    (alike : d.Alike R d') (spares : s.Spares s' depth depth' d)
    (deeper : depth + 1 ≤ s.settings.maxFanoutDepth → ∀ below below', below.Alike R below' →
      s.Spares s' (depth + 1) (depth' + 1) below →
        Matched R (s.arrive (depth + 1) below) (s'.arrive (depth' + 1) below'))
    {q : Request} (asked : q ∈ s.requests depth d) {r' : Run} (related : R q.run r') :
    Matched R (Fanout.fire s (s.settings.maxFanoutDepth - depth) depth d.graph q.effect q.run)
      (Fanout.fire s' (s'.settings.maxFanoutDepth - depth') depth' d'.graph q.effect r') := by
  rw [Fanout.fire_eq, Fanout.fire_eq]
  by_cases limit : depth + 1 ≤ s.settings.maxFanoutDepth
  · -- Both engines start walks, and none of them is spared less than the walk that asked for them.
    rw [if_pos limit, if_pos ((Nat.succ_le_succ above).trans (limit.trans tandem.levels))]
    refine departures_alike (Fanout.seed_alike q.effect) (Fanout.entries_alike tandem.library q.effect) related ?_
    exact fun below started below' same => deeper limit below below' same (spares.below limit asked started)
  · -- The first engine drops the effect, so the second has no level more.
    have same : (s'.settings.maxFanoutDepth, depth') = (s.settings.maxFanoutDepth, depth) := by
      refine spares.levels.resolve_right fun none => ?_
      have dropped : ⟨d.graph.id, depth + 1, q.effect⟩ ∈ s.dropped depth d := by
        rw [dropped_eq, List.mem_flatMap]
        refine ⟨q, asked, ?_⟩
        rw [lost, if_neg limit]
        exact List.mem_singleton.2 rfl
      rw [none] at dropped
      exact List.not_mem_nil dropped
    obtain ⟨equal, rfl⟩ := Prod.mk.inj same
    rw [if_neg limit, if_neg (equal ▸ limit)]
    refine ⟨rfl, ?_⟩
    rw [Fanout.drop, Fanout.drop, alike.graph.id, equal]
    exact tandem.told related _

theorem arrive_alike (tandem : Tandem s s' R) (builtins : s.registry.IsBuiltin) (depth : Nat) :
    ∀ depth' ≤ depth, ∀ d d' : Departure, d.Alike R d' → s.Spares s' depth depth' d →
      Matched R (s.arrive depth d) (s'.arrive depth' d') := by
  induction depth using Fanout.depth_induction (D := s.settings.maxFanoutDepth) with
  | step depth deeper =>
    intro depth' above d d' alike spares
    obtain ⟨stops, e, course, arrived⟩ := s.exists_course depth d
    -- Whether the walk ran out of steps can be read off its own report.
    have report : (s.arrive depth d).1.status = Status.of e.fault := by rw [arrived, Walk.conclude, WalkReport.status]
    have spare : s'.settings.maxWalkSteps = s.settings.maxWalkSteps ∨ ∀ limit, e.fault ≠ some (.stepLimit limit) := by
      refine spares.steps.imp_right fun spared limit spent => spared _ (WalkReport.mem_all_self _) ?_
      rw [report, spent, (course.steps_le (Nat.zero_le _)).2.2 limit spent, Status.of]
    have setOut : Walk.Alike R { outputs := d.outputs, run := d.run } { outputs := d'.outputs, run := d'.run } :=
      ⟨alike.outputs, rfl, alike.run⟩
    obtain ⟨stops', e', course', same⟩ := course.alike tandem builtins alike.graph
      (fun q asked r' related => fire_alike tandem above alike spares
        (fun limit => deeper limit (depth' + 1) (Nat.succ_le_succ above)) asked related) spare
      (.cons ⟨rfl, rfl⟩ .nil) setOut
    rw [← alike.entry] at course'
    rw [arrived, s'.arrive_of_course course', alike.entry]
    exact Walk.conclude_alike tandem alike.graph d.entry same

/-- On one occasion both engines make the same reports and leave related runs, also where the second starts its
walks less deep. -/
theorem start_alike_above (tandem : Tandem s s' R) (builtins : s.registry.IsBuiltin) {depth depth' : Nat}
    (above : depth' ≤ depth) {o o' : Occasion} (occasion : o.Alike o') {r r' : Run} (related : R r r')
    (spares : ∀ d ∈ s.setOut depth o r, s.Spares s' depth depth' d) :
    Matched R (s.start depth o r) (s'.start depth' o' r') := by
  rw [start_eq, start_eq]
  exact departures_alike occasion.seed (occasion.entries tandem.library) related fun d mem d' alike =>
    arrive_alike tandem builtins depth depth' above d d' alike (spares d mem)

theorem start_alike (tandem : Tandem s s' R) (builtins : s.registry.IsBuiltin) (depth : Nat) {o o' : Occasion}
    (occasion : o.Alike o') {r r' : Run} (related : R r r')
    (spares : ∀ d ∈ s.setOut depth o r, s.Spares s' depth depth d) :
    Matched R (s.start depth o r) (s'.start depth o' r') :=
  start_alike_above tandem builtins (Nat.le_refl depth) occasion related spares

end Surroundings

end StoryGraph
