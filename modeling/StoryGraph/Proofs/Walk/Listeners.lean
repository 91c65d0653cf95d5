import StoryGraph.Proofs.Engine.Parity
import StoryGraph.Proofs.Graph.Entry
import StoryGraph.Proofs.Property.Told
import StoryGraph.Proofs.Walk.Outputs

/-!
What follows from the write of a property. Main statements: if the property has another value afterwards, each graph
in which a node waits for this change is walked once, from the first such node, in the order of the library, and else
none is; a walk that has written goes on once these walks are over; and each of them finds what has changed, under its
own entry, wherever it comes to.
-/

namespace StoryGraph

theorem Library.listeners_cons (g : Graph) (rest : Library) (c : Change) :
    listeners (g :: rest) c =
      match g.listener? c with
      | none => listeners rest c
      | some n => ⟨g, n.id⟩ :: listeners rest c := by
  rw [listeners, List.filterMap_cons, ← Graph.listener?]
  cases g.listener? c <;> rfl

namespace Surroundings

/-- Graphs are told of a change, one after the other, each on what the one before it has left. -/
inductive Informs (s : Surroundings) (depth : Nat) (c : Change) :
    List Graph → Run → List WalkReport → Run → Prop where
  | nil {r} : Informs s depth c [] r [] r
  | deaf {g rest r walks r'} (none : ∀ n ∈ g.nodes, ¬ n.ListensFor c) (next : Informs s depth c rest r walks r') :
      Informs s depth c (g :: rest) r walks r'
  | heard {g before n rest r later r'} (first : g.First (Node.ListensFor c) before n)
      (next : Informs s depth c rest (s.walk depth g n.id (Fanout.announce c ⟨g, n.id⟩) r).2.run later r') :
      Informs s depth c (g :: rest) r ((s.walk depth g n.id (Fanout.announce c ⟨g, n.id⟩) r).1 :: later) r'

/-- There are as many walks as graphs that wait for the change. -/
theorem Informs.length_eq {s : Surroundings} {depth : Nat} {c : Change} {graphs : List Graph} {r r' : Run}
    {walks : List WalkReport} (h : s.Informs depth c graphs r walks r') :
    walks.length = graphs.countP fun g => (g.listener? c).isSome := by
  induction h with
  | nil => rfl
  | deaf none _ ih => rw [ih, List.countP_cons, Graph.listener?_eq_none_iff.2 none]; rfl
  | heard first _ ih => rw [List.length_cons, ih, List.countP_cons, Graph.listener?_eq_some_iff.2 ⟨_, first⟩]; rfl

/-- What follows at some depth when a value is written to a property: the walks, and the run after them. -/
inductive FansOut (s : Surroundings) (depth : Nat) (t : EntityType) (id property : String) (v : Value) (r : Run) :
    List WalkReport → Run → Prop where
  | unmet (before : r.world.getProperty? t id property = none) : FansOut s depth t id property v r [] r
  | same {w old new} (written : w = (r.world.writeProperty t id property v).1)
      (before : r.world.getProperty? t id property = some old) (after : w.getProperty? t id property = some new)
      (equal : old.same new = true) : FansOut s depth t id property v r [] { r with world := w }
  | other {w old new name walks r'} (written : w = (r.world.writeProperty t id property v).1)
      (before : r.world.getProperty? t id property = some old) (after : w.getProperty? t id property = some new)
      (differs : old.same new = false) (named : t.canonicalProperty? property = some name)
      (informs : s.Informs depth ⟨t, w.canonicalId t id, name, old, new⟩ s.library { r with world := w } walks r') :
      FansOut s depth t id property v r walks r'

variable (s : Surroundings)

theorem informs_walkAll (depth : Nat) (c : Change) (l : Library) (r : Run) :
    let walked := Fanout.walkAll (s.conduct depth) (Fanout.announce c) (l.listeners c) r
    s.Informs depth c l r walked.1 walked.2 := by
  induction l generalizing r with
  | nil => exact .nil
  | cons g rest ih =>
    rw [Library.listeners_cons]
    cases found : g.listener? c with
    | none => exact .deaf (Graph.listener?_eq_none_iff.1 found) (ih r)
    | some n =>
      obtain ⟨before, first⟩ := Graph.listener?_eq_some_iff.1 found
      exact .heard first (ih _)

/-- The walks that are due after a write, at some depth. -/
def react (depth : Nat) (outcome : Outcome) (r : Run) : List WalkReport × Run :=
  match outcome with
  | .changed c => s.announce depth c r
  | .unmatched | .unchanged => ([], r)

theorem fansOut_react (depth : Nat) {t : EntityType} {id property : String} {v : Value} {r : Run} {w : World}
    {outcome : Outcome} (written : r.world.writeProperty t id property v = (w, outcome)) :
    s.FansOut depth t id property v r (s.react depth outcome { r with world := w }).1
      (s.react depth outcome { r with world := w }).2 := by
  have world : w = (r.world.writeProperty t id property v).1 := by rw [written]
  obtain ⟨unwritten, unmet⟩ | ⟨e, p, found, listed, met⟩ := r.world.writeProperty_cases t id property v
  · cases unwritten.symm.trans written
    refine .unmet ?_
    rw [World.getProperty?_eq]
    cases unmet with
    | inl missing => rw [missing]; rfl
    | inr unlisted => cases r.world.entity? t id <;> simp [unlisted]
  · have before := World.getProperty?_of_found found listed
    have after : (r.world.modifyEntity t id (p.set v)).getProperty? t id property = some (p.get (p.set v e)) := by
      have keeps := EntityType.key_set (Property.find?_eq_some listed).1 v
      refine World.getProperty?_of_found ?_ listed
      rw [World.entity?_modifyEntity keeps (World.sameEntity_refl t id), found, Option.map_some]
    have name : t.canonicalProperty? property = some p.name := by
      rw [EntityType.canonicalProperty?_eq, listed, Option.map_some]
    obtain ⟨unchanged, equal⟩ | ⟨changed, differs⟩ := met
    · cases unchanged.symm.trans written
      exact .same world before after equal
    · cases changed.symm.trans written
      exact .other world before after differs name (s.informs_walkAll depth _ s.library _)

/-! Hosts. -/

/-- The walks that a host is told of. -/
def updateWalks : Except EngineError PropertyUpdate → List WalkReport
  | .ok update => update.walks
  | .error _ => []

theorem setProperty_fansOut {type : String} {t : EntityType} (known : EntityType.ofName? type = some t)
    (id property : String) (v : Value) (r : Run) :
    s.FansOut 0 t id property v r (updateWalks (s.setProperty type id property v r).1)
      (s.setProperty type id property v r).2 := by
  cases written : r.world.writeProperty t id property v with
  | mk w outcome =>
    have follows := s.fansOut_react 0 written
    simp only [setProperty, known, written]
    cases outcome with
    | unmatched =>
      cases World.writeProperty_unmatched written
      exact follows
    | unchanged | changed c => exact follows

end Surroundings

/-! Nodes. -/

theorem Act.setProperty_of_target {c : Call} {t : EntityType} {id property : String} {w : World} {outcome : Outcome}
    (target : c.target? = some (t, id, property))
    (written : c.world.writeProperty t id property (Bag.getValue c.node.properties "Value") = (w, outcome)) :
    setProperty c = { world := w, effects := outcome.effects } := by
  rw [setProperty, target]
  simp only [written]
  cases outcome <;> rfl

section

variable {t : ActionType} {c : Call} {w : World} {effects : List Effect} (act : Act.of t c = { world := w, effects })
include act

theorem Act.result_handle : (handle t c).result = .ok { next := .goOn Port.exec, effects } :=
  congrArg Response.result (congrArg response act)

theorem Act.absorb_handle (r : Run) : r.absorb (handle t c) = { r with world := w } := by
  have answer : handle t c = _ := congrArg response act
  rw [answer, Surroundings.absorb_response]

end

namespace Surroundings

variable (s : Surroundings)

theorem fireAll_effects {depth : Nat} (limit : depth + 1 ≤ s.settings.maxFanoutDepth) (g : Graph) (outcome : Outcome)
    (r : Run) :
    Walk.fireAll (Fanout.fire s (s.settings.maxFanoutDepth - depth) depth g) outcome.effects r =
      s.react (depth + 1) outcome r := by
  cases outcome with
  | unmatched | unchanged => rfl
  | changed c =>
    simp only [Outcome.effects, Walk.fireAll, Fanout.fire_eq, if_pos limit, List.append_nil]
    rfl

/-- At a place where the handler of a node is called, the walk goes on by one stop, at which some walks are over and
have left a run behind. -/
structure GoesOn (s : Surroundings) (depth : Nat) (g : Graph) (p : Walk.Place) (n : Node) (walks : List WalkReport)
    (r : Run) (stop : Stop) (q : Walk.Place) : Prop where
  called : stop.arrival = .ran n none
  passes : Walk.Passes s (Fanout.Fires s) depth g p [stop] q
  nested : q.walk.nested = p.walk.nested ++ walks
  run : q.walk.run = r
  onward : ∀ stops e, Walk.Course s (Fanout.Fires s) p.steps p.pending p.walk depth g stops e →
    ∃ later, stops = stop :: later ∧ Walk.Course s (Fanout.Fires s) q.steps q.pending q.walk depth g later e

section GoesOn

variable {s} {depth : Nat} (limit : depth + 1 ≤ s.settings.maxFanoutDepth) {g : Graph} {steps : Nat} {chain : List Node}
  {v : Visit} {rest : List (List Node × Visit)} {w : Walk} {n : Node} (found : g.node? v.node = some n)
  (trail : Text.fold n.id ∉ v.trail) (room : steps < s.settings.maxWalkSteps)
  (handler : s.registry.handlerFor n = some (Act.handle .setProperty))
include limit found trail room handler

/-- A node that has written goes on once what follows is over. -/
theorem goesOn_of_act {world : World} {outcome : Outcome}
    (act : Act.of .setProperty (w.call s g depth n v) = { world := world, effects := outcome.effects }) :
    let reaction := s.react (depth + 1) outcome { w.run with world := world }
    ∃ stop q, s.GoesOn depth g ⟨steps, (chain, v) :: rest, w⟩ n reaction.1 reaction.2 stop q := by
  have result := Act.result_handle act
  have absorbed : w.run.absorb (Act.handle .setProperty (w.call s g depth n v)) = { w.run with world := world } :=
    Act.absorb_handle act w.run
  have effects := Fanout.fires_fireAll s depth g outcome.effects { w.run with world := world }
  rw [s.fireAll_effects limit g outcome] at effects
  rw [← absorbed] at effects ⊢
  refine ⟨⟨chain, v, .ran n none⟩, _, rfl, .went found trail room handler result effects rfl .here, rfl, rfl,
    fun stops e course => ?_⟩
  exact course.of_answer (Fanout.fires_decided s depth g) found trail room handler result effects

end GoesOn

/-- What follows from a node that is to write: nothing, if it does not say what. -/
def NodeFansOut (depth : Nat) (c : Call) (r : Run) (walks : List WalkReport) (r' : Run) : Prop :=
  match c.target? with
  | none => walks = [] ∧ r' = r
  | some (t, id, property) =>
    s.FansOut depth t id property (Bag.getValue c.node.properties "Value") r walks r'

theorem setProperty_goesOn (registry : s.registry (.action .setProperty) = some (builtin (.action .setProperty)))
    {depth : Nat} (limit : depth + 1 ≤ s.settings.maxFanoutDepth) {g : Graph} {p : Walk.Place} {c : Call}
    (calls : Walk.Calls s depth g p c) (kind : c.node.kind? = some (.action .setProperty)) :
    ∃ walks r stop q, s.NodeFansOut (depth + 1) c p.walk.run walks r ∧ s.GoesOn depth g p c.node walks r stop q := by
  cases calls with
  | @mk steps chain v rest w n h found trail room handler =>
    have handled : h = Act.handle .setProperty := by
      rw [Registry.handlerFor, show n.kind? = _ from kind, Option.bind_some, registry] at handler
      exact (Option.some.inj handler).symm
    rw [handled] at handler
    cases target : (w.call s g depth n v).target? with
    | none =>
      have act : Act.setProperty (w.call s g depth n v) =
          { world := w.run.world, effects := Outcome.unchanged.effects } := by
        rw [Act.setProperty, target]
        rfl
      obtain ⟨stop, q, onward⟩ := goesOn_of_act limit found trail room handler act
      exact ⟨_, _, stop, q, by rw [NodeFansOut, target]; exact ⟨rfl, rfl⟩, onward⟩
    | some named =>
      obtain ⟨t, id, property⟩ := named
      cases written : w.run.world.writeProperty t id property (Bag.getValue n.properties "Value") with
      | mk world outcome =>
        have act := Act.setProperty_of_target target written
        obtain ⟨stop, q, onward⟩ := goesOn_of_act limit found trail room handler act
        exact ⟨_, _, stop, q, by rw [NodeFansOut, target]; exact s.fansOut_react (depth + 1) written, onward⟩

/-! What walks find. -/

/-- What has changed is found under the entry wherever the walk comes to. -/
theorem announced_found (builtins : s.registry.IsBuiltin) {depth : Nat} {g : Graph} {entry : String} {c : Change}
    {r : Run} {stops : List Stop} {p : Walk.Place} {call : Call}
    (passes : Walk.Passes s (Fanout.Fires s) depth g (.entrance entry (Fanout.announce c ⟨g, entry⟩) r) stops p)
    (calls : Walk.Calls s depth g p call) :
    call.outputs.find? entry Port.entityId = some (.string c.entityId) ∧
      call.outputs.find? entry Port.oldValue = some c.oldValue ∧
      call.outputs.find? entry Port.newValue = some c.newValue := by
  cases calls with
  | mk _ _ _ _ =>
    obtain ⟨id, old, new⟩ := Fanout.find?_announce c ⟨g, entry⟩
    exact ⟨(passes.find?_outputs builtins (by decide)).trans id,
      (passes.find?_outputs builtins (by decide)).trans old,
      (passes.find?_outputs builtins (by decide)).trans new⟩

/-- For every library and world: what a host or a node writes is followed by exactly the walks that wait for it, and
these find what has changed. -/
theorem writes_fan_out (s : Surroundings) :
    (∀ type id property v r, match EntityType.ofName? type with
      | none => s.setProperty type id property v r = (.error (.unknownEntityType type), r)
      | some t => s.FansOut 0 t id property v r (updateWalks (s.setProperty type id property v r).1)
          (s.setProperty type id property v r).2) ∧
    (s.registry (.action .setProperty) = some (builtin (.action .setProperty)) →
      ∀ depth g p c, depth + 1 ≤ s.settings.maxFanoutDepth → Walk.Calls s depth g p c →
        c.node.kind? = some (.action .setProperty) → ∃ walks r stop q,
          s.NodeFansOut (depth + 1) c p.walk.run walks r ∧ s.GoesOn depth g p c.node walks r stop q) ∧
    (s.registry.IsBuiltin → ∀ depth g entry c r stops p call,
      Walk.Passes s (Fanout.Fires s) depth g (.entrance entry (Fanout.announce c ⟨g, entry⟩) r) stops p →
      Walk.Calls s depth g p call →
        call.outputs.find? entry Port.entityId = some (.string c.entityId) ∧
          call.outputs.find? entry Port.oldValue = some c.oldValue ∧
          call.outputs.find? entry Port.newValue = some c.newValue) := by
  refine ⟨fun type id property v r => ?_, ?_, ?_⟩
  · cases known : EntityType.ofName? type with
    | none => rw [setProperty, known]
    | some t => exact s.setProperty_fansOut known id property v r
  · intro registry depth g p c limit calls kind
    exact s.setProperty_goesOn registry limit calls kind
  · intro builtins depth g entry c r stops p call passes calls
    exact s.announced_found builtins passes calls

end Surroundings

theorem Purse.setProperty_paid : (engine "").setProperty "Player" "" " Gold" (.int 25) run =
    (.ok ⟨some paid, [.mk "purse" "watch" .completed 1 []]⟩, { run with world := rich }) := by
  have announced : (engine "").announce 0 paid { run with world := rich } = _ :=
    (start_event rfl kind_watch 0 _ entries_paid).1
  simp only [Surroundings.setProperty, pay_known, pay_written, announced]
  rfl

namespace Surroundings

theorem writes_fan_out_purse :
    let s := Purse.engine ""
    let alone : Walk.Place := .entrance Purse.pay.id .empty Purse.run
    let watching : Walk.Place :=
      .entrance Purse.watch.id (Fanout.announce Purse.paid ⟨Purse.graph "", Purse.watch.id⟩) Purse.run
    (s.setProperty "Player" "" " Gold" (.int 25) Purse.run).1.isOk = true ∧
      s.FansOut 0 .player "" " Gold" (.int 25) Purse.run [.mk "purse" "watch" .completed 1 []]
        (s.setProperty "Player" "" " Gold" (.int 25) Purse.run).2 ∧
      (∃ c walks r stop q, Walk.Calls s 0 (Graph.single Purse.pay) alone c ∧
        c.target? = some (.player, "", "Gold") ∧ s.NodeFansOut 1 c Purse.run walks r ∧
        s.GoesOn 0 (Graph.single Purse.pay) alone Purse.pay walks r stop q) ∧
      ∃ call, Walk.Calls s 1 (Purse.graph "") watching call ∧
        call.outputs.find? Purse.watch.id Port.newValue = some (.int 25) := by
  intro s alone watching
  obtain ⟨hosts, nodes, found⟩ := writes_fan_out s
  have host := hosts "Player" "" " Gold" (.int 25) Purse.run
  rw [Purse.setProperty_paid] at host ⊢
  have pays : Walk.Calls s 0 (Graph.single Purse.pay) alone _ :=
    .mk (node?_single Purse.pay) List.not_mem_nil Nat.one_pos (Registry.handlerFor_builtins Purse.kind_pay)
  have watches : Walk.Calls s 1 (Purse.graph "") watching _ :=
    .mk (n := Purse.watch) rfl List.not_mem_nil Nat.one_pos (Registry.handlerFor_builtins Purse.kind_watch)
  obtain ⟨walks, r, stop, q, follows, onward⟩ := nodes rfl 0 _ _ _ (Nat.le_refl 1) pays Purse.kind_pay
  have values := found Registry.isBuiltin_builtins 1 _ _ _ _ _ _ _ .here watches
  exact ⟨rfl, host, ⟨_, walks, r, stop, q, pays, rfl, follows, onward⟩, _, watches, values.2.2⟩

end Surroundings

end StoryGraph
