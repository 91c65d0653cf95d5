import StoryGraph.Proofs.Walk.Listeners

/-!
Writes to the player and to the game, of which there is one each, under two ids. Main statements: the world does not
depend on the id; nor does what follows, as far as no graph can tell the one id from the other. But a node that waits
for one id only can tell, and so can a node that looks at the id of the change.
-/

namespace StoryGraph

/-- The same change under another id. -/
def Change.under (c : Change) (id : String) : Change := { c with entityId := id }

def Outcome.under (o : Outcome) (id : String) : Outcome :=
  match o with
  | .changed c => .changed (c.under id)
  | .unmatched => .unmatched
  | .unchanged => .unchanged

def PropertyUpdate.under (u : PropertyUpdate) (id : String) : PropertyUpdate :=
  { u with change := u.change.map fun c => c.under id }

namespace World

variable {t : EntityType} (alone : t.isSingleton = true) (w : World) (a b property : String) (v : Value)
include alone

theorem getProperty?_singleton : w.getProperty? t b property = w.getProperty? t a property := by
  cases t with
  | player | game => rfl
  | room | door | npc | object => cases alone

theorem setProperty?_singleton : w.setProperty? t b property v = w.setProperty? t a property v := by
  cases t with
  | player | game => rfl
  | room | door | npc | object => cases alone

theorem canonicalId_singleton (id : String) : w.canonicalId t id = id := by
  rw [canonicalId_eq, if_pos alone]

/-- There is one entity to write to, whatever the id, which is told as it is given. -/
theorem writeProperty_singleton : w.writeProperty t b property v =
    ((w.writeProperty t a property v).1, (w.writeProperty t a property v).2.under b) := by
  simp only [writeProperty, getProperty?_singleton alone _ a b, setProperty?_singleton alone w a b,
    canonicalId_singleton alone]
  cases w.getProperty? t a property with
  | none => rfl
  | some old =>
    cases w.setProperty? t a property v with
    | none => rfl
    | some w' =>
      dsimp only
      split <;> rfl

end World

/-- In a graph, the same node waits for a change under either id, and if there is one, no node looks at the id. -/
structure Graph.BlindTo (g : Graph) (c : Change) (id : String) : Prop where
  listener : g.listener? (c.under id) = g.listener? c
  unread : ∀ n, g.listener? c = some n → ∀ m ∈ g.nodes, ¬ m.LooksAt (Outputs.key n.id Port.entityId)

theorem Graph.BlindTo.announce {g : Graph} {c : Change} {id : String} (blind : g.BlindTo c id) {n : Node}
    (found : g.listener? c = some n) :
    (Fanout.announce c ⟨g, n.id⟩).AlikeIn g (Fanout.announce (c.under id) ⟨g, n.id⟩) := by
  intro m mem key looks
  have other : Outputs.key n.id Port.entityId ≠ key := fun same => blind.unread n found m mem (same ▸ looks)
  simp only [Fanout.announce, Outputs.put, Table.get?_insert, if_neg other, Change.under]

namespace Surroundings

variable {s : Surroundings} {c : Change} {id : String}

theorem walkAll_under (builtins : s.registry.IsBuiltin) (depth : Nat) {l : Library} (blind : ∀ g ∈ l, g.BlindTo c id)
    (r : Run) :
    Fanout.walkAll (s.conduct depth) (Fanout.announce (c.under id)) (l.listeners (c.under id)) r =
      Fanout.walkAll (s.conduct depth) (Fanout.announce c) (l.listeners c) r := by
  induction l generalizing r with
  | nil => simp only [Library.listeners, List.filterMap_nil, Fanout.walkAll]
  | cons g rest ih =>
    rw [List.forall_mem_cons] at blind
    rw [Library.listeners_cons, Library.listeners_cons, blind.1.listener]
    cases found : g.listener? c with
    | none => exact ih blind.2 r
    | some n =>
      simp only [Fanout.walkAll, conduct_alike builtins depth (blind.1.announce found), ih blind.2]

theorem react_under (builtins : s.registry.IsBuiltin) (depth : Nat) {outcome : Outcome}
    (blind : ∀ c, outcome = .changed c → ∀ g ∈ s.library, g.BlindTo c id) (r : Run) :
    s.react depth (outcome.under id) r = s.react depth outcome r := by
  cases outcome with
  | unmatched | unchanged => rfl
  | changed c => exact walkAll_under builtins depth (blind c rfl) r

/-- Below the deepest level a change is dropped, whatever its id. -/
theorem fireAll_under (builtins : s.registry.IsBuiltin) (depth : Nat) (g : Graph) {outcome : Outcome}
    (blind : ∀ c, outcome = .changed c → ∀ g ∈ s.library, g.BlindTo c id) (r : Run) :
    Walk.fireAll (Fanout.fire s (s.settings.maxFanoutDepth - depth) depth g) (outcome.under id).effects r =
      Walk.fireAll (Fanout.fire s (s.settings.maxFanoutDepth - depth) depth g) outcome.effects r := by
  by_cases limit : depth + 1 ≤ s.settings.maxFanoutDepth
  · rw [s.fireAll_effects limit, s.fireAll_effects limit, react_under builtins _ blind]
  · cases outcome with
    | unmatched | unchanged => rfl
    | changed c => simp only [Outcome.under, Outcome.effects, Walk.fireAll, Fanout.fire_eq, if_neg limit]

theorem execute_act {fire : Fire} {depth : Nat} {g : Graph} {n : Node} {v : Visit} {w : Walk} {world : World}
    {effects : List Effect}
    (act : Act.of .setProperty (w.call s g depth n v) = { world := world, effects := effects }) :
    Walk.execute s fire g depth (Act.handle .setProperty) n v w =
      let fired := Walk.fireAll fire effects { w.run with world := world }
      (.ok (Walk.follow g n.id (Text.fold n.id :: v.trail) [Port.exec]),
        { w with inputPort := v.port, nested := w.nested ++ fired.1, run := fired.2 }) := by
  rw [Walk.execute_ok (Act.result_handle act), Act.absorb_handle act]
  rfl

/-! Two writes of one value to one property, under two ids. -/

section Writes

variable (builtins : s.registry.IsBuiltin) {t : EntityType} (alone : t.isSingleton = true) {a b property : String}
include builtins alone

/-- A host is told the same, save for the id. -/
theorem setProperty_under {type : String} (known : EntityType.ofName? type = some t) {v : Value} {r : Run}
    (blind : ∀ c, (r.world.writeProperty t a property v).2 = .changed c → ∀ g ∈ s.library, g.BlindTo c b) :
    (s.setProperty type b property v r).2 = (s.setProperty type a property v r).2 ∧
      (s.setProperty type b property v r).1 = ((s.setProperty type a property v r).1.map fun update =>
        update.under b).mapError fun _ => .unknownTarget t b property := by
  simp only [setProperty, known, World.writeProperty_singleton alone r.world a b]
  cases written : r.world.writeProperty t a property v with
  | mk w outcome =>
    rw [written] at blind
    cases outcome with
    | unmatched | unchanged => exact ⟨rfl, rfl⟩
    | changed c =>
      have walks : s.announce 0 (c.under b) { r with world := w } = s.announce 0 c { r with world := w } :=
        s.react_under builtins 0 blind { r with world := w }
      dsimp only [Outcome.under]
      rw [walks]
      exact ⟨rfl, rfl⟩

/-- A node leaves its walk the same. -/
theorem execute_under {depth : Nat} {g : Graph} {n n' : Node} {v : Visit} {w : Walk} (sameId : n'.id = n.id)
    (value : Bag.getValue n'.properties "Value" = Bag.getValue n.properties "Value")
    (target : (w.call s g depth n v).target? = some (t, a, property))
    (target' : (w.call s g depth n' v).target? = some (t, b, property))
    (blind : ∀ c, (w.run.world.writeProperty t a property (Bag.getValue n.properties "Value")).2 = .changed c →
      ∀ g ∈ s.library, g.BlindTo c b) :
    let fire := Fanout.fire s (s.settings.maxFanoutDepth - depth) depth g
    Walk.execute s fire g depth (Act.handle .setProperty) n' v w =
      Walk.execute s fire g depth (Act.handle .setProperty) n v w := by
  dsimp only
  cases written : w.run.world.writeProperty t a property (Bag.getValue n.properties "Value") with
  | mk world outcome =>
    have written' : w.run.world.writeProperty t b property (Bag.getValue n'.properties "Value") =
        (world, outcome.under b) := by
      rw [value, World.writeProperty_singleton alone w.run.world a b, written]
    have act := Act.setProperty_of_target target written
    have act' := Act.setProperty_of_target target' written'
    rw [execute_act act, execute_act act', fireAll_under builtins depth g (by rwa [written] at blind), sameId]

end Writes

/-- The id under which a singleton is written to makes no difference where no graph can tell it from another. -/
theorem singleton_ids_alike (s : Surroundings) (builtins : s.registry.IsBuiltin) {t : EntityType}
    (alone : t.isSingleton = true) (a b property : String) :
    (∀ (w : World) v, w.writeProperty t b property v =
      ((w.writeProperty t a property v).1, (w.writeProperty t a property v).2.under b)) ∧
    (∀ type v r, EntityType.ofName? type = some t →
      (∀ c, (r.world.writeProperty t a property v).2 = .changed c → ∀ g ∈ s.library, g.BlindTo c b) →
      (s.setProperty type b property v r).2 = (s.setProperty type a property v r).2 ∧
        (s.setProperty type b property v r).1 = ((s.setProperty type a property v r).1.map fun update =>
          update.under b).mapError fun _ => .unknownTarget t b property) ∧
    ∀ depth g (n n' : Node) (v : Visit) (w : Walk), n'.id = n.id →
      Bag.getValue n'.properties "Value" = Bag.getValue n.properties "Value" →
      (w.call s g depth n v).target? = some (t, a, property) →
      (w.call s g depth n' v).target? = some (t, b, property) →
      (∀ c, (w.run.world.writeProperty t a property (Bag.getValue n.properties "Value")).2 = .changed c →
        ∀ g ∈ s.library, g.BlindTo c b) →
      let fire := Fanout.fire s (s.settings.maxFanoutDepth - depth) depth g
      Walk.execute s fire g depth (Act.handle .setProperty) n' v w =
        Walk.execute s fire g depth (Act.handle .setProperty) n v w := by
  refine ⟨fun w v => w.writeProperty_singleton alone a b property v, ?_, ?_⟩
  · intro type v r known blind
    exact setProperty_under builtins alone known blind
  · intro depth g n n' v w sameId value target target' blind
    exact execute_under builtins alone sameId value target target' blind

end Surroundings

/-! The graph of the player, and one that waits for a single id. -/

namespace Purse

def payHero : Node := { pay with properties := pay.properties.insert "EntityId" (.string "hero") }

theorem blind_hero : (graph "").BlindTo paid "hero" := by
  constructor
  case listener =>
    rw [Graph.listener?, Graph.listener?, entryNodes_eq]
    rfl
  case unread =>
    -- Both nodes are events.
    intro n _ m mem looks
    have kind : ∃ t, m.kind? = some (.event t) := by
      simp only [graph, List.mem_cons, List.not_mem_nil, or_false] at mem
      obtain rfl | rfl := mem
      · exact ⟨_, kind_watch⟩
      · exact ⟨_, kind_enter⟩
    obtain ⟨t, kind⟩ := kind
    simpa [kind] using looks.kind

/-- Waits for one id only. -/
def herald : Node := { watch with properties := watch.properties.insert "EntityId" (.string "hero") }

def heraldGraph : Graph := { id := "purse", nodes := [herald] }

def heralds : Surroundings := { engine "" with library := [heraldGraph] }

theorem herald_listens : herald.ListensFor (paid.under "hero") ∧ ¬ herald.ListensFor paid := by
  have entityId : Bag.getText? herald.properties "EntityId" = some "hero" := rfl
  constructor
  · refine ⟨by decide, rfl, ⟨"Gold", rfl, rfl⟩, fun id here => ?_⟩
    cases entityId.symm.trans here
    rfl
  · intro listens
    exact absurd (listens.entityId "hero" entityId) (by decide)

theorem setProperty_heralds (id : String) : heralds.setProperty "Player" id " Gold" (.int 25) run =
    (.ok ⟨some (paid.under id), (heralds.announce 0 (paid.under id) { run with world := rich }).1⟩,
      (heralds.announce 0 (paid.under id) { run with world := rich }).2) := by
  have written : run.world.writeProperty .player id " Gold" (.int 25) = (rich, .changed (paid.under id)) := by
    rw [World.writeProperty_singleton rfl run.world "" id, pay_written]
    rfl
  simp only [Surroundings.setProperty, pay_known, written]

end Purse

namespace Surroundings

theorem singleton_ids_alike_purse :
    let s := Purse.engine ""
    let v : Visit := ⟨"pay", Port.exec, []⟩
    let w : Walk := { run := Purse.run }
    let fire := Fanout.fire s (s.settings.maxFanoutDepth - 0) 0 (Graph.single Purse.pay)
    s.registry.IsBuiltin ∧ EntityType.player.isSingleton = true ∧ (Purse.graph "").BlindTo Purse.paid "hero" ∧
      updateWalks (s.setProperty "Player" "hero" " Gold" (.int 25) Purse.run).1 =
        [.mk "purse" "watch" .completed 1 []] ∧
      (s.setProperty "Player" "hero" " Gold" (.int 25) Purse.run).2 =
        (s.setProperty "Player" "" " Gold" (.int 25) Purse.run).2 ∧
      (w.call s (Graph.single Purse.pay) 0 Purse.payHero v).target? = some (.player, "hero", "Gold") ∧
      Walk.execute s fire (Graph.single Purse.pay) 0 (Act.handle .setProperty) Purse.payHero v w =
        Walk.execute s fire (Graph.single Purse.pay) 0 (Act.handle .setProperty) Purse.pay v w := by
  intro s v w fire
  have builtins : s.registry.IsBuiltin := Registry.isBuiltin_builtins
  have alone : EntityType.player.isSingleton = true := rfl
  obtain ⟨-, host, -⟩ := s.singleton_ids_alike builtins alone "" "hero" " Gold"
  obtain ⟨-, -, node⟩ := s.singleton_ids_alike builtins alone "" "hero" "Gold"
  have blind {property : String}
      (written : (Purse.run.world.writeProperty .player "" property (.int 25)).2 = .changed Purse.paid) (c : Change)
      (changed : (Purse.run.world.writeProperty .player "" property (.int 25)).2 = .changed c) :
      ∀ g ∈ s.library, g.BlindTo c "hero" := by
    cases written.symm.trans changed
    exact List.forall_mem_singleton.2 Purse.blind_hero
  have told := host "Player" (.int 25) Purse.run Purse.pay_known (blind (congrArg Prod.snd Purse.pay_written))
  have left := node 0 (Graph.single Purse.pay) Purse.pay Purse.payHero v w rfl rfl rfl rfl (blind rfl)
  have walks := told.2
  rw [Purse.setProperty_paid] at walks
  exact ⟨builtins, alone, Purse.blind_hero, congrArg updateWalks walks, told.1, rfl, left⟩

/-- The same write runs a walk under one id and none under another. -/
theorem named_listener_tells :
    let s := Purse.heralds
    s.registry = .builtins ∧ EntityType.ofName? "Player" = some .player ∧ EntityType.player.isSingleton = true ∧
      (updateWalks (s.setProperty "Player" "hero" " Gold" (.int 25) Purse.run).1).length = 1 ∧
      updateWalks (s.setProperty "Player" "" " Gold" (.int 25) Purse.run).1 = [] := by
  intro s
  have informs (id : String) :=
    s.informs_walkAll 0 (Purse.paid.under id) s.library { Purse.run with world := Purse.rich }
  have told (id : String) : updateWalks (s.setProperty "Player" id " Gold" (.int 25) Purse.run).1 = _ :=
    congrArg (fun answer => updateWalks (Prod.fst answer)) (Purse.setProperty_heralds id)
  have heard : Purse.heraldGraph.listener? (Purse.paid.under "hero") = some Purse.herald :=
    Graph.listener?_eq_some_iff.2 ⟨[], ⟨[], rfl⟩, Purse.herald_listens.1, fun _ none => absurd none List.not_mem_nil⟩
  have unheard : Purse.heraldGraph.listener? (Purse.paid.under "") = none :=
    Graph.listener?_eq_none_iff.2 (List.forall_mem_singleton.2 Purse.herald_listens.2)
  refine ⟨rfl, Purse.pay_known, rfl, ?_, List.length_eq_zero_iff.1 ?_⟩
  · rw [told]
    refine (informs "hero").length_eq.trans ?_
    simp [s, Purse.heralds, heard]
  · rw [told]
    refine (informs "").length_eq.trans ?_
    simp [s, Purse.heralds, unheard]

end Surroundings

end StoryGraph
