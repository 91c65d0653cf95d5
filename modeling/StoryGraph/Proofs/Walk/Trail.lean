import StoryGraph.Proofs.Walk.Fires

/-!
Where the visits of a walk come from, and what is found there. Main statements: a chain is a way through
the graph along nodes that were run; no two of them share a name; a walk turns back exactly at the nodes
of the chain that it is on.
-/

namespace StoryGraph

/-- A visit goes to the entry of a walk, or along a connection from a node that was run. -/
def Reached (g : Graph) (entry : String) (past : List Stop) : List Node → Visit → Prop
  | [], v => v.node = entry
  | m :: chain, v =>
    ∃ p ∈ past, p.chain = chain ∧ p.arrival = .ran m none ∧
      ∃ port c, g.connectionFrom? m.id port = some c ∧ c.toNode = v.node

theorem Reached.mono {g : Graph} {entry : String} {past past' : List Stop} {chain : List Node} {v : Visit}
    (h : Reached g entry past chain v) (hp : ∀ p ∈ past, p ∈ past') : Reached g entry past' chain v := by
  cases chain with
  | nil => exact h
  | cons m chain =>
    obtain ⟨p, mem, rest⟩ := h
    exact ⟨p, hp p mem, rest⟩

/-- What is found at a visit is decided by the graph and the trail. -/
def Stop.Agrees (g : Graph) (t : Stop) : Prop :=
  g.node? t.visit.node = t.arrival.node? ∧
    ∀ n, t.arrival.node? = some n → ((∃ m, t.arrival = .cycle m) ↔ Text.fold n.id ∈ t.visit.trail)

/-- The trail of a visit names its chain, and no name comes twice. -/
def Tracked (chain : List Node) (v : Visit) : Prop :=
  v.trail = (chain.map fun m => Text.fold m.id) ∧ chain.Pairwise fun a b => ¬ Text.sameName a.id b.id

theorem Tracked.mem_trail {chain : List Node} {v : Visit} (h : Tracked chain v) (n : Node) :
    Text.fold n.id ∈ v.trail ↔ ∃ m ∈ chain, Text.sameName m.id n.id := by
  simp [h.1, Text.sameName_iff]

theorem Tracked.pairwise_cons {chain : List Node} {v : Visit} (h : Tracked chain v) {n : Node}
    (hn : Text.fold n.id ∉ v.trail) : (n :: chain).Pairwise fun a b => ¬ Text.sameName a.id b.id := by
  refine List.pairwise_cons.2 ⟨fun m mem same => hn ?_, h.2⟩
  rw [Text.sameName_comm] at same
  exact (h.mem_trail n).2 ⟨m, mem, same⟩

namespace Walk

variable {s : Surroundings} {F : Firing} {steps : Nat} {pending : List (List Node × Visit)} {w : Walk}
  {depth : Nat} {g : Graph} {stops : List Stop} {e : Ending}

/-- A way on from a node goes along the first connection from one of its ports. -/
theorem exists_connection_of_mem_extend {chain : List Node} {n : Node} {trail : List String} {next : Next}
    {r r' : Run} {visits : List Visit} {p : List Node × Visit}
    (ways : after s g n.id trail next r = (.ok visits, r')) (h : p ∈ extend chain n visits) :
    ∃ port k, g.connectionFrom? n.id port = some k ∧ (n :: chain, ⟨k.toNode, k.toPort, trail⟩) = p := by
  obtain ⟨u, hu, rfl⟩ := List.mem_map.1 h
  rw [after_ok ways] at hu
  obtain ⟨port, -, k, hk, rfl⟩ := mem_follow.1 hu
  exact ⟨port, k, hk, rfl⟩

theorem Course.agrees (c : Course s F steps pending w depth g stops e) : ∀ t ∈ stops, t.Agrees g := by
  induction c with
  | done => simp
  | missing found _ ih => simpa [Stop.Agrees, Arrival.node?, found] using ih
  | cycle found trail => simpa [Stop.Agrees, Arrival.node?, found] using trail
  | spent found trail => simpa [Stop.Agrees, Arrival.node?, found] using trail
  | bare found trail _ _ _ ih => simpa [Stop.Agrees, Arrival.node?, found, trail] using ih
  | broke found trail => simpa [Stop.Agrees, Arrival.node?, found] using trail
  | halted found trail => simpa [Stop.Agrees, Arrival.node?, found] using trail
  | went found trail _ _ _ _ _ _ ih => simpa [Stop.Agrees, Arrival.node?, found, trail] using ih

/-- What holds of the pending visits, and of the visits that follow from a node that it holds of, holds of
every visit that is made. -/
theorem Course.forall_visit {P : List Node → Visit → Prop}
    (follows : ∀ chain v n port k, P chain v → g.node? v.node = some n → Text.fold n.id ∉ v.trail →
      g.connectionFrom? n.id port = some k → P (n :: chain) ⟨k.toNode, k.toPort, Text.fold n.id :: v.trail⟩)
    (c : Course s F steps pending w depth g stops e) (hp : ∀ p ∈ pending, P p.1 p.2) :
    ∀ t ∈ stops, P t.chain t.visit := by
  induction c with
  | done => simp
  | missing _ _ ih | bare _ _ _ _ _ ih =>
    simp only [List.forall_mem_cons] at hp ⊢
    exact ⟨hp.1, ih follows hp.2⟩
  | cycle | spent | broke | halted =>
    rw [List.forall_mem_cons] at hp
    exact List.forall_mem_singleton.2 hp.1
  | @went _ chain v _ _ _ _ n _ _ _ _ _ _ _ _ found trail _ _ _ _ ways _ ih =>
    simp only [List.forall_mem_cons] at hp ⊢
    refine ⟨hp.1, ih follows fun p mem => ?_⟩
    rcases List.mem_append.1 mem with mem | mem
    · obtain ⟨port, k, hk, rfl⟩ := exists_connection_of_mem_extend ways mem
      exact follows chain v n port k hp.1 found trail hk
    · exact hp.2 p mem

theorem Course.reached {entry : String} (c : Course s F steps pending w depth g stops e) (past : List Stop)
    (hp : ∀ p ∈ pending, Reached g entry past p.1 p.2) (before : List Stop) (t : Stop) (later : List Stop)
    (h : stops = before ++ t :: later) : Reached g entry (past ++ before) t.chain t.visit := by
  induction c generalizing past before with
  | done => simp at h
  | cycle | spent | broke | halted =>
    cases before with
    | nil =>
      obtain ⟨rfl, -⟩ := List.cons.inj h
      rw [List.append_nil]
      exact (List.forall_mem_cons.1 hp).1
    | cons => simp at h
  | missing _ _ ih | bare _ _ _ _ _ ih =>
    obtain ⟨first, rest⟩ := List.forall_mem_cons.1 hp
    cases before with
    | nil =>
      obtain ⟨rfl, -⟩ := List.cons.inj h
      rwa [List.append_nil]
    | cons b before =>
      obtain ⟨rfl, tail⟩ := List.cons.inj h
      rw [List.append_cons]
      exact ih _ (fun p mem => (rest p mem).mono fun q => List.mem_append_left _) before tail
  | @went _ chain v _ _ _ _ n _ _ _ _ _ _ _ _ _ _ _ _ _ _ ways _ ih =>
    obtain ⟨first, rest⟩ := List.forall_mem_cons.1 hp
    cases before with
    | nil =>
      obtain ⟨rfl, -⟩ := List.cons.inj h
      rwa [List.append_nil]
    | cons b before =>
      obtain ⟨rfl, tail⟩ := List.cons.inj h
      rw [List.append_cons]
      refine ih _ (fun p mem => ?_) before tail
      rcases List.mem_append.1 mem with mem | mem
      · obtain ⟨port, k, hk, rfl⟩ := exists_connection_of_mem_extend ways mem
        exact ⟨_, List.mem_append_right _ (List.mem_singleton_self _), rfl, rfl, port, k, hk, rfl⟩
      · exact (rest p mem).mono fun q => List.mem_append_left _

theorem Course.tracked (c : Course s F steps pending w depth g stops e)
    (hp : ∀ p ∈ pending, Tracked p.1 p.2) : ∀ t ∈ stops, Tracked t.chain t.visit := by
  refine c.forall_visit (fun chain v n port k h _ hn _ => ?_) hp
  exact ⟨congrArg (Text.fold n.id :: ·) h.1, h.pairwise_cons hn⟩

/-- A walk turns back at a node exactly if it has come from a node of that name. -/
theorem Course.cycle_iff (c : Course s F steps pending w depth g stops e)
    (hp : ∀ p ∈ pending, Tracked p.1 p.2) {t : Stop} (ht : t ∈ stops) {n : Node}
    (hn : t.arrival.node? = some n) :
    t.arrival = .cycle n ↔ ∃ m ∈ t.chain, Text.sameName m.id n.id := by
  rw [← (c.tracked hp t ht).mem_trail n, ← (c.agrees t ht).2 n hn]
  refine ⟨fun h => ⟨n, h⟩, fun ⟨m, h⟩ => ?_⟩
  rw [h] at hn ⊢
  exact congrArg _ (Option.some.inj hn)

theorem Course.called_distinct (c : Course s F steps pending w depth g stops e)
    (hp : ∀ p ∈ pending, Tracked p.1 p.2) {t : Stop} (ht : t ∈ stops) {n : Node}
    (hn : t.arrival.called? = some n) : (n :: t.chain).Pairwise fun a b => ¬ Text.sameName a.id b.id := by
  obtain ⟨chain, v, arrival⟩ := t
  cases arrival with
  | ran m fault =>
    cases hn
    refine (c.tracked hp _ ht).pairwise_cons fun mem => ?_
    obtain ⟨m, h⟩ := ((c.agrees _ ht).2 n rfl).2 mem
    cases h
  | _ => cases hn

end Walk

end StoryGraph
