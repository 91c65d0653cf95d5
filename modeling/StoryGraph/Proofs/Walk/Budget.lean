import StoryGraph.Proofs.Walk.Trail

/-!
How far a walk comes and how it ends. Main statements: no more handlers are called than there are steps;
the count of steps passes the limit exactly if the walk is aborted for it; the first fault ends the walk.
-/

namespace StoryGraph

namespace Fault

theorem message_cycle (node : String) : (cycle node).message = "cycle detected at node '" ++ node ++ "'" :=
  rfl

theorem message_stepLimit (limit : Nat) :
    (stepLimit limit).message = "step budget of " ++ toString limit ++ " exceeded" := rfl

theorem cycle_message_inj {a b : String} : (cycle a).message = (cycle b).message ↔ a = b := by
  rw [message_cycle, message_cycle, String.append_left_inj, String.append_right_inj]

/-- The two texts differ in their first character. -/
theorem cycle_message_ne_stepLimit (node : String) (limit : Nat) :
    (cycle node).message ≠ (stepLimit limit).message := by
  rw [message_cycle, message_stepLimit]
  intro h
  have heads := congrArg (fun s => s.toList.head?) h
  simp [String.toList_append] at heads

end Fault

namespace Status

theorem of_eq_cycle {fault : Option Fault} {node : String} :
    Status.of fault = .aborted (Fault.cycle node).message ↔ fault = some (.cycle node) := by
  cases fault with
  | none => simp [Status.of]
  | some f =>
    cases f with
    | cycle m => simp [Status.of, Fault.cycle_message_inj]
    | stepLimit limit => simpa [Status.of] using (Fault.cycle_message_ne_stepLimit node limit).symm
    | _ => simp [Status.of]

theorem of_eq_stepLimit {fault : Option Fault} {limit : Nat}
    (h : Status.of fault = .aborted (Fault.stepLimit limit).message) : ∃ l, fault = some (.stepLimit l) := by
  cases fault with
  | none => simp [Status.of] at h
  | some f =>
    cases f with
    | cycle m => exact absurd (Status.aborted.inj h) (Fault.cycle_message_ne_stepLimit m limit)
    | stepLimit l => exact ⟨l, rfl⟩
    | _ => simp [Status.of] at h

end Status

namespace Walk

variable {s : Surroundings} {F : Firing} {steps : Nat} {pending : List (List Node × Visit)} {w : Walk}
  {depth : Nat} {g : Graph} {stops : List Stop} {e : Ending}

/-- The limit is the one that the settings give, and it is reached by the count of steps alone. -/
theorem Course.steps_le (c : Course s F steps pending w depth g stops e)
    (hs : steps ≤ s.settings.maxWalkSteps) :
    e.steps ≤ s.settings.maxWalkSteps + 1 ∧
      (e.steps = s.settings.maxWalkSteps + 1 ↔ ∃ limit, e.fault = some (.stepLimit limit)) ∧
      (∀ limit, e.fault = some (.stepLimit limit) → limit = s.settings.maxWalkSteps) := by
  induction c with
  | done | cycle =>
    refine ⟨by simp only; omega, ⟨fun h => ?_, by simp⟩, by simp⟩
    simp only at h
    omega
  | spent _ _ limit =>
    have full := Nat.le_antisymm hs limit
    simp [full]
  | missing _ _ ih => exact ih hs
  | bare _ _ limit _ _ ih | went _ _ limit _ _ _ _ _ ih => exact ih limit
  | broke _ _ limit =>
    refine ⟨Nat.succ_le_succ hs, ⟨fun h => ?_, by simp⟩, by simp⟩
    simp only at h
    omega
  | halted _ _ limit _ _ _ ways =>
    refine ⟨Nat.succ_le_succ hs, ⟨fun h => ?_, ?_⟩, ?_⟩
    · simp only at h
      omega
    · rcases after_error ways with rfl | ⟨message, rfl⟩ <;> simp
    · rcases after_error ways with rfl | ⟨message, rfl⟩ <;> simp

theorem Course.called_le (c : Course s F steps pending w depth g stops e)
    (hs : steps ≤ s.settings.maxWalkSteps) :
    steps + (called stops).length ≤ s.settings.maxWalkSteps := by
  induction c with
  | done => simpa [called] using hs
  | missing _ _ ih => simpa [called, Arrival.called?] using ih hs
  | cycle | spent => simpa [called, Arrival.called?] using hs
  | bare _ _ limit _ _ ih =>
    have := ih limit
    simp only [called, Arrival.called?, List.filterMap_cons_none] at this ⊢
    omega
  | broke _ _ limit | halted _ _ limit =>
    simpa [called, Arrival.called?] using Nat.succ_le_of_lt limit
  | went _ _ limit _ _ _ _ _ ih =>
    have := ih limit
    simp only [called, Arrival.called?, List.filterMap_cons, List.length_cons] at this ⊢
    omega

theorem Course.fault_cycle_iff (c : Course s F steps pending w depth g stops e) (id : String) :
    e.fault = some (.cycle id) ↔ ∃ t ∈ stops, ∃ n, t.arrival = .cycle n ∧ n.id = id := by
  induction c with
  | done | spent | broke => simp
  | cycle => simp
  | missing _ _ ih | bare _ _ _ _ _ ih | went _ _ _ _ _ _ _ _ ih => simp [ih]
  | halted _ _ _ _ _ _ ways =>
    rcases after_error ways with rfl | ⟨message, rfl⟩ <;> simp

/-- A walk ends with the first fault that it meets, and if it meets none, without one. -/
theorem Course.fault_eq (c : Course s F steps pending w depth g stops e) :
    e.fault = stops.findSome? fun t => t.arrival.fault? s.settings.maxWalkSteps := by
  induction c with
  | done | cycle | spent | broke | halted => rfl
  | missing _ _ ih | bare _ _ _ _ _ ih | went _ _ _ _ _ _ _ _ ih =>
    simpa [List.findSome?_cons, Arrival.fault?] using ih

theorem Course.fault_last (c : Course s F steps pending w depth g stops e) :
    stops.Pairwise fun t _ => t.arrival.fault? s.settings.maxWalkSteps = none := by
  induction c with
  | done => exact .nil
  | cycle | spent | broke | halted => exact List.pairwise_singleton _ _
  | missing _ _ ih | bare _ _ _ _ _ ih | went _ _ _ _ _ _ _ _ ih =>
    exact List.pairwise_cons.2 ⟨fun _ _ => rfl, ih⟩

end Walk

/-- What trail and budget are for, in terms of the stops of a walk and of its report. -/
structure TrailAndBudget (limit : Nat) (g : Graph) (stops : List Stop) (x : WalkReport) : Prop where
  /-- Every chain goes back along connections, through stops that were made before, to the entry. -/
  reached : ∀ before t later, stops = before ++ t :: later → Reached g x.entry before t.chain t.visit
  distinct : ∀ t ∈ stops, ∀ n, t.arrival.called? = some n →
    (n :: t.chain).Pairwise fun a b => ¬ Text.sameName a.id b.id
  cycle : ∀ id, x.status = .aborted (Fault.cycle id).message ↔
    ∃ t ∈ stops, ∃ n, t.arrival.node? = some n ∧ n.id = id ∧ ∃ m ∈ t.chain, Text.sameName m.id n.id
  calls : (called stops).length ≤ limit
  steps : x.steps ≤ limit + 1
  exhausted : x.steps = limit + 1 ↔ x.status = .aborted (Fault.stepLimit limit).message
  /-- A fault is at the last stop only, and it is what the walk ends with. -/
  last : stops.Pairwise fun t _ => t.arrival.fault? limit = none
  status : x.status = Status.of (stops.findSome? fun t => t.arrival.fault? limit)

namespace Surroundings

variable {s : Surroundings} {depth : Nat} {g : Graph} {entry : String} {outputs : Outputs} {r : Run}
  {stops : List Stop} {e : Ending}

theorem Tour.trailAndBudget (h : s.Tour depth g entry outputs r stops e) :
    TrailAndBudget s.settings.maxWalkSteps g stops (s.walk depth g entry outputs r).1 := by
  have start : ∀ p ∈ [(([] : List Node), (⟨entry, Port.exec, []⟩ : Visit))], Tracked p.1 p.2 :=
    List.forall_mem_singleton.2 ⟨rfl, .nil⟩
  obtain ⟨steps, exhausted, limit⟩ := h.steps_le (Nat.zero_le _)
  rw [s.walk_of_tour depth g entry outputs r h]
  constructor
  case reached =>
    intro before t later split
    exact h.reached [] (List.forall_mem_singleton.2 rfl) before t later split
  case distinct => exact fun t ht n => h.called_distinct start ht
  case cycle =>
    intro id
    show Status.of e.fault = _ ↔ _
    rw [Status.of_eq_cycle, h.fault_cycle_iff]
    constructor
    · rintro ⟨t, ht, n, turned, rfl⟩
      have hn : t.arrival.node? = some n := by rw [turned]; rfl
      exact ⟨t, ht, n, hn, rfl, (h.cycle_iff start ht hn).1 turned⟩
    · rintro ⟨t, ht, n, hn, rfl, met⟩
      exact ⟨t, ht, n, (h.cycle_iff start ht hn).2 met, rfl⟩
  case calls => simpa using h.called_le (Nat.zero_le _)
  case steps => exact steps
  case exhausted =>
    show e.steps = _ ↔ Status.of e.fault = _
    rw [exhausted]
    constructor
    · rintro ⟨l, hl⟩
      rw [hl, limit l hl]
      rfl
    · exact Status.of_eq_stepLimit
  case last => exact h.fault_last
  case status => exact congrArg Status.of h.fault_eq

/-- Every walk, with any handlers, keeps its trail and its budget exactly. -/
theorem walk_trail_budget_exact (s : Surroundings) (depth : Nat) (g : Graph) (entry : String)
    (outputs : Outputs) (r : Run) :
    ∃ stops e, s.Tour depth g entry outputs r stops e ∧
      s.walk depth g entry outputs r = Walk.conclude s g entry e ∧
      TrailAndBudget s.settings.maxWalkSteps g stops (s.walk depth g entry outputs r).1 := by
  obtain ⟨stops, e, tour, walk⟩ := s.exists_tour depth g entry outputs r
  exact ⟨stops, e, tour, walk, tour.trailAndBudget⟩

end Surroundings

end StoryGraph
