import StoryGraph.Proofs.Graph.Lookup
import StoryGraph.Proofs.Handler.Ways
import StoryGraph.Proofs.Walk.Passage

/-!
The values that walks keep. A built-in handler puts out no more than one value, under its own node and the port of
values, and looks at no more than one, which its node names. Main statements: what is kept under another port stays for
the whole walk; and values at which no node of the graph looks do not matter.
-/

namespace StoryGraph

theorem Outputs.find?_put (o : Outputs) (node port : String) (v : Value) (name key : String) :
    (o.put node port v).find? name key =
      if Outputs.key node port = Outputs.key name key then some v else o.find? name key :=
  Table.get?_insert o _ _ v

theorem Outputs.key_ne {a b : String} (unlike : Text.fold (Text.trim a) ≠ Text.fold (Text.trim b))
    (node name : String) : key node a ≠ key name b := fun same => unlike (Prod.mk.inj same).2

/-- A built-in handler puts out at most a value, under the port of values. -/
theorem builtin_values {t : NodeType} {c : Call} {out : Output} (result : (builtin t c).result = .ok out) :
    ∀ e ∈ out.values.entries, e.1 = Port.value := by
  have nothing {next : Next} {effects : List Effect}
      (answer : (builtin t c).result = .ok { next := next, effects := effects }) :
      ∀ e ∈ out.values.entries, e.1 = Port.value := by
    cases answer.symm.trans result
    exact fun e mem => absurd mem List.not_mem_nil
  cases t with
  | event t | condition t => exact nothing rfl
  | action t => exact nothing (Act.fits_of t c).response
  | dialogue t => exact nothing (Dialogue.fits_act t c).response
  | flow t =>
    obtain ⟨next, chosen, -⟩ := Flow.exists_next t c
    exact nothing (congrArg (Except.map _) chosen)
  | source t =>
    obtain ⟨v, found⟩ := Source.exists_value t c
    have answer : (builtin (.source t) c).result =
        .ok { values := Table.empty.insert Port.value v, next := .goOn Port.exec } := congrArg (Except.map _) found
    cases answer.symm.trans result
    exact List.forall_mem_singleton.2 rfl

/-! What is kept. -/

namespace Walk

variable {s : Surroundings} {F : Firing} {depth : Nat} {g : Graph}

theorem find?_keep {node name port : String} {values : Table String Value}
    (other : ∀ e ∈ values.entries, Outputs.key node e.1 ≠ Outputs.key name port) (o : Outputs) :
    (keep node values o).find? name port = o.find? name port := by
  rw [keep]
  generalize values.entries = entries at other
  induction entries generalizing o with
  | nil => rfl
  | cons e rest ih =>
    rw [List.forall_mem_cons] at other
    rw [List.foldl_cons, ih _ other.2, Outputs.find?_put, if_neg other.1]

/-- Under a port that is not that of values, nothing is put out on the way. -/
theorem Passes.find?_outputs (builtins : s.registry.IsBuiltin) {p q : Place} {stops : List Stop} {name port : String}
    (unlike : Text.fold (Text.trim Port.value) ≠ Text.fold (Text.trim port)) (h : Passes s F depth g p stops q) :
    q.walk.outputs.find? name port = p.walk.outputs.find? name port := by
  induction h with
  | here => rfl
  | missing _ _ ih => exact ih
  | bare _ _ _ _ _ ih => exact ih
  | went _ _ _ handler result _ _ _ ih =>
    obtain ⟨t, -, -, rfl⟩ := builtins.of_handlerFor handler
    refine ih.trans (find?_keep (fun e mem same => ?_) _)
    rw [builtin_values result e mem] at same
    exact Outputs.key_ne unlike _ _ same

end Walk

theorem Fanout.find?_announce (c : Change) (e : Entry) :
    (announce c e).find? e.node Port.entityId = some (.string c.entityId) ∧
      (announce c e).find? e.node Port.oldValue = some c.oldValue ∧
      (announce c e).find? e.node Port.newValue = some c.newValue := by
  have newId := Outputs.key_ne (a := Port.newValue) (b := Port.entityId) (by decide) e.node e.node
  have oldId := Outputs.key_ne (a := Port.oldValue) (b := Port.entityId) (by decide) e.node e.node
  have newOld := Outputs.key_ne (a := Port.newValue) (b := Port.oldValue) (by decide) e.node e.node
  simp only [announce, Outputs.find?_put, if_neg newId, if_neg oldId, if_neg newOld, if_true, and_self]

/-! What is looked at. -/

/-- The node looks at the value that is kept under this key. -/
structure Node.LooksAt (n : Node) (key : String × String) : Prop where
  kind : n.kind? = some (.condition .compareValues) ∨ n.kind? = some (.flow .branch)
  source : ∃ id, Bag.getText? n.properties "SourceNodeId" = some id ∧
    Outputs.key id ((Bag.getText? n.properties "SourcePort").getD Port.value) = key

/-- The call of a node that is given other values. -/
def Call.withOutputs (c : Call) (o : Outputs) : Call := { c with outputs := o }

theorem Condition.source?_withOutputs {c : Call} {o : Outputs} {id : String}
    (kind : c.node.kind? = some (.condition .compareValues) ∨ c.node.kind? = some (.flow .branch))
    (same : ∀ key, c.node.LooksAt key → o.get? key = c.outputs.get? key)
    (named : c.arg "SourceNodeId" = some id) : source? (c.withOutputs o) id = source? c id :=
  same _ ⟨kind, id, named, rfl⟩

/-- A built-in handler looks at no values but the one that its node names. -/
theorem builtin_withOutputs {t : NodeType} {c : Call} {o : Outputs} (kind : c.node.kind? = some t)
    (same : ∀ key, c.node.LooksAt key → o.get? key = c.outputs.get? key) :
    builtin t (c.withOutputs o) = builtin t c := by
  cases t with
  | event t => rfl
  | action t | source t | dialogue t => cases t <;> rfl
  | condition t =>
    cases t with
    | compareValues =>
      have held : Condition.compareValues (c.withOutputs o) = Condition.compareValues c := by
        have arg : (c.withOutputs o).arg "SourceNodeId" = c.arg "SourceNodeId" := rfl
        rw [Condition.compareValues, Condition.compareValues, arg]
        cases named : c.arg "SourceNodeId" with
        | none => rfl
        | some id =>
          rw [Option.bind_some, Option.bind_some, Condition.source?_withOutputs (.inl kind) same named]
          rfl
      simp only [builtin, Condition.handle, Condition.holds, held]
      rfl
    | _ => rfl
  | flow t =>
    cases t with
    | branch =>
      have held : Flow.branch (c.withOutputs o) = Flow.branch c := by
        have arg : (c.withOutputs o).arg "SourceNodeId" = c.arg "SourceNodeId" := rfl
        rw [Flow.branch, Flow.branch, arg]
        cases named : c.arg "SourceNodeId" with
        | none => rfl
        | some id => simp only [Condition.source?_withOutputs (.inr kind) same named]
      simp only [builtin, Flow.handle, Flow.next, held]
      rfl
    | _ => rfl

/-- Values that are the same wherever a node of the graph looks. -/
def Outputs.AlikeIn (g : Graph) (o o' : Outputs) : Prop :=
  ∀ n ∈ g.nodes, ∀ key, n.LooksAt key → o'.get? key = o.get? key

namespace Walk

variable {s : Surroundings} {F : Firing} {depth : Nat} {g : Graph}

theorem keep_alike {o o' : Outputs} (alike : o.AlikeIn g o') (node : String) (values : Table String Value) :
    (keep node values o).AlikeIn g (keep node values o') := by
  rw [keep, keep]
  generalize values.entries = entries
  induction entries generalizing o o' with
  | nil => exact alike
  | cons e rest ih =>
    refine ih fun n mem key looks => ?_
    simp only [Outputs.put, Table.get?_insert, alike n mem key looks]

/-- The same walk with other values. -/
def withOutputs (w : Walk) (o : Outputs) : Walk := { w with outputs := o }

theorem call_withOutputs (builtins : s.registry.IsBuiltin) {v : Visit} {w : Walk} {n : Node} {h : Handler} {o : Outputs}
    (alike : w.outputs.AlikeIn g o) (found : g.node? v.node = some n) (handler : s.registry.handlerFor n = some h) :
    h ((w.withOutputs o).call s g depth n v) = h (w.call s g depth n v) := by
  obtain ⟨t, kind, -, rfl⟩ := builtins.of_handlerFor handler
  exact builtin_withOutputs (c := w.call s g depth n v) kind (alike n (Graph.node?_eq_some found).1)

/-- A walk whose nodes look at no difference makes the same stops and comes to the same ending. -/
theorem Course.withOutputs (builtins : s.registry.IsBuiltin) {steps : Nat} {pending : List (List Node × Visit)}
    {w : Walk} {stops : List Stop} {e : Ending} (c : Course s F steps pending w depth g stops e) {o : Outputs}
    (alike : w.outputs.AlikeIn g o) :
    ∃ o', Course s F steps pending (w.withOutputs o) depth g stops { e with walk := e.walk.withOutputs o' } := by
  induction c generalizing o with
  | done => exact ⟨o, .done⟩
  | missing found _ ih =>
    obtain ⟨o', later⟩ := ih alike
    exact ⟨o', .missing found later⟩
  | cycle found trail => exact ⟨o, .cycle found trail⟩
  | spent found trail limit => exact ⟨o, .spent found trail limit⟩
  | bare found trail limit handler _ ih =>
    obtain ⟨o', later⟩ := ih alike
    exact ⟨o', .bare found trail limit handler later⟩
  | @broke steps chain v rest w depth g n h message found trail limit handler result =>
    have answer : h ((w.withOutputs o).call s g depth n v) = h (w.call s g depth n v) :=
      call_withOutputs builtins alike found handler
    have broken : Course s F steps ((chain, v) :: rest) (w.withOutputs o) depth g _ _ :=
      .broke found trail limit handler (by rw [answer]; exact result)
    rw [answer] at broken
    exact ⟨o, broken⟩
  | @halted steps chain v rest w depth g n h out reports r fault r' found trail limit handler result effects ways =>
    have answer : h ((w.withOutputs o).call s g depth n v) = h (w.call s g depth n v) :=
      call_withOutputs builtins alike found handler
    exact ⟨_, .halted found trail limit handler (by rw [answer]; exact result) (by rw [answer]; exact effects) ways⟩
  | @went steps chain v rest w depth g n h out reports r visits r' stops e found trail limit handler result effects
      ways _ ih =>
    have answer : h ((w.withOutputs o).call s g depth n v) = h (w.call s g depth n v) :=
      call_withOutputs builtins alike found handler
    obtain ⟨o', later⟩ := ih (keep_alike alike n.id out.values)
    exact ⟨o', .went found trail limit handler (by rw [answer]; exact result) (by rw [answer]; exact effects) ways
      later⟩

end Walk

namespace Surroundings

/-- What a walk comes to does not depend on values at which no node of its graph looks. -/
theorem conduct_alike {s : Surroundings} (builtins : s.registry.IsBuiltin) (depth : Nat) {g : Graph} {o o' : Outputs}
    (alike : o.AlikeIn g o') (entry : String) (r : Run) :
    s.conduct depth g entry o' r = s.conduct depth g entry o r := by
  obtain ⟨stops, e, tour, walk⟩ := s.exists_tour depth g entry o r
  obtain ⟨last, tour'⟩ := tour.withOutputs builtins alike
  rw [conduct, conduct, s.walk_of_tour depth g entry o' r tour', walk]
  rfl

end Surroundings

end StoryGraph
