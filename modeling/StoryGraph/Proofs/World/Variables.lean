import StoryGraph.Handler.Builtin
import StoryGraph.Proofs.NodeType.Tags
import StoryGraph.Proofs.Number.Range
import StoryGraph.Proofs.Table
import StoryGraph.Proofs.World.Keys
import StoryGraph.World.Document

/-!
Variables, which are told apart by case where they are stored and not where they are asked for. Main statements: a
value that was written is read back, and whole numbers that nodes add to a variable add up, unless the spelling of the
name that is asked for is in use itself and stands behind another one; no other name reads differently. Behind another
spelling, a write is not seen.
-/

namespace StoryGraph

namespace World

variable {w : World} {name m : String}

/-- This spelling of the name, if it is in use, is the first one that is in use. -/
def SpelledFirst (w : World) (name : String) : Prop := name ∈ w.vars.keys → w.variableKey name = name

instance (w : World) (name : String) : Decidable (w.SpelledFirst name) := inferInstanceAs (Decidable (_ → _))

/-! The spelling that is written to. -/

theorem sameName_variableKey (w : World) (name : String) : Text.sameName (w.variableKey name) name = true := by
  rw [variableKey]
  cases found : w.vars.entries.find? fun e => Text.sameName e.1 name with
  | none => exact Text.sameName_refl name
  | some e => exact List.find?_some (p := fun e : String × Value => Text.sameName e.1 name) found

theorem variableKey_congr (used : m ∈ w.vars.keys) (same : Text.sameName m name = true) :
    w.variableKey m = w.variableKey name := by
  obtain ⟨e, mem, rfl⟩ := List.mem_map.1 used
  simp only [variableKey, Text.sameName_congr same]
  cases found : w.vars.entries.find? fun e => Text.sameName e.1 name with
  | none => exact absurd same (List.find?_eq_none.1 found e mem)
  | some => rfl

theorem find?_setVariable (w : World) (name : String) (v : Value) :
    ((w.setVariable name v).vars.entries.find? fun e => Text.sameName e.1 name) = some (w.variableKey name, v) := by
  refine NameMap.find?_insert (p := (Text.sameName · name)) v (w.sameName_variableKey name) fun e found => ?_
  rw [variableKey, found]
  rfl

theorem variableKey_setVariable (w : World) (name : String) (v : Value) :
    (w.setVariable name v).variableKey name = w.variableKey name := by
  rw [variableKey, find?_setVariable]
  rfl

/-! What is read. -/

theorem variableValue?_of_used (used : m ∈ w.vars.keys) : w.variableValue? m = w.vars.get? m := by
  obtain ⟨x, found⟩ := Option.isSome_iff_exists.1 (NameMap.isSome_get?.2 used)
  rw [variableValue?, found]

theorem variableValue?_of_unused (unused : m ∉ w.vars.keys) :
    w.variableValue? m = (w.vars.entries.find? fun e => Text.sameName e.1 m).map Prod.snd := by
  rw [variableValue?, Option.not_isSome_iff_eq_none.1 fun found => unused (NameMap.isSome_get?.1 found)]

theorem mem_keys_setVariable (w : World) (name : String) (v : Value) :
    m ∈ (w.setVariable name v).vars.keys ↔ m = w.variableKey name ∨ m ∈ w.vars.keys := NameMap.mem_keys_insert

/-- A write is read back under every spelling of the name that does not stand behind another one, and nowhere else. -/
theorem variableValue?_setVariable (w : World) (name : String) (v : Value) (m : String) :
    (w.setVariable name v).variableValue? m =
      if Text.sameName m name = true ∧ w.SpelledFirst m then some v else w.variableValue? m := by
  have exact : (w.setVariable name v).vars.get? m = if w.variableKey name = m then some v else w.vars.get? m :=
    NameMap.get?_insert w.vars _ m v
  by_cases same : Text.sameName m name = true
  · by_cases used : m ∈ w.vars.keys
    · have written := (mem_keys_setVariable w name v).2 (.inr used)
      rw [variableValue?_of_used written, variableValue?_of_used used, exact, ← variableKey_congr used same]
      simp [same, used, SpelledFirst]
    · have alike : w.SpelledFirst m := fun h => absurd h used
      rw [if_pos ⟨same, alike⟩]
      by_cases key : m = w.variableKey name
      · rw [variableValue?_of_used ((mem_keys_setVariable w name v).2 (.inl key)), exact, if_pos key.symm]
      · have unused : m ∉ (w.setVariable name v).vars.keys := fun mem =>
          ((mem_keys_setVariable w name v).1 mem).elim key used
        simp only [variableValue?_of_unused unused, Text.sameName_congr same, find?_setVariable, Option.map_some]
  · have unlike : Text.sameName (w.variableKey name) m = false := by
      rw [Text.sameName_comm, Text.sameName_congr (w.sameName_variableKey name)]
      exact Bool.eq_false_iff.2 same
    have other : w.variableKey name ≠ m := by
      rintro rfl
      exact same (w.sameName_variableKey name)
    rw [if_neg fun both => same both.1, variableValue?, exact, if_neg other, variableValue?, setVariable,
      NameMap.find?_insert_other (p := (Text.sameName · m)) w.vars v unlike]

/-- Among names that are distinct without regard to case, no spelling stands behind another one. -/
theorem spelledFirst_of_distinct (distinct : Text.Distinct w.vars.keys) (name : String) : w.SpelledFirst name := by
  intro used
  have same : Text.sameName name (w.variableKey name) = true := by
    rw [Text.sameName_comm]
    exact w.sameName_variableKey name
  exact (eq_variableKey distinct used same).symm

theorem SpelledFirst.setVariable (h : w.SpelledFirst name) (v : Value) : (w.setVariable name v).SpelledFirst name := by
  intro used
  rw [variableKey_setVariable]
  cases (mem_keys_setVariable w name v).1 used with
  | inl written => exact written.symm
  | inr used => exact h used

/-- What built-in nodes that are called one after the other make of the world. -/
def afterCalls (w : World) : List Call → World
  | [] => w
  | c :: rest => ((c.node.kind?.map fun t => (builtin t { c with world := w }).world).getD w).afterCalls rest

end World

/-- The node adds this whole number to the variable of this name. -/
structure Node.Increments (n : Node) (name : String) (step : Int64) : Prop where
  kind : n.kind? = some (.action .incrementVariable)
  name : Bag.getText? n.properties "Name" = some name
  amount : (Bag.find? n.properties "Amount").getD (.int 1) = .int step

theorem Node.Increments.world {c : Call} {name : String} {step current : Int64} (h : c.node.Increments name step)
    (reads : c.world.variableValue? name = some (.int current)) :
    (builtin (.action .incrementVariable) c).world = c.world.setVariable name (.int (Whole.plus current step)) := by
  have named : c.arg "Name" = some name := h.name
  show (Act.incrementVariable c).world = _
  simp only [Act.incrementVariable, Act.withArg, named, h.amount, reads, Option.getD_some, Act.sum]

namespace World

/-- Whole numbers that are added to a whole number one after the other add up, each sum moved into the range. -/
theorem variableValue?_increments {w : World} {name : String} {old : Int64}
    (reads : w.variableValue? name = some (.int old)) (first : w.SpelledFirst name) {calls : List Call}
    {steps : List Int64} (increments : List.Forall₂ (fun c step => c.node.Increments name step) calls steps) :
    (w.afterCalls calls).variableValue? name = some (.int (steps.foldl Whole.plus old)) := by
  induction increments generalizing w old with
  | nil => exact reads
  | @cons c step calls steps increment _ ih =>
    have written := Node.Increments.world (c := { c with world := w }) increment reads
    have again : (w.setVariable name (.int (Whole.plus old step))).variableValue? name = some (.int (Whole.plus old step)) := by
      rw [variableValue?_setVariable, if_pos ⟨Text.sameName_refl name, first⟩]
    rw [afterCalls, increment.kind, Option.map_some, Option.getD_some, written]
    exact ih again (first.setVariable _)

theorem toInt_foldl_plus (old : Int64) (steps : List Int64) :
    (steps.foldl Whole.plus old).toInt = steps.foldl (fun sum step => Whole.nearest (sum + step.toInt)) old.toInt := by
  induction steps generalizing old with
  | nil => rfl
  | cons step rest ih => rw [List.foldl_cons, ih, Whole.toInt_plus, List.foldl_cons]

/-- What is written to a variable is read under all spellings of its name, save one that is in use behind another, and
under no other name. Whole numbers that nodes add to a variable that reads as a whole number add up, and this is what
the node that gets the variable gives. -/
theorem variables_read_back (w : World) (name : String) (v : Value) :
    (∀ m, (w.setVariable name v).variableValue? m =
      if Text.sameName m name = true ∧ w.SpelledFirst m then some v else w.variableValue? m) ∧
    (Text.Distinct w.vars.keys → w.SpelledFirst name) ∧
    ∀ (old : Int64) (steps : List Int64) (calls : List Call), w.variableValue? name = some (.int old) →
      w.SpelledFirst name → List.Forall₂ (fun c step => c.node.Increments name step) calls steps →
      ∃ total : Int64,
        total.toInt = steps.foldl (fun sum step => Whole.nearest (sum + step.toInt)) old.toInt ∧
        (w.afterCalls calls).variableValue? name = some (.int total) ∧
        ∀ c : Call, c.arg "Name" = some name → c.world = w.afterCalls calls →
          (builtin (.source .getVariable) c).result =
            .ok { values := Table.empty.insert Port.value (.int total), next := .goOn Port.exec } := by
  refine ⟨w.variableValue?_setVariable name v, fun distinct => spelledFirst_of_distinct distinct name, ?_⟩
  intro old steps calls reads first increments
  have total := variableValue?_increments reads first increments
  refine ⟨_, toInt_foldl_plus old steps, total, fun c named world => ?_⟩
  have sees : Source.value .getVariable c = .ok (.int (steps.foldl Whole.plus old)) := by
    rw [Source.value, named, world, Option.bind_some, total, Option.getD_some]
  simp only [builtin, Source.handle, sees]
  rfl

end World

/-- Lifts the mood by so much. -/
def Node.stir (step : Int64) : Node where
  id := "stir"
  typeTag := "Action_IncrementVariable"
  properties := .ofList [("Name", .string " Mood "), ("Amount", .int step)]

theorem Node.stir_increments (step : Int64) : (stir step).Increments "Mood" step where
  kind := by
    have known : NodeType.ofTag? "Action_IncrementVariable" = some (.action .incrementVariable) := by
      rw [NodeType.ofTag?_eq]
      decide
    exact known
  name := by
    have trimmed : Text.trim " Mood " = "Mood" := by decide
    have held : Bag.getText? (stir step).properties "Name" = (some (Text.trim " Mood ")).filter fun s => s != "" := rfl
    rw [held, trimmed]
    decide
  amount := rfl

namespace World

/-- The mood goes up to the end of the range and down again. It is written as `MOOD`, as the nodes do not spell it in
any of the ways that are in use. -/
theorem variables_read_back_stir :
    let w : World := { vars := .ofList [("MOOD", .int (Int64.maxValue - 1)), ("mood", .int 2)] }
    let calls := [5, -3].map fun step =>
      ({ node := .stir step, graphId := "brew", inputPort := Port.exec, depth := 0, outputs := .empty, world := {},
         draws := .ofSeed 7 } : Call)
    w.variableValue? "Mood" = some (.int (Int64.maxValue - 1)) ∧ w.SpelledFirst "Mood" ∧
      List.Forall₂ (fun c step => c.node.Increments "Mood" step) calls [5, -3] ∧
      (w.afterCalls calls).variableValue? "Mood" = some (.int (Int64.maxValue - 3)) := by
  intro w calls
  have reads : w.variableValue? "Mood" = some (.int (Int64.maxValue - 1)) := by decide +kernel
  have first : w.SpelledFirst "Mood" := by decide +kernel
  have increments : List.Forall₂ (fun (c : Call) step => c.node.Increments "Mood" step) calls [5, -3] :=
    .cons (Node.stir_increments 5) (.cons (Node.stir_increments (-3)) .nil)
  obtain ⟨total, exact, again, -⟩ := (w.variables_read_back "Mood" .null).2.2 _ _ calls reads first increments
  have value : total = Int64.maxValue - 3 := by
    apply Int64.toInt_inj.1
    rw [exact]
    decide
  exact ⟨reads, first, increments, value ▸ again⟩

/-- A world that was read has two spellings of one name. What is written to the second one goes to the first. -/
theorem variable_not_read_back :
    let document : Json := .obj [("variables", .obj [("MOOD", .int 1), ("mood", .int 2)])]
    (World.ofJson? document).map (fun w => (w.setVariable "mood" (.int 5)).variableValue? "mood") =
      some (some (.int 2)) := by
  decide +kernel

end World

end StoryGraph
