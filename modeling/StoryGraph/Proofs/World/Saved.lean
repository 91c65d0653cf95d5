import StoryGraph.Proofs.NodeType.Tags
import StoryGraph.Proofs.World.Weights

/-!
Saved games. Main statement: a world that was read from a text and on which a host has made any requests, with the
built-in handlers, is read again from its document, unless a weight has become infinite.
-/

namespace StoryGraph

namespace Surroundings

/-- A world that has been loaded and played can be saved and loaded, if no weight is infinite. It is the same world
then, but for variables that are infinite or no numbers: they are null in it. -/
theorem served_world_loads (s : Surroundings) (builtins : s.registry.IsBuiltin) {text : String} {r : Run}
    (loaded : (Json.read? text).bind World.ofJson? = some r.world) (calls : List (Nat × Command)) :
    let w := (s.serve calls r).2.world
    (∀ e ∈ w.objects, e.weight.isNaN = false) ∧
      ((∀ e ∈ w.objects, e.weight.isInf = false) → World.ofJson? w.toJson = some w.settled) ∧
      ((∀ e ∈ w.vars.entries, e.2.isFinite = true) → w.settled = w) := by
  intro w
  obtain ⟨j, read, world⟩ := Option.bind_eq_some_iff.1 loaded
  have weighed : w.Weighed :=
    World.invariant_weighed.serve builtins calls (World.weighed_ofJson? world (Json.numeric_read? read))
  refine ⟨weighed, fun bounded => ?_, World.settled_eq⟩
  exact World.ofJson?_toJson fun e mem => Binary.isFinite_of_isNaN_of_isInf (weighed e mem) (bounded e mem)

theorem served_world_loads_lamp :
    let s : Surroundings := { registry := .builtins, library := [], settings := {}, draws := .ofSeed 7 }
    let text := "\x7b\"objects\":[\x7b\"id\":\"lamp\",\"weight\":2\x7d]\x7d"
    let r : Run := { world := { objects := [{ id := "lamp", weight := Float.ofInt 2 }] } }
    let calls := [(0, Command.setProperty "Object" "lamp" "Weight" (.string "1.5")), (0, .advanceTurn)]
    let w := (s.serve calls r).2.world
    s.registry.IsBuiltin ∧ (Json.read? text).bind World.ofJson? = some r.world ∧
      (∀ e ∈ w.objects, e.weight.isInf = false) ∧ World.ofJson? w.toJson = some w := by
  intro s text r calls w
  have loaded : (Json.read? text).bind World.ofJson? = some r.world := by
    simp only [text, r]
    rfl
  have bounded : ∀ e ∈ w.objects, e.weight.isInf = false := by decide +kernel
  obtain ⟨-, loads, same⟩ := s.served_world_loads Registry.isBuiltin_builtins loaded calls
  have back : World.ofJson? w.toJson = some w.settled := loads bounded
  rw [same (by decide +kernel)] at back
  exact ⟨Registry.isBuiltin_builtins, loaded, bounded, back⟩

end Surroundings

/-- Adds a text to a variable, as a float. -/
def Node.pour : Node where
  id := "pour"
  typeTag := "Action_IncrementVariable"
  properties := .ofList [("Name", .string "sand"), ("Amount", .string "inf")]

namespace Surroundings

/-- A variable that has become infinite comes back as null, and with an infinite weight nothing comes back. -/
theorem infinite_not_loaded :
    let s : Surroundings := { registry := .builtins, library := [], settings := {}, draws := .ofSeed 7 }
    let poured := (s.serve [(0, .executeNode .pour)] { world := {} }).2.world
    let weighted := (s.serve [(0, .setProperty "Object" "lamp" "Weight" (.float (1.0 / 0.0)))]
      { world := { objects := [{ id := "lamp" }] } }).2.world
    ((Json.read? "\x7b\x7d").bind World.ofJson? = some {} ∧
      poured.variableValue? "sand" = some (.float (1.0 / 0.0)) ∧
      (World.ofJson? poured.toJson).map (fun w => w.variableValue? "sand") = some (some .null)) ∧
    ((Json.read? "\x7b\"objects\":[\x7b\"id\":\"lamp\"\x7d]\x7d").bind World.ofJson? =
        some { objects := [{ id := "lamp" }] } ∧
      World.ofJson? weighted.toJson = none) := by
  intro s poured weighted
  have kind : Node.pour.kind? = some (.action .incrementVariable) := by
    rw [Node.kind?, NodeType.ofTag?_eq]
    decide +kernel
  have handler : s.registry.handlerFor .pour = some (builtin (.action .incrementVariable)) := by
    rw [Registry.handlerFor, kind]
    rfl
  have after : poured = (Act.incrementVariable (Walk.call s (.single .pour) 0 .pour ⟨"pour", Port.exec, []⟩
      { run := { world := {} } })).world := by
    simp only [poured, serve, Command.perform]
    rw [single_plain _ handler (by decide) (Act.fits_of .incrementVariable _).response]
    rfl
  have lost : poured.variableValue? "sand" = some (.float (1.0 / 0.0)) ∧
      (World.ofJson? poured.toJson).map (fun w => w.variableValue? "sand") = some (some .null) := by
    rw [after]
    decide +kernel
  exact ⟨⟨rfl, lost⟩, rfl, rfl⟩

end Surroundings

end StoryGraph
