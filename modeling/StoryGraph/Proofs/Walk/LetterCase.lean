import StoryGraph.Proofs.Walk.Tandem

/-!
Letter case and the routing of walks. Connections, owners, tags and the types of nodes are names, and names are the
same in any case. Main statement: an engine whose graphs are written in another case, on occasions that are written
in another case, makes the same walks and comes to the same run.
-/

namespace StoryGraph

/-- The graph that starts itself again, in another case. -/
def Graph.echoRecased : Graph where
  id := "echo"
  ownerType := "GAME"
  ownerId := "*"
  nodes := [{ id := "start", typeTag := "event_onGAMEstart" },
    { id := "again", typeTag := "ACTION_TriggerEvent",
      properties := ((Table.empty.insert "OwnerType" (.string "Game")).insert "OwnerId" (.string "g")).insert
        "EventTag" (.string "Event_OnGameStart") }]
  connections := [⟨"START", "exec", "Again", "EXEC"⟩]

namespace Surroundings

variable (s : Surroundings) {l' : Library}

/-- The same engine over graphs that are written alike, on the very same run. -/
theorem tandem_recased (library : s.library.Alike l') : Tandem s { s with library := l' } Eq where
  registry := rfl
  timer := rfl
  draws := rfl
  library := library
  steps := Nat.le_refl _
  levels := Nat.le_refl _
  world same := by rw [same]
  drawn same := by rw [same]
  absorb same t c := by rw [same]
  pause same millis := by
    subst same
    exact ⟨rfl, rfl⟩
  told same text := by rw [same]

theorem spares_recased (l' : Library) (depth : Nat) (d : Departure) :
    s.Spares { s with library := l' } depth depth d :=
  ⟨.inl rfl, .inl rfl⟩

/-- Letter case never matters to which walks are made, how they end, and what they leave. -/
theorem start_recased (builtins : s.registry.IsBuiltin) (library : s.library.Alike l') {o o' : Occasion}
    (occasion : o.Alike o') (depth : Nat) (r : Run) :
    ({ s with library := l' } : Surroundings).start depth o' r = s.start depth o r := by
  have same := start_alike (s.tandem_recased library) builtins depth occasion (Eq.refl r)
    fun d _ => s.spares_recased l' depth d
  exact Prod.ext same.result same.run.symm

theorem start_recased_echo :
    let s : Surroundings :=
      { registry := .builtins, library := [Graph.echo],
        settings := { maxWalkSteps := 2, maxFanoutDepth := 3 }, draws := .ofSeed 7 }
    let o : Occasion := .event "Game" "g" "Event_OnGameStart"
    let o' : Occasion := .event "game" "G" "EVENT_OnGameStart"
    s.registry.IsBuiltin ∧ s.library.Alike [Graph.echoRecased] ∧ o.Alike o' ∧
      (o'.entries [Graph.echoRecased]).length = 1 ∧
      ({ s with library := [Graph.echoRecased] } : Surroundings).start 0 o' { world := {} } =
        s.start 0 o { world := {} } := by
  intro s o o'
  have builtins : s.registry.IsBuiltin := Registry.isBuiltin_builtins
  have nodes : List.Forall₂ Node.Alike Graph.echo.nodes Graph.echoRecased.nodes :=
    .cons ⟨rfl, rfl, rfl, by decide +kernel⟩ (.cons ⟨rfl, rfl, rfl, by decide +kernel⟩ .nil)
  have connections : List.Forall₂ Connection.Alike Graph.echo.connections Graph.echoRecased.connections :=
    .cons ⟨by decide +kernel, by decide +kernel, by decide +kernel, by decide +kernel⟩ .nil
  have library : s.library.Alike [Graph.echoRecased] :=
    .cons ⟨rfl, by decide +kernel, rfl, rfl, nodes, connections⟩ .nil
  have occasion : o.Alike o' := .event (by decide +kernel) (by decide +kernel) (by decide +kernel)
  exact ⟨builtins, library, occasion, by decide +kernel, s.start_recased builtins library occasion 0 { world := {} }⟩

end Surroundings

end StoryGraph
