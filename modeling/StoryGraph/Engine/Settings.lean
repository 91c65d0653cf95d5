import StoryGraph.Json.Record

/-!
The limits and switches of an engine. Each has a default.
-/

namespace StoryGraph

structure Settings where
  /-- Steps that one walk may take, all its branches together. -/
  maxWalkSteps : Nat := 10000
  /-- How deep triggers may be nested in one another. -/
  maxFanoutDepth : Nat := 8
  /-- A fixed seed for the random nodes. -/
  rngSeed : Option Nat := none
  /-- How many commands wait in the queue of a running engine. -/
  commandQueueCapacity : Nat := 256
  /-- Whether the host hears of walks that were aborted or failed. -/
  reportDiagnostics : Bool := true
deriving DecidableEq, Repr

namespace Settings

def fieldNames : List String :=
  ["max_walk_steps", "max_fanout_depth", "rng_seed", "command_queue_capacity", "report_diagnostics"]

def ofJson? (j : Json) : Option Settings := do
  let d : Settings := {}
  let r ← j.record? fieldNames
  let maxWalkSteps ← r.get "max_walk_steps" Json.natural? d.maxWalkSteps
  let maxFanoutDepth ← r.get "max_fanout_depth" Json.natural? d.maxFanoutDepth
  let rngSeed ← r.get "rng_seed" (Json.optional? Json.natural?) d.rngSeed
  let commandQueueCapacity ← r.get "command_queue_capacity" Json.natural? d.commandQueueCapacity
  let reportDiagnostics ← r.get "report_diagnostics" Json.flag? d.reportDiagnostics
  return { maxWalkSteps, maxFanoutDepth, rngSeed, commandQueueCapacity, reportDiagnostics }

def toJson (s : Settings) : Json :=
  .obj <|
    [("max_walk_steps", .int s.maxWalkSteps), ("max_fanout_depth", .int s.maxFanoutDepth)] ++
    (match s.rngSeed with
      | some n => [("rng_seed", .int n)]
      | none => []) ++
    [("command_queue_capacity", .int s.commandQueueCapacity), ("report_diagnostics", .bool s.reportDiagnostics)]

end Settings

end StoryGraph
