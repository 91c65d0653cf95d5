import StoryGraph.Walk.Fanout

/-!
What a host can ask of an engine. Every request runs to its end, the walks that it starts included,
before the next one.
-/

namespace StoryGraph

inductive EngineError where
  | unknownEntityType (name : String)
  | unknownTarget (entityType : EntityType) (entityId property : String)
  | notRunning
  | channelClosed
deriving DecidableEq, Repr

namespace EngineError

def message : EngineError → String
  | unknownEntityType name => "Unknown entity type: " ++ name
  | unknownTarget t id property => "No property '" ++ property ++ "' on " ++ t.name ++ " '" ++ id ++ "'"
  | notRunning => "Engine not running"
  | channelClosed => "Channel closed"

end EngineError

/-- What became of a property that a host wrote. -/
structure PropertyUpdate where
  /-- None if the value was there already. -/
  change : Option Change
  walks : List WalkReport

namespace Surroundings

def setProperty (s : Surroundings) (type id property : String) (v : Value) (r : Run) :
    Except EngineError PropertyUpdate × Run :=
  match EntityType.ofName? type with
  | none => (.error (.unknownEntityType type), r)
  | some t =>
    match r.world.writeProperty t id property v with
    | (_, .unmatched) => (.error (.unknownTarget t id property), r)
    | (w, .unchanged) => (.ok ⟨none, []⟩, { r with world := w })
    | (w, .changed change) =>
      let (walks, r) := s.announce 0 change { r with world := w }
      (.ok ⟨some change, walks⟩, r)

end Surroundings

namespace World

def askProperty (w : World) (type id property : String) : Except EngineError Value :=
  match EntityType.ofName? type with
  | none => .error (.unknownEntityType type)
  | some t =>
    match w.getProperty? t id property with
    | some v => .ok v
    | none => .error (.unknownTarget t id property)

/-- The world one turn later: modifiers that have run out are gone, and a combat is in its next
round. -/
def tick (w : World) : World :=
  { w with
    game := { w.game with turn := Whole.plus w.game.turn 1 }
    modifiers := (w.modifiers.map fun m => { m with remainingTurns := Whole.minus m.remainingTurns 1 }).filter
      fun m => decide (0 < m.remainingTurns)
    combat := w.combat.map fun c => { c with round := Whole.plus c.round 1 } }

end World

/-- Ends the turn and tells every graph that waits for the end of a turn. -/
def Surroundings.advanceTurn (s : Surroundings) (r : Run) : TriggerReport × Run :=
  s.broadcast 0 (NodeType.event .onTurnEnd).tag { r with world := r.world.tick }

/-- The requests that can be queued for a running engine. -/
inductive Command where
  | trigger (ownerType ownerId tag : String)
  | executeNode (n : Node)
  | setProperty (type id property : String) (v : Value)
  | getProperty (type id property : String)
  | advanceTurn
  | snapshot

/-- The answers to them. -/
inductive Reply where
  | report (r : TriggerReport)
  | walk (r : WalkReport)
  | update (u : Except EngineError PropertyUpdate)
  | value (v : Except EngineError Value)
  | world (w : World)

/-- Carries out one request. -/
def Command.perform (s : Surroundings) (c : Command) (r : Run) : Reply × Run :=
  match c with
  | .trigger ownerType ownerId tag =>
    let (report, r) := s.trigger 0 ownerType ownerId tag r
    (.report report, r)
  | .executeNode n =>
    let (report, r) := s.single n r
    (.walk report, r)
  | .setProperty type id property v =>
    let (update, r) := s.setProperty type id property v r
    (.update update, r)
  | .getProperty type id property => (.value (r.world.askProperty type id property), r)
  | .advanceTurn =>
    let (report, r) := s.advanceTurn r
    (.report report, r)
  | .snapshot => (.world r.world, r)

end StoryGraph
