import StoryGraph.Property.Table
import StoryGraph.Value.Compare

/-!
Reading and writing one property of one entity. A write says whether it met a property at all and, if
so, whether the stored value became another one.
-/

namespace StoryGraph

/-- A write that made a stored value another one. -/
structure Change where
  entityType : EntityType
  entityId : String
  property : String
  oldValue : Value
  newValue : Value
deriving DecidableEq

/-- What became of a write. -/
inductive Outcome where
  /-- There is no such entity or property. -/
  | unmatched
  | unchanged
  | changed (c : Change)
deriving DecidableEq

namespace World

def getProperty? (w : World) (t : EntityType) (id property : String) : Option Value :=
  let key := Property.key property
  match t with
  | .room => do
    let e ← w.room? id
    let get ← Room.getter? key
    return get e
  | .door => do
    let e ← w.door? id
    let get ← Door.getter? key
    return get e
  | .npc => do
    let e ← w.npc? id
    let get ← Npc.getter? key
    return get e
  | .object => do
    let e ← w.object? id
    let get ← GameObject.getter? key
    return get e
  | .player => (Player.getter? key).map fun get => get w.player
  | .game => (GameState.getter? key).map fun get => get w.game

/-- The world after a write; none if there is no such entity or property. -/
def setProperty? (w : World) (t : EntityType) (id property : String) (v : Value) : Option World :=
  let key := Property.key property
  match t with
  | .room => do
    let _ ← w.room? id
    let set ← Room.setter? key
    return w.modifyRoom id (set v)
  | .door => do
    let _ ← w.door? id
    let set ← Door.setter? key
    return w.modifyDoor id (set v)
  | .npc => do
    let _ ← w.npc? id
    let set ← Npc.setter? key
    return w.modifyNpc id (set v)
  | .object => do
    let _ ← w.object? id
    let set ← GameObject.setter? key
    return w.modifyObject id (set v)
  | .player => (Player.setter? key).map fun set => { w with player := set v w.player }
  | .game => (GameState.setter? key).map fun set => { w with game := set v w.game }

/-- The spelling of an entity's id in the world, or the id as it is given. -/
def canonicalId (w : World) (t : EntityType) (id : String) : String :=
  let found := match t with
    | .room => (w.room? id).map Room.id
    | .door => (w.door? id).map Door.id
    | .npc => (w.npc? id).map Npc.id
    | .object => (w.object? id).map GameObject.id
    | .player => none
    | .game => none
  found.getD id

/-- Writes a property and tells what became of it. -/
def writeProperty (w : World) (t : EntityType) (id property : String) (v : Value) : World × Outcome :=
  match w.getProperty? t id property, w.setProperty? t id property v with
  | some old, some w' =>
    let new := (w'.getProperty? t id property).getD .null
    if old.same new then (w', .unchanged)
    else
      (w', .changed {
        entityType := t
        entityId := w'.canonicalId t id
        property := (t.canonicalProperty? property).getD (Text.trim property)
        oldValue := old
        newValue := new })
  | _, _ => (w, .unmatched)

end World

end StoryGraph
