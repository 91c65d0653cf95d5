import StoryGraph.Property.Access
import StoryGraph.Value.Document

/-!
Property changes in documents. All fields must be there, and types are named exactly.
-/

namespace StoryGraph

def EntityType.ofJson? (j : Json) : Option EntityType := j.case? (all.map fun t => (t.name, t))

namespace Change

def ofJson? (j : Json) : Option Change := do
  let r ← j.record? ["entity_type", "entity_id", "property", "old_value", "new_value"]
  let entityType ← r.need "entity_type" EntityType.ofJson?
  let entityId ← r.need "entity_id" Json.text?
  let property ← r.need "property" Json.text?
  let oldValue ← r.need "old_value" Value.ofJson?
  let newValue ← r.need "new_value" Value.ofJson?
  return { entityType, entityId, property, oldValue, newValue }

def toJson (c : Change) : Json :=
  .obj [("entity_type", .str c.entityType.name), ("entity_id", .str c.entityId), ("property", .str c.property),
    ("old_value", c.oldValue.toJson), ("new_value", c.newValue.toJson)]

end Change

end StoryGraph
