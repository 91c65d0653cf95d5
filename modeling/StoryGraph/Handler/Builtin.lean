import StoryGraph.Handler.Dialogue
import StoryGraph.Handler.Flow
import StoryGraph.Handler.Source

/-!
The handlers that come with the engine: one for every type of the catalog. Events are entry points
and only go on.
-/

namespace StoryGraph

def builtin : NodeType → Handler
  | .event _ => fun c => { world := c.world, result := .ok { next := .goOn Port.exec } }
  | .condition t => Condition.handle t
  | .action t => Act.handle t
  | .flow t => Flow.handle t
  | .source t => Source.handle t
  | .dialogue t => Dialogue.handle t

def Registry.builtins : Registry := fun t => some (builtin t)

end StoryGraph
