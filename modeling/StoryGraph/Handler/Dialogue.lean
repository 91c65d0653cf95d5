import StoryGraph.Handler.Action

/-!
Dialogue: lines that are spoken or told, and what people say in greeting.
-/

namespace StoryGraph

namespace Dialogue

/-- Who speaks: the given name, else the name of the person, else the person's id as given. -/
def speaker? (c : Call) : Option String :=
  match c.arg "Speaker" with
  | some s => some s
  | none =>
    (c.arg "NpcId").map fun id => match c.world.npc? id with
      | some n => if n.name == "" then id else n.name
      | none => id

def line (c : Call) (text : String) : String :=
  match speaker? c with
  | some s => s ++ ": " ++ text
  | none => text

def act (t : DialogueType) (c : Call) : Act :=
  match t with
  | .say => Act.withArg c "Text" fun s => { world := c.world, notices := [.showMessage (line c s)] }
  | .narrate => Act.withArg c "Text" fun s => { world := c.world, notices := [.showMessage s] }
  | .playVoice => Act.withArg c "SoundId" fun s => { world := c.world, notices := [.playSound s] }
  | .setGreeting =>
    Act.withNpc c fun n =>
      { world := c.world.modifyNpc n.id fun e =>
          { e with greeting := Bag.getString c.node.properties "Text" "" } }

def handle (t : DialogueType) (c : Call) : Response := (act t c).response

end Dialogue

end StoryGraph
