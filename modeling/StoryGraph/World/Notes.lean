import StoryGraph.World.Lookup

/-!
What scripts note down in a world: flags, variables, and what the player carries. All are named
without regard to case.
-/

namespace StoryGraph

namespace Player

def hasItem (p : Player) (id : String) : Bool := p.inventory.any fun i => Text.sameName i id

/-- Puts an item at the end of the inventory unless it is there. -/
def addItem (p : Player) (id : String) : Player :=
  if p.hasItem id then p else { p with inventory := p.inventory ++ [id] }

/-- Whether an item that is to be added was not there before. -/
def addsItem (p : Player) (id : String) : Bool := !p.hasItem id

def removeItem (p : Player) (id : String) : Player :=
  { p with inventory := p.inventory.filter fun i => !Text.sameName i id }

/-- Whether fewer items are left when one is removed. -/
def removesItem (p : Player) (id : String) : Bool := (p.removeItem id).inventory.length != p.inventory.length

end Player

namespace World

def hasFlag (w : World) (flag : String) : Bool := w.flags.names.any fun f => Text.sameName f flag

def setFlag (w : World) (flag : String) : World :=
  if w.hasFlag flag then w else { w with flags := w.flags.insert flag }

def clearFlag (w : World) (flag : String) : World :=
  { w with flags := w.flags.filter fun f => !Text.sameName f flag }

/-- The variable of exactly this name, or else the first one that differs only in case. -/
def variableValue? (w : World) (name : String) : Option Value :=
  match w.vars.get? name with
  | some v => some v
  | none => (w.vars.entries.find? fun e => Text.sameName e.1 name).map Prod.snd

/-- The spelling under which a variable of this name is stored. -/
def variableKey (w : World) (name : String) : String :=
  ((w.vars.entries.find? fun e => Text.sameName e.1 name).map Prod.fst).getD name

/-- Stores a value under the first spelling of the name that is in use. -/
def setVariable (w : World) (name : String) (v : Value) : World :=
  { w with vars := w.vars.insert (w.variableKey name) v }

/-- The spelling of an object's id in the world, or the id as it is given. -/
def canonicalObjectId (w : World) (id : String) : String :=
  ((w.object? id).map GameObject.id).getD id

/-- Moves an object from the room that holds it to the player. -/
def giveItem (w : World) (id : String) : World :=
  let id := w.canonicalObjectId id
  let w := w.modifyObject id fun o => { o with roomId := "" }
  { w with player := w.player.addItem id }

def takeItem (w : World) (id : String) : World := { w with player := w.player.removeItem id }

end World

end StoryGraph
