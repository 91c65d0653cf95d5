import StoryGraph.Table
import StoryGraph.Value.Compare
import StoryGraph.Value.Document

/-!
Property bags: the settings that an author attached to a node. Reading never fails; a missing key or
a value of the wrong sort gives the default of the caller.
-/

namespace StoryGraph

/-- Values under names. The names are pairwise different, but may differ in case only. -/
abbrev Bag := Table String Value

namespace Bag

/-- The smaller of two entries by name. -/
def smaller (a b : String × Value) : String × Value := if b.1 < a.1 then b else a

/-- The entry with the smallest name. -/
def smallest? : List (String × Value) → Option (String × Value)
  | [] => none
  | e :: rest => some (rest.foldl smaller e)

/-- The value under exactly this name; else the one under the smallest name that differs from it only
in case. -/
def find? (b : Bag) (key : String) : Option Value :=
  match b.get? key with
  | some v => some v
  | none => (smallest? (b.entries.filter fun e => Text.sameName e.1 key)).map Prod.snd

/-- Names in order of their lowered form, and of themselves where that is equal. -/
def keyLe (a b : String) : Bool :=
  decide (Text.fold a < Text.fold b) || (Text.fold a == Text.fold b && decide (a ≤ b))

/-- The names that differ from another name of the bag only in case, in order. -/
def clashingKeys (b : Bag) : List String :=
  let sorted := b.keys.mergeSort keyLe
  ((sorted.splitBy Text.sameName).filter fun group => 1 < group.length).flatten

/-- Whether there is a value that is neither null nor a blank text. -/
def has (b : Bag) (key : String) : Bool :=
  match b.find? key with
  | none => false
  | some .null => false
  | some (.string s) => !Text.isBlank s
  | some _ => true

def getString (b : Bag) (key default : String) : String :=
  ((b.find? key).bind Value.toText?).getD default

/-- The trimmed text under a name, unless it is blank. -/
def getText? (b : Bag) (key : String) : Option String :=
  (((b.find? key).bind Value.toText?).map Text.trim).filter fun s => s != ""

def getInt (b : Bag) (key : String) (default : Int64) : Int64 :=
  ((b.find? key).bind Value.toInt?).getD default

def getFloat (b : Bag) (key : String) (default : Float) : Float :=
  ((b.find? key).bind Value.toFloat?).getD default

def getBool (b : Bag) (key : String) (default : Bool) : Bool :=
  ((b.find? key).bind Value.toBool?).getD default

def getValue (b : Bag) (key : String) : Value := (b.find? key).getD .null

def ofJson? (j : Json) : Option Bag := (j.pairs? Value.ofJson?).map Table.ofList

def toJson (b : Bag) : Json := .obj (b.entries.map fun e => (e.1, e.2.toJson))

end Bag

end StoryGraph
