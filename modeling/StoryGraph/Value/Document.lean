import StoryGraph.Value.Basic
import StoryGraph.Json.Record
import StoryGraph.Json.Writer

/-!
Values in documents. Whole numbers of 64 bits are integers and all other numbers floats; an array or
an object is kept as its text. Floats without a finite size are written as null.
-/

namespace StoryGraph.Value

def ofJson? : Json → Option Value
  | .null => some null
  | .bool b => some (bool b)
  | .int i => match (Json.int i).int64? with
    | some n => some (int n)
    | none => some (float (Float.ofInt i))
  | .float x => some (float x)
  | .str s => some (string s)
  | .arr items => (Json.arr items).canonical?.map fun j => string j.write
  | .obj fields => (Json.obj fields).canonical?.map fun j => string j.write
  | .unreadable => none

def toJson : Value → Json
  | null => .null
  | bool b => .bool b
  | int i => .int i.toInt
  | float x => if x.isFinite then .float x else .null
  | string s => .str s

end StoryGraph.Value
