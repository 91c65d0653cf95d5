import StoryGraph.Sorted

/-!
Documents as trees. A tree read from text keeps the fields of an object in the order and number in
which they were written; `canonical?` gives the tree that stands for the same data with every key
once and in ascending order.
-/

namespace StoryGraph

/-- A document tree. `unreadable` stands for a part that is well formed but has no value: a number
too large for a float, half of a surrogate pair, or nesting that is too deep. -/
inductive Json where
  | null
  | bool (b : Bool)
  | int (i : Int)
  | float (x : Float)
  | str (s : String)
  | arr (items : List Json)
  | obj (fields : List (String × Json))
  | unreadable

namespace Json

mutual

/-- The tree with sorted objects, in which the last of equal keys counts. Refuses a tree with an
unreadable part. -/
def canonical? : Json → Option Json
  | null => some null
  | bool b => some (bool b)
  | int i => some (int i)
  | float x => some (float x)
  | str s => some (str s)
  | arr items => (canonicalItems? items).map arr
  | obj fields => (canonicalFields? fields).map fun fs => obj (NameMap.ofList fs).entries
  | unreadable => none

def canonicalItems? : List Json → Option (List Json)
  | [] => some []
  | j :: rest => do
    let j ← canonical? j
    let rest ← canonicalItems? rest
    return j :: rest

def canonicalFields? : List (String × Json) → Option (List (String × Json))
  | [] => some []
  | (k, j) :: rest => do
    let j ← canonical? j
    let rest ← canonicalFields? rest
    return (k, j) :: rest

end

end Json

end StoryGraph
