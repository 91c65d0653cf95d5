import StoryGraph.Json.Token

/-!
Reading a document's text. Containers that are still open stand in a stack, innermost first; every
token either opens, fills or closes the innermost one.
-/

namespace StoryGraph.Json

namespace Reader

/-- A key as it was read; none if it holds half of a surrogate pair. -/
abbrev Key := Option String

/-- An open container, with what it holds so far, newest first. -/
inductive Frame where
  | array (items : List Json)
  | object (fields : List (Key × Json)) (key : Key)

/-- What must come next. -/
inductive State where
  | value (stack : List Frame)
  | firstItem (stack : List Frame)
  | firstKey (stack : List Frame)
  | key (stack : List Frame) (fields : List (Key × Json))
  | colon (stack : List Frame) (fields : List (Key × Json)) (key : Key)
  | after (stack : List Frame) (j : Json)

/-- Containers may stand in one another up to this depth. -/
def maxDepth : Nat := 127

/-- A container that closes with `outer` around it. -/
def close (outer : List Frame) (j : Json) : State :=
  .after outer (if outer.length < maxDepth then j else unreadable)

def closeObject (outer : List Frame) (fields : List (Key × Json)) : State :=
  match fields.reverse.mapM fun f => f.1.map fun k => (k, f.2) with
  | some fs => close outer (obj fs)
  | none => close outer unreadable

def begin? (stack : List Frame) : Token → Option State
  | .value j => some (.after stack j)
  | .text (some s) => some (.after stack (str s))
  | .text none => some (.after stack unreadable)
  | .openArr => some (.firstItem stack)
  | .openObj => some (.firstKey stack)
  | _ => none

def step? : State → Token → Option State
  | .value stack, t => begin? stack t
  | .firstItem stack, .closeArr => some (close stack (arr []))
  | .firstItem stack, t => begin? (.array [] :: stack) t
  | .firstKey stack, .closeObj => some (closeObject stack [])
  | .firstKey stack, .text k => some (.colon stack [] k)
  | .key stack fields, .text k => some (.colon stack fields k)
  | .colon stack fields k, .colon => some (.value (.object fields k :: stack))
  | .after (.array items :: outer) j, .comma => some (.value (.array (j :: items) :: outer))
  | .after (.array items :: outer) j, .closeArr => some (close outer (arr (j :: items).reverse))
  | .after (.object fields k :: outer) j, .comma => some (.key outer ((k, j) :: fields))
  | .after (.object fields k :: outer) j, .closeObj => some (closeObject outer ((k, j) :: fields))
  | _, _ => none

end Reader

/-- The tree of a text that holds one document and nothing else. -/
def read? (text : String) : Option Json := do
  let ts ← Token.tokens? .between [] text.toList
  match ← ts.foldlM Reader.step? (.value []) with
  | .after [] j => some j
  | _ => none

end StoryGraph.Json
