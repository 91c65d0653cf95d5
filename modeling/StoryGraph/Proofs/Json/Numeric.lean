import StoryGraph.Proofs.Json.Bounded

/-!
Trees whose floats are all numbers. Main statement: a tree that is read from a text is one of them.
-/

namespace StoryGraph.Json

/-- The float stands somewhere in the tree. -/
inductive Holds (x : Float) : Json → Prop where
  | float : Holds x (.float x)
  | item {items : List Json} {i : Json} (mem : i ∈ items) (inner : Holds x i) : Holds x (.arr items)
  | field {fields : List (String × Json)} {f : String × Json} (mem : f ∈ fields) (inner : Holds x f.2) :
    Holds x (.obj fields)

/-- Every float in the tree is a number. -/
def Numeric (j : Json) : Prop := ∀ x, Holds x j → x.isNaN = false

theorem numeric_arr {items : List Json} : (arr items).Numeric ↔ ∀ i ∈ items, i.Numeric := by
  constructor
  · intro h i mem x inner
    exact h x (.item mem inner)
  · intro h x holds
    cases holds with
    | item mem inner => exact h _ mem x inner

theorem numeric_obj {fields : List (String × Json)} : (obj fields).Numeric ↔ ∀ f ∈ fields, f.2.Numeric := by
  constructor
  · intro h f mem x inner
    exact h x (.field mem inner)
  · intro h x holds
    cases holds with
    | field mem inner => exact h _ mem x inner

theorem numeric_float {x : Float} : (float x).Numeric ↔ x.isNaN = false := by
  constructor
  · intro h
    exact h x .float
  · intro h y holds
    cases holds
    exact h

/-- Neither a float nor a container. -/
def isPlain : Json → Bool
  | null | bool _ | int _ | str _ | unreadable => true
  | float _ | arr _ | obj _ => false

theorem numeric_of_isPlain {j : Json} (h : j.isPlain = true) : j.Numeric := by
  intro x holds
  cases holds <;> cases h

/-- Finite floats are numbers. -/
theorem Bounded.numeric {j : Json} (h : j.Bounded) : j.Numeric := by
  induction h with
  | null | bool | int | str | unreadable => exact numeric_of_isPlain rfl
  | float finite => exact numeric_float.2 (Binary.isNaN_of_isFinite finite)
  | arr _ ih => exact numeric_arr.2 ih
  | obj _ ih => exact numeric_obj.2 ih

theorem hereditary_numeric : Hereditary Numeric where
  null := numeric_of_isPlain rfl
  bool _ := numeric_of_isPlain rfl
  str _ := numeric_of_isPlain rfl
  unreadable := numeric_of_isPlain rfl
  number l := l.bounded_toJson.numeric
  arr := numeric_arr
  obj := numeric_obj

theorem numeric_read? {text : String} {j : Json} (h : read? text = some j) : j.Numeric := hereditary_numeric.read? h

end StoryGraph.Json
