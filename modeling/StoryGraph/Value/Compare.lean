import StoryGraph.Value.Basic

/-!
Three ways to compare values: sameness, which only joins integers with floats; the loose equality
that authors use; and an order that is numeric where both sides read as numbers.
-/

namespace StoryGraph.Value

/-- The order of two floats; none if one of them is no number. -/
def compareFloats (x y : Float) : Option Ordering :=
  if x < y then some .lt
  else if x == y then some .eq
  else if y < x then some .gt
  else none

/-- Values of one kind with one content; an integer is also the same as the float of its size. -/
def same : Value → Value → Bool
  | null, null => true
  | bool a, bool b => a == b
  | int a, int b => a == b
  | float a, float b => a == b
  | int a, float b => Whole.toFloat a == b
  | float a, int b => Whole.toFloat b == a
  | string a, string b => a == b
  | _, _ => false

def compareNumbers (a b : Value) : Option Ordering := do compareFloats (← a.toFloat?) (← b.toFloat?)

/-- Two texts that do not both spell numbers are ordered by their characters. -/
def compare : Value → Value → Option Ordering
  | string a, string b => match (string a).toFloat?, (string b).toFloat? with
    | some x, some y => compareFloats x y
    | _, _ => some (compareOfLessAndEq a b)
  | a, b => compareNumbers a b

/-- A flag equals what reads as that flag; two numbers are equal by size; all else is compared as
text without case. Null equals only null. -/
def looselyEquals : Value → Value → Bool
  | null, null => true
  | null, _ => false
  | _, null => false
  | bool a, b => b.toBool? == some a
  | a, bool b => a.toBool? == some b
  | a, b => match a.toFloat?, b.toFloat? with
    | some x, some y => x == y
    | _, _ => Text.sameName a.toText b.toText

end StoryGraph.Value
