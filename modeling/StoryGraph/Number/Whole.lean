/-!
Whole numbers of 64 bits: sums and differences that stop at the ends of the range, the reading of
decimal text, and the way to floats and back. An operation that breaks down outside of its domain gives a
text that says why, or takes a proof that it is inside.
-/

namespace StoryGraph.Whole

/-- The sum, or the end of the range that it would pass. -/
def plus (a b : Int64) : Int64 := Int64.ofIntClamp (a.toInt + b.toInt)

/-- The difference, or the end of the range that it would pass. -/
def minus (a b : Int64) : Int64 := Int64.ofIntClamp (a.toInt - b.toInt)

/-- The sum as such, which breaks down beyond the range. -/
def add (a b : Int64) : Except String Int64 :=
  let i := a.toInt + b.toInt
  if Int64.minValue.toInt ≤ i ∧ i ≤ Int64.maxValue.toInt then .ok (Int64.ofInt i)
  else .error "attempt to add with overflow"

/-- The number moved into `lo .. hi`, which must not be empty. -/
def clampTo (lo hi a : Int64) (_ : lo ≤ hi) : Int64 := max lo (min a hi)

theorem le_max_right (a b : Int64) : b ≤ max a b := by
  show b ≤ if a ≤ b then b else a
  split
  · exact Int64.le_refl b
  · rename_i h
    exact (Int64.le_total a b).resolve_left h

/-- The hour of the day that a count of hours ends at. -/
def hourOf (a : Int64) : Int64 := Int64.ofInt (a.toInt % 24)

/-- The value of a row of decimal digits read after `acc`. -/
def digitsValue (acc : Nat) (ds : List Char) : Nat :=
  ds.foldl (fun n c => n * 10 + (c.toNat - '0'.toNat)) acc

/-- The sign in front of a number, and what follows it. -/
def splitSign : List Char → Bool × List Char
  | '-' :: cs => (true, cs)
  | '+' :: cs => (false, cs)
  | cs => (false, cs)

/-- Reads an optional sign and one or more digits; refuses what lies outside the range. -/
def read? (s : String) : Option Int64 :=
  let (negative, ds) := splitSign s.toList
  if ds.isEmpty || !ds.all Char.isDigit then none
  else
    let n : Int := digitsValue 0 ds
    let i := if negative then -n else n
    if Int64.minValue.toInt ≤ i ∧ i ≤ Int64.maxValue.toInt then some (Int64.ofInt i) else none

/-- The decimal text, with a sign only if negative. -/
def write (a : Int64) : String := toString a.toInt

/-- The nearest float; of two, the one with the even last bit. -/
def toFloat (a : Int64) : Float := Float.ofInt a.toInt

end StoryGraph.Whole
