import StoryGraph.Number.Whole

/-!
Decimal text of floats. A number is an optional sign, digits with at most one point among or beside
them, and an optional power of ten; the words for infinity and for no number are read in any case.
The float read is the one nearest to what is written.
-/

namespace StoryGraph.Decimal

/-- The float nearest to `m · 10^e`. Far from the range of floats the answer is zero or infinite,
and the power of ten is not computed. -/
def nearest (m : Nat) (e : Int) : Float :=
  if m == 0 then 0.0
  else if 400 < e then 1.0 / 0.0
  else if e < -400 - ((Nat.repr m).length : Int) then 0.0
  else if 0 ≤ e then Float.ofScientific m false e.toNat
  else Float.ofScientific m true (-e).toNat

/-- A power of ten with its sign, as it follows the mark `e`. -/
def exponent? (cs : List Char) : Option Int :=
  let (negative, ds) := Whole.splitSign cs
  if ds.isEmpty || !ds.all Char.isDigit then none
  else
    let n : Int := Whole.digitsValue 0 ds
    some (if negative then -n else n)

def isExponentMark (c : Char) : Bool := c == 'e' || c == 'E'

/-- Reads digits, a point and a power of ten, without a sign. -/
def magnitude? (cs : List Char) : Option Float :=
  let whole := cs.takeWhile Char.isDigit
  let afterWhole := cs.dropWhile Char.isDigit
  let (fraction, afterPoint) := match afterWhole with
    | '.' :: r => (r.takeWhile Char.isDigit, r.dropWhile Char.isDigit)
    | r => ([], r)
  if whole.isEmpty && fraction.isEmpty then none
  else
    let m := Whole.digitsValue 0 (whole ++ fraction)
    match afterPoint with
    | [] => some (nearest m (-(fraction.length : Int)))
    | c :: r =>
      if isExponentMark c then
        (exponent? r).map fun e => nearest m (e - fraction.length)
      else none

/-- Reads the whole text as one float. -/
def read? (s : String) : Option Float :=
  let (negative, cs) := Whole.splitSign s.toList
  let word := String.ofList (cs.map Char.toLower)
  let size :=
    if word == "inf" || word == "infinity" then some (1.0 / 0.0)
    else if word == "nan" then some (0.0 / 0.0)
    else magnitude? cs
  size.map fun x => if negative then -x else x

end StoryGraph.Decimal
