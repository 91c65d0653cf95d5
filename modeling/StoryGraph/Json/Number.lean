import StoryGraph.Number.Whole
import StoryGraph.Json.Basic

/-!
Numbers of a document. Digits alone are a whole number while they fit 64 bits. Every other number is
a float: its leading digits, as far as they fit 64 bits, are rounded to a float, which is then
multiplied or divided by a rounded power of ten.
-/

namespace StoryGraph.Json.Number

/-- The parts of a number as it is written. -/
structure Literal where
  negative : Bool
  whole : List Char
  fraction : Option (List Char)
  exponent : Option (Bool × List Char)

/-- Splits a number at its point and its mark `e`. The whole part has no needless zero in front, and
no part is empty. -/
def Literal.read? (cs : List Char) : Option Literal := do
  let (negative, cs) := match cs with
    | '-' :: r => (true, r)
    | r => (false, r)
  let whole := cs.takeWhile Char.isDigit
  let cs := cs.dropWhile Char.isDigit
  if whole.isEmpty || (whole.head? == some '0' && 1 < whole.length) then none
  let (fraction, cs) := match cs with
    | '.' :: r => (some (r.takeWhile Char.isDigit), r.dropWhile Char.isDigit)
    | r => (none, r)
  if fraction == some [] then none
  match cs with
  | [] => return ⟨negative, whole, fraction, none⟩
  | c :: r =>
    if c == 'e' || c == 'E' then
      let (down, ds) := Whole.splitSign r
      if ds.isEmpty || !ds.all Char.isDigit then none
      return ⟨negative, whole, fraction, some (down, ds)⟩
    else none

def digit (c : Char) : Nat := c.toNat - '0'.toNat

/-- The digits of the whole part that fit 64 bits, and the count of those left out. -/
def leading : Nat → List Char → Nat × Nat
  | n, [] => (n, 0)
  | n, c :: rest =>
    let next := n * 10 + digit c
    if next < UInt64.size then leading next rest else (n, rest.length + 1)

/-- Goes on with the digits after the point while they fit, and counts them. -/
def following : Nat → List Char → Nat × Nat
  | n, [] => (n, 0)
  | n, c :: rest =>
    let next := n * 10 + digit c
    if next < UInt64.size then
      let (n, used) := following next rest
      (n, used + 1)
    else (n, 0)

def powerOfTen (k : Nat) : Float := Float.ofScientific 1 false k

/-- `x · 10^e` by one multiplication, or by as many divisions as there are factors of `10^308`. No
answer if the product is too large. -/
def scale? (x : Float) (e : Int) : Option Float :=
  if 308 < e then if x == 0.0 then some x else none
  else if 0 ≤ e then
    let y := x * powerOfTen e.toNat
    if y.isInf then none else some y
  else if -308 ≤ e then some (x / powerOfTen (-e).toNat)
  else if x == 0.0 then some x
  else scale? (x / powerOfTen 308) (e + 308)
termination_by e.natAbs
decreasing_by omega

/-- The float of a number with a point, with a power of ten, or beyond 64 bits. -/
def Literal.toFloat? (l : Literal) : Option Float :=
  let (n, dropped) := leading 0 l.whole
  let (n, used) := following n (l.fraction.getD [])
  let e : Int := dropped - used
  let size := match l.exponent with
    | none => scale? (Float.ofNat n) e
    | some (down, ds) =>
      let k : Int := Whole.digitsValue 0 ds
      if Int32.maxValue.toInt < k then if n == 0 || down then some 0.0 else none
      else scale? (Float.ofNat n) (if down then e - k else e + k)
  size.map fun x => if l.negative then -x else x

def Literal.toJson (l : Literal) : Json :=
  let n := Whole.digitsValue 0 l.whole
  if l.fraction.isNone && l.exponent.isNone && n < UInt64.size then
    if !l.negative then int n
    else if 0 < n && Int64.minValue.toInt ≤ -(n : Int) then int (-(n : Int))
    else float (-(Float.ofNat n))
  else match l.toFloat? with
    | some x => float x
    | none => unreadable

/-- Reads a whole word as a number. -/
def read? (word : List Char) : Option Json := (Literal.read? word).map Literal.toJson

end StoryGraph.Json.Number
