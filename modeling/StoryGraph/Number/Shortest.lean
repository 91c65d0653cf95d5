import StoryGraph.Number.Binary

/-!
The fewest decimal digits that read back to a float. A float `m · 2^q` stands for the reals nearer to
it than to its neighbours. The digits are found on the coarsest decimal grid with a point in that
interval; of two such points the nearer one is taken, and the tie rule decides between equally near
ones.
-/

namespace StoryGraph.Shortest

/-- A decimal `digits · 10^power`. -/
structure Digits where
  digits : Nat
  power : Int
deriving DecidableEq, Repr

/-- Which of two equally near grid points is taken. -/
inductive Tie
  | upward
  | toEven
deriving DecidableEq, Repr

/-- An interval of positive rationals `low/den ≤ value/den ≤ high/den`, with its ends or without. -/
structure Interval where
  low : Nat
  value : Nat
  high : Nat
  den : Nat
  closed : Bool

/-- The reals that round to `m · 2^q`. The gap below a power of two is half as wide. -/
def Interval.of (m : Nat) (q : Int) : Interval :=
  let down := if m == Nat.pow 2 52 && decide (-1074 < q) then 1 else 2
  let e := q - 2
  let up := if 0 ≤ e then Nat.pow 2 e.toNat else 1
  let den := if 0 ≤ e then 1 else Nat.pow 2 (-e).toNat
  ⟨(4 * m - down) * up, 4 * m * up, (4 * m + 2) * up, den, m % 2 == 0⟩

/-- The interval with every bound divided by `10^k`. -/
def Interval.scale (i : Interval) (k : Int) : Interval :=
  if 0 ≤ k then { i with den := i.den * Nat.pow 10 k.toNat }
  else
    let t := Nat.pow 10 (-k).toNat
    { i with low := i.low * t, value := i.value * t, high := i.high * t }

def Interval.holds (i : Interval) (n : Nat) : Bool :=
  let x := n * i.den
  if i.closed then decide (i.low ≤ x ∧ x ≤ i.high) else decide (i.low < x ∧ x < i.high)

/-- The power of ten of the leading digit of `num / den`. -/
def leadingPower (num den : Nat) : Int :=
  if den ≤ num then ((Nat.repr (num / den)).length : Int) - 1
  else
    let t := (Nat.repr (den / num)).length - 1
    if den ≤ num * Nat.pow 10 t then -(t : Int) else -(t : Int) - 1

/-- The point of the whole-number grid in the interval that is nearest to its value, if any. -/
def Interval.nearestPoint? (tie : Tie) (i : Interval) : Option Nat :=
  let lo := i.value / i.den
  let below := i.value % i.den
  let above := i.den - below
  match i.holds lo && decide (0 < lo), i.holds (lo + 1) with
  | false, false => none
  | true, false => some lo
  | false, true => some (lo + 1)
  | true, true =>
    if below < above then some lo
    else if above < below then some (lo + 1)
    else match tie with
      | .upward => some (lo + 1)
      | .toEven => some (if lo % 2 == 0 then lo else lo + 1)

/-- Drops the zeros at the end of the digits, at most `fuel` of them. -/
def Digits.trimZeros : Nat → Digits → Digits
  | 0, d => d
  | fuel + 1, d =>
    if d.digits % 10 == 0 then trimZeros fuel ⟨d.digits / 10, d.power + 1⟩ else d

/-- The shortest decimal that reads back to `m · 2^q`, where `0 < m`. Seventeen digits suffice. -/
def shortest (tie : Tie) (m : Nat) (q : Int) : Digits :=
  let i := Interval.of m q
  let lead := leadingPower i.value i.den
  let hit := (List.range 17).findSome? fun (n : Nat) =>
    let k := lead - n
    ((i.scale k).nearestPoint? tie).map fun d => Digits.mk d k
  (hit.getD ⟨i.value, 0⟩).trimZeros 20

end StoryGraph.Shortest
