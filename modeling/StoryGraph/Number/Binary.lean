/-!
Floats of 64 bits taken apart: a finite one is `± m · 2^q` with whole `m` and `q`. From these two
numbers come the whole part of a float, and the set of reals that the float stands for.
-/

namespace StoryGraph.Binary

/-- A finite float as a sign and `m · 2^q`. -/
structure Parts where
  negative : Bool
  m : Nat
  q : Int
deriving DecidableEq, Repr

/-- The parts of a float. An infinite float or one that is no number has none. -/
def parts? (x : Float) : Option Parts :=
  let bits : Nat := x.toBits.toNat
  let fraction : Nat := bits % Nat.pow 2 52
  let exponent : Nat := bits / Nat.pow 2 52 % Nat.pow 2 11
  let negative := bits / Nat.pow 2 63 == 1
  if exponent == 2047 then none
  else if exponent == 0 then some ⟨negative, fraction, -1074⟩
  else some ⟨negative, fraction + Nat.pow 2 52, (exponent : Int) - 1075⟩

/-- The magnitude with its fraction cut off. -/
def Parts.wholePart (p : Parts) : Nat :=
  if 0 ≤ p.q then p.m * Nat.pow 2 p.q.toNat else p.m / Nat.pow 2 (-p.q).toNat

/-- The whole part of a finite float, moved into the range of 64 bits. -/
def truncate? (x : Float) : Option Int64 :=
  (parts? x).map fun p =>
    Int64.ofIntClamp (if p.negative then -(p.wholePart : Int) else p.wholePart)

end StoryGraph.Binary
