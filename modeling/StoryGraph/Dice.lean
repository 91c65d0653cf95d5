/-!
Random draws. A draw is a number of 64 bits; a walk takes its draws one after the other from a stream.
The three questions that nodes ask of chance are each answered by one draw. A choice among nothing breaks
down.
-/

namespace StoryGraph

/-- The draws of a run, by their position. -/
abbrev Draws := Nat → UInt64

namespace Draws

def mix (z : UInt64) : UInt64 :=
  let z := (z ^^^ (z >>> 30)) * 0xBF58476D1CE4E5B9
  let z := (z ^^^ (z >>> 27)) * 0x94D049BB133111EB
  z ^^^ (z >>> 31)

/-- The stream of a seed: a counter that goes up by a fixed odd step, with its bits mixed. -/
def ofSeed (seed : UInt64) : Draws := fun n => mix (seed + UInt64.ofNat (n + 1) * 0x9E3779B97F4A7C15)

/-- The stream after `n` draws. -/
def skip (d : Draws) (n : Nat) : Draws := fun i => d (n + i)

end Draws

namespace Draw

/-- One of `n` cases. -/
def below (u : UInt64) (n : Nat) : Except String Nat :=
  if 0 < n then .ok (u.toNat % n) else .error "cannot sample empty range"

/-- A percentage, at least 0 and less than 100. -/
def percent (u : UInt64) : Float := (u >>> 11).toFloat / 9007199254740992.0 * 100.0

/-- A whole number between two bounds, both included. -/
def between (u : UInt64) (lo hi : Int64) : Except String Int64 :=
  (below u (hi.toInt - lo.toInt + 1).toNat).map fun i => Int64.ofInt (lo.toInt + i)

end Draw

end StoryGraph
