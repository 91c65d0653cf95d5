import StoryGraph.Handler.Condition

/-!
Flow: nodes that choose where a walk goes on, and when.
-/

namespace StoryGraph

namespace Pause

/-- The longest pause: one second less a nanosecond beyond the seconds that 64 bits count. -/
def longest : Nat := UInt64.size * 1000000000 - 1

/-- The whole number nearest to `num / den`; of two, the even one. -/
def roundToEven (num den : Nat) : Nat :=
  let n := num / den
  let r := num % den
  if den < 2 * r || (2 * r == den && n % 2 == 1) then n + 1 else n

/-- Seconds as whole nanoseconds. What is negative or no number counts as zero, and what 64 bits of
seconds do not hold as the longest pause. -/
def ofSeconds (x : Float) : Nat :=
  if 0.0 < x then
    match Binary.parts? x with
    | none => longest
    | some p =>
      let nanos :=
        if 0 ≤ p.q then p.m * 1000000000 * Nat.pow 2 p.q.toNat
        else roundToEven (p.m * 1000000000) (Nat.pow 2 (-p.q).toNat)
      if p.wholePart < UInt64.size then nanos else longest
  else 0

/-- The milliseconds of thirty years. No wait takes longer. -/
def thirtyYears : Nat := 30 * 365 * 86400000

/-- The milliseconds for which a pause lasts, each begun one counted. -/
def millis (nanos : Nat) : Nat := min ((nanos + 999999) / 1000000) thirtyYears

end Pause

namespace Flow

def branch (c : Call) : Bool :=
  match c.arg "SourceNodeId" with
  | some source => (Condition.source? c source).any Value.toBool
  | none => Bag.getBool c.node.properties "Condition" false

/-- One of the outgoing ports. A draw beyond them breaks down. -/
def randomBranch (c : Call) : Except String Next := do
  let i ← Draw.below (c.draws 0) Port.outs.length
  match Port.outs[i]? with
  | some port => .ok (.goOn port)
  | none => .error "index out of bounds"

def next (t : FlowType) (c : Call) : Except String Next :=
  match t with
  | .branch => .ok (.goOn (if branch c then Port.yes else Port.no))
  | .sequence => .ok (.fork Port.steps)
  | .delay =>
    .ok (.wait ⟨c.node.id, Port.exec, Pause.ofSeconds (Bag.getFloat c.node.properties "Seconds" 1.0)⟩)
  | .randomBranch => randomBranch c

def drawn : FlowType → Nat
  | .randomBranch => 1
  | _ => 0

def handle (t : FlowType) (c : Call) : Response :=
  { world := c.world, drawn := drawn t, result := (next t c).map fun n => { next := n } }

end Flow

end StoryGraph
