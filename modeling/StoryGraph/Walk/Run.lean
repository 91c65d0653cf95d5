import StoryGraph.Engine.Settings
import StoryGraph.Handler.Flow
import StoryGraph.Library
import StoryGraph.Walk.Report

/-!
What walks share: the surroundings, which stay as they are, and the run, which goes on from walk to
walk: the world, the clock, and what has been sent and logged. The clock counts milliseconds and moves
only in pauses.
-/

namespace StoryGraph

/-- When the engine is told to shut down: at an instant, and when so many pauses have come to their end.
The count tells apart what happens at one and the same instant. -/
structure Moment where
  instant : Nat
  pauses : Nat := 0
deriving DecidableEq, Repr

/-- What does not change during a run. -/
structure Surroundings where
  registry : Registry
  library : Library
  settings : Settings
  /-- When the engine is told to shut down, if it is. -/
  shutdownAt : Option Moment := none
  /-- The milliseconds that a pause of so many nanoseconds takes. -/
  timer : Nat → Nat := Pause.millis
  draws : Draws

/-- The state of a run. -/
structure Run where
  world : World
  now : Nat := 0
  /-- How many pauses have come to their end. -/
  pauses : Nat := 0
  /-- How many draws have been taken. -/
  drawn : Nat := 0
  /-- What the host was sent, and when. -/
  events : List (Nat × HostEvent) := []
  /-- What scripts logged, and when. -/
  logs : List (Nat × LogLine) := []

/-- Whether the moment comes before a pause that begins now is over, or just as it is. -/
def Moment.ComesWithin (m : Moment) (millis : Nat) (r : Run) : Prop :=
  m.pauses ≤ r.pauses ∧ m.instant ≤ r.now + millis

instance (m : Moment) (millis : Nat) (r : Run) : Decidable (m.ComesWithin millis r) :=
  inferInstanceAs (Decidable (_ ∧ _))

namespace Run

def notify (r : Run) (e : HostEvent) : Run := { r with events := r.events ++ [(r.now, e)] }

/-- Tells the host of a fault, if the settings say so. -/
def diagnose (s : Settings) (text : String) (r : Run) : Run :=
  if s.reportDiagnostics then r.notify (.diagnostic text) else r

/-- Takes over what a handler did. -/
def absorb (r : Run) (a : Response) : Run :=
  { r with
    world := a.world, drawn := r.drawn + a.drawn
    events := r.events ++ a.notices.map fun e => (r.now, e)
    logs := r.logs ++ a.logs.map fun l => (r.now, l) }

/-- A pause of some milliseconds comes to its end. -/
def wake (r : Run) (millis : Nat) : Run := { r with now := r.now + millis, pauses := r.pauses + 1 }

/-- Waits for some milliseconds, unless the engine is told to shut down meanwhile. -/
def pause (s : Surroundings) (millis : Nat) (r : Run) : Option Fault × Run :=
  match s.shutdownAt with
  | none => (none, r.wake millis)
  | some m =>
    if m.ComesWithin millis r then (some .cancelled, { r with now := max r.now m.instant })
    else (none, r.wake millis)

end Run

end StoryGraph
