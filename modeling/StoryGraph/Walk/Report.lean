/-!
How walks end, and what is told about them afterwards.
-/

namespace StoryGraph

/-- Why a walk ended before it ran out of connections. -/
inductive Fault where
  /-- The walk was about to enter a node that it came from. -/
  | cycle (node : String)
  | stepLimit (limit : Nat)
  | failed (node message : String)
  | panicked (node message : String)
  /-- The engine was shut down during a pause. -/
  | cancelled
deriving DecidableEq, Repr

namespace Fault

def message : Fault → String
  | cycle node => "cycle detected at node '" ++ node ++ "'"
  | stepLimit limit => "step budget of " ++ toString limit ++ " exceeded"
  | failed node message => "node '" ++ node ++ "' failed: " ++ message
  | panicked node message => "node '" ++ node ++ "' panicked: " ++ message
  | cancelled => "walk cancelled by engine shutdown"

end Fault

inductive Status where
  | completed
  | aborted (reason : String)
  | failed (reason : String)
  | cancelled
deriving DecidableEq, Repr

/-- Graphs that run away are aborted, and handlers that break down fail. -/
def Status.of : Option Fault → Status
  | none => .completed
  | some (.cycle node) => .aborted (Fault.cycle node).message
  | some (.stepLimit limit) => .aborted (Fault.stepLimit limit).message
  | some (.failed node message) => .failed (Fault.failed node message).message
  | some (.panicked node message) => .failed (Fault.panicked node message).message
  | some .cancelled => .cancelled

/-- One walk and the walks that it started, in order. -/
inductive WalkReport where
  | mk (graphId entry : String) (status : Status) (steps : Nat) (nested : List WalkReport)

namespace WalkReport

def graphId : WalkReport → String
  | mk g _ _ _ _ => g

def entry : WalkReport → String
  | mk _ e _ _ _ => e

def status : WalkReport → Status
  | mk _ _ s _ _ => s

/-- How many nodes were entered, all branches together. -/
def steps : WalkReport → Nat
  | mk _ _ _ n _ => n

def nested : WalkReport → List WalkReport
  | mk _ _ _ _ l => l

def isCompleted (r : WalkReport) : Bool := r.status == .completed

mutual

/-- A walk and all walks within it, each before those that it started. -/
def all : WalkReport → List WalkReport
  | mk g e s n l => mk g e s n l :: allOf l

def allOf : List WalkReport → List WalkReport
  | [] => []
  | r :: rest => all r ++ allOf rest

end

end WalkReport

/-- The walks of one trigger, one for each graph that it started. -/
structure TriggerReport where
  tag : String
  walks : List WalkReport

namespace TriggerReport

def allWalks (r : TriggerReport) : List WalkReport := WalkReport.allOf r.walks

def allCompleted (r : TriggerReport) : Bool := r.allWalks.all WalkReport.isCompleted

/-- Whether no graph listened. -/
def isEmpty (r : TriggerReport) : Bool := r.walks.isEmpty

end TriggerReport

end StoryGraph
