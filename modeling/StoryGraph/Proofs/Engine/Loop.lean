import StoryGraph.Engine.Actor

/-!
What can happen to an engine that runs on its own, as a relation: callers bring commands at any time, the flag
goes up at any time, and the engine's loop makes its own steps in between. The loop looks at the flag first and
takes from the queue afterwards; the flag may go up between the two. A history lists what has happened.
-/

namespace StoryGraph

/-- A running engine with its loop. -/
structure Loop where
  actor : Actor
  /-- Whether the loop has found the flag down and comes to the queue next. -/
  ready : Bool := false

/-- Why the loop ends. -/
inductive Halt where
  /-- It has seen the flag. -/
  | flag
  /-- It has taken the word to stop from the queue. -/
  | word
  /-- The queue is empty and no more callers can come. -/
  | abandoned
deriving DecidableEq, Repr

/-- What happens in one step. -/
inductive Deed where
  | sent (j : Job)
  | refused (j : Job)
  | raised (m : Moment)
  | toldToStop
  | abandoned
  | waited (t : Nat)
  | looked
  | parked
  | began (t : Nat) (j : Job)
  | ended (j : Job)
  | halted (why : Halt)

/-- Whether the loop makes the step, and not its callers or the clock. -/
def Deed.isOwn : Deed → Bool
  | looked | parked | began _ _ | ended _ | halted _ => true
  | sent _ | refused _ | raised _ | toldToStop | abandoned | waited _ => false

namespace Loop

/-- An engine that has just been set running. Its clock goes on from where the run was. -/
def spawn (s : Surroundings) (r : Run) : Loop := ⟨{ surroundings := s, clock := r.now, run := r }, false⟩

inductive Step : Loop → Deed → Loop → Prop where
  | sent {a ready j} (alive : a.state ≠ .stopped) :
      Step ⟨a, ready⟩ (.sent j) ⟨a.submit j.ticket j.command, ready⟩
  | refused {a ready j} (dead : a.state = .stopped) :
      Step ⟨a, ready⟩ (.refused j) ⟨a.submit j.ticket j.command, ready⟩
  /-- Pauses that end before now are over. Those that end just now may be over or not. -/
  | raised {a ready k} (down : a.isTold = false) (early : a.pausesBefore a.clock ≤ k)
      (late : k ≤ a.pausesBefore (a.clock + 1)) : Step ⟨a, ready⟩ (.raised ⟨a.clock, k⟩) ⟨a.raise k, ready⟩
  | toldToStop {a ready} (alive : a.state ≠ .stopped) : Step ⟨a, ready⟩ .toldToStop ⟨a.enter .stop, ready⟩
  | abandoned {a ready} : Step ⟨a, ready⟩ .abandoned ⟨a.abandon, ready⟩
  /-- Time passes, but not beyond the end of the command in work. -/
  | waited {a ready t} (later : a.clock ≤ t) (due : ∀ w, a.work = some w → t ≤ w.result.now) :
      Step ⟨a, ready⟩ (.waited t) ⟨{ a with clock := t }, ready⟩
  | looked {a} (alive : a.state ≠ .stopped) (idle : a.work = none) (down : a.isTold = false) :
      Step ⟨a, false⟩ .looked ⟨a, true⟩
  /-- The loop waits for the flag and for a message, both at once. -/
  | parked {a} (empty : a.queue = []) (awaited : a.abandoned = false) :
      Step ⟨a, true⟩ .parked ⟨{ a with state := .running }, false⟩
  | began {a j rest} (next : a.queue = .job j :: rest) :
      Step ⟨a, true⟩ (.began a.clock j) ⟨(a.take rest).hold (a.begin j), false⟩
  | ended {a ready w} (work : a.work = some w) (due : w.result.now = a.clock) :
      Step ⟨a, ready⟩ (.ended w.job) ⟨a.complete w, ready⟩
  | sawFlag {a} (alive : a.state ≠ .stopped) (idle : a.work = none) (up : a.isTold = true) :
      Step ⟨a, false⟩ (.halted .flag) ⟨a.stop, false⟩
  | tookWord {a rest} (next : a.queue = .stop :: rest) :
      Step ⟨a, true⟩ (.halted .word) ⟨(a.take rest).stop, false⟩
  | leftAlone {a} (empty : a.queue = []) (alone : a.abandoned = true) :
      Step ⟨a, true⟩ (.halted .abandoned) ⟨a.stop, false⟩

/-- Steps one after the other, with what happened in them. -/
inductive Steps (x : Loop) : List Deed → Loop → Prop where
  | nil : Steps x [] x
  | snoc {deeds y d z} (before : Steps x deeds y) (step : Step y d z) : Steps x (deeds ++ [d]) z

theorem Steps.append {x y z : Loop} {before after : List Deed} (h : Steps x before y) (h' : Steps y after z) :
    Steps x (before ++ after) z := by
  induction h' with
  | nil => rwa [List.append_nil]
  | snoc _ step ih =>
    rw [← List.append_assoc]
    exact .snoc ih step

theorem Steps.single {x y : Loop} {d : Deed} (h : Step x d y) : Steps x [d] y := .snoc .nil h

theorem Steps.cons {x y z : Loop} {d : Deed} {after : List Deed} (step : Step x d y) (later : Steps y after z) :
    Steps x (d :: after) z :=
  (Steps.single step).append later

/-- The commands that callers have put in, in order. -/
def sent (deeds : List Deed) : List Job :=
  deeds.filterMap fun
    | .sent j => some j
    | _ => none

/-- The commands that came when the engine had stopped. -/
def refused (deeds : List Deed) : List Job :=
  deeds.filterMap fun
    | .refused j => some j
    | _ => none

/-- The commands that the loop has begun, and when. -/
def began (deeds : List Deed) : List (Nat × Job) :=
  deeds.filterMap fun
    | .began t j => some (t, j)
    | _ => none

/-- The commands that the loop has carried out. -/
def ended (deeds : List Deed) : List Job :=
  deeds.filterMap fun
    | .ended j => some j
    | _ => none

/-- When the flag went up. -/
def raised (deeds : List Deed) : Option Moment :=
  deeds.findSome? fun
    | .raised m => some m
    | _ => none

/-- The requests for commands that are begun at some instants. -/
def requests (begun : List (Nat × Job)) : List (Nat × Command) := begun.map fun b => (b.1, b.2.command)

/-- How many steps the loop has made itself. -/
def turns (deeds : List Deed) : Nat := deeds.countP Deed.isOwn

variable (before after : List Deed)

@[simp] theorem turns_append : turns (before ++ after) = turns before + turns after := List.countP_append

@[simp] theorem sent_append : sent (before ++ after) = sent before ++ sent after := List.filterMap_append

@[simp] theorem refused_append : refused (before ++ after) = refused before ++ refused after := List.filterMap_append

@[simp] theorem began_append : began (before ++ after) = began before ++ began after := List.filterMap_append

@[simp] theorem ended_append : ended (before ++ after) = ended before ++ ended after := List.filterMap_append

@[simp] theorem raised_append : raised (before ++ after) = (raised before).or (raised after) := List.findSome?_append

end Loop

end StoryGraph
