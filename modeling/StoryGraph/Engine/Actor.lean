import StoryGraph.Engine.Basic

/-!
An engine that runs on its own. Callers put commands into a queue of bounded length and wait in line
when it is full; the engine carries them out one at a time, in order. Pauses take time on the clock,
and nothing else does. Shutting down raises a flag, which ends the pause of the command in work, and
sends the word to stop after the commands; the engine looks at the flag before it takes from the queue.
-/

namespace StoryGraph

inductive EngineState where
  | starting
  | running
  | stopping
  | stopped
deriving DecidableEq, Repr

namespace EngineState

def name : EngineState → String
  | starting => "starting"
  | running => "running"
  | stopping => "stopping"
  | stopped => "stopped"

def code : EngineState → Nat
  | starting => 0
  | running => 1
  | stopping => 2
  | stopped => 3

/-- The state of a code. All codes without a state of their own count as stopped. -/
def ofCode : Nat → EngineState
  | 0 => starting
  | 1 => running
  | 2 => stopping
  | _ => stopped

def isRunning (s : EngineState) : Bool := s == running

end EngineState

/-- A command of a caller, who is known by a ticket. -/
structure Job where
  ticket : Nat
  command : Command

/-- What callers send. -/
inductive Message where
  | job (j : Job)
  /-- The word to stop. -/
  | stop

/-- The command of a message. -/
def Message.job? : Message → Option Job
  | job j => some j
  | stop => none

/-- The command in work: the run that it began with, and how it ends if nothing comes between. -/
structure Work where
  job : Job
  start : Run
  reply : Reply
  result : Run

/-- The command in work as it goes in other surroundings, which differ in what is to come. -/
def Work.revise (s : Surroundings) (w : Work) : Work :=
  let (reply, result) := w.job.command.perform s w.start
  { w with reply := reply, result := result }

structure Actor where
  surroundings : Surroundings
  state : EngineState := .starting
  /-- The instant up to which everything has happened. -/
  clock : Nat := 0
  /-- The run after the last command that was carried out. -/
  run : Run
  work : Option Work := none
  queue : List Message := []
  /-- Messages that wait for a place in the queue. -/
  line : List Message := []
  /-- Whether no more callers can come. -/
  abandoned : Bool := false
  answers : List (Nat × Except EngineError Reply) := []

namespace Actor

def capacity (a : Actor) : Nat := max a.surroundings.settings.commandQueueCapacity 1

/-- Whether the flag is raised. -/
def isTold (a : Actor) : Bool := a.surroundings.shutdownAt.isSome

/-- How much has been sent and is not dealt with yet. -/
def load (a : Actor) : Nat := (if a.work.isSome then 1 else 0) + a.queue.length + a.line.length

def answer? (a : Actor) (ticket : Nat) : Option (Except EngineError Reply) :=
  (a.answers.find? fun e => e.1 == ticket).map Prod.snd

/-- Stops: who is in the queue hears that it is closed, and who stands in line that nothing runs. -/
def stop (a : Actor) : Actor :=
  { a with
    state := .stopped, queue := [], line := []
    answers := a.answers ++ ((a.queue.filterMap Message.job?).map fun j => (j.ticket, .error .channelClosed)) ++
      (a.line.filterMap Message.job?).map fun j => (j.ticket, .error .notRunning) }

/-- Ends the command in work. -/
def complete (a : Actor) (w : Work) : Actor :=
  { a with
    clock := w.result.now, run := w.result, work := none
    answers := a.answers ++ [(w.job.ticket, .ok w.reply)] }

/-- Carries out a command that begins now. -/
def begin (a : Actor) (j : Job) : Work :=
  let start := { a.run with now := a.clock }
  let (reply, result) := j.command.perform a.surroundings start
  ⟨j, start, reply, result⟩

/-- Takes the first message from the queue, of which `rest` is left; the first in line moves up. -/
def take (a : Actor) (rest : List Message) : Actor :=
  { a with state := .running, queue := rest ++ a.line.take 1, line := a.line.drop 1 }

/-- Starts on a command that takes time. -/
def hold (a : Actor) (w : Work) : Actor := { a with work := some w }

theorem length_take (a : Actor) (rest : List Message) :
    (a.take rest).queue.length + (a.take rest).line.length = rest.length + a.line.length := by
  simp only [take, List.length_append, List.length_take, List.length_drop]
  omega

/-- Lets the engine do all that takes no time: it takes commands from the queue until one pauses. -/
def settle (a : Actor) : Actor :=
  match a.state, a.work with
  | .stopped, _ => a
  | _, some _ => a
  | _, none =>
    if a.isTold then a.stop
    else
      match _h : a.queue with
      | [] => if a.abandoned then a.stop else { a with state := .running }
      | .stop :: rest => (a.take rest).stop
      | .job j :: rest =>
        let w := a.begin j
        if w.result.now == a.clock then settle ((a.take rest).complete w)
        else (a.take rest).hold w
termination_by a.queue.length + a.line.length
decreasing_by
  have hl := length_take a rest
  simp only [complete, _h, List.length_cons]
  omega

theorem load_stop (a : Actor) : a.stop.load ≤ a.load := by
  simp [stop, load, Nat.add_assoc]

theorem load_take (a : Actor) (rest : List Message) :
    (a.take rest).load = (if a.work.isSome then 1 else 0) + rest.length + a.line.length := by
  rw [load, Nat.add_assoc, length_take, ← Nat.add_assoc]
  rfl

theorem load_complete (a : Actor) (w : Work) : (a.complete w).load = a.queue.length + a.line.length := by
  simp [complete, load]

theorem load_hold (a : Actor) (w : Work) : (a.hold w).load = 1 + a.queue.length + a.line.length := by
  simp [hold, load]

theorem load_settle (a : Actor) : a.settle.load ≤ a.load := by
  fun_induction settle a with
  | case1 | case2 => exact Nat.le_refl _
  | case3 | case4 => exact load_stop _
  | case5 => exact Nat.le_refl _
  | case6 a hw hs rest hq =>
    have ht := load_take a rest
    have hl := load_stop (a.take rest)
    have ha : a.load = rest.length + 1 + a.line.length := by simp [load, hw, hq]
    rw [hw] at ht
    simp only [Option.isSome_none, Bool.false_eq_true, if_false] at ht
    omega
  | case7 a hw hs j rest hq w _ _ ih =>
    have hl := length_take a rest
    have hc := load_complete (a.take rest) w
    have ha : a.load = rest.length + 1 + a.line.length := by simp [load, hw, hq]
    omega
  | case8 a hw hs j rest hq w _ _ =>
    have hl := length_take a rest
    have ha : a.load = rest.length + 1 + a.line.length := by simp [load, hw, hq]
    have hb := load_hold (a.take rest) w
    omega

/-- Ends the command in work and goes on with what follows at once. -/
def proceed (a : Actor) (w : Work) : Actor := (a.complete w).settle

theorem load_proceed (a : Actor) (w : Work) (h : a.work = some w) : (a.proceed w).load < a.load := by
  refine Nat.lt_of_le_of_lt (load_settle _) ?_
  rw [load_complete]
  simp only [load, h, Option.isSome_some, if_true]
  omega

/-- Lets the clock go on to an instant, and everything happen that happens until then. -/
def advance (t : Nat) (a : Actor) : Actor :=
  match _h : a.work with
  | some w => if w.result.now ≤ t then advance t (a.proceed w) else { a with clock := max a.clock t }
  | none => { a with clock := max a.clock t }
termination_by a.load
decreasing_by exact load_proceed a w _h

/-- Lets the clock go on until something holds, or until nothing is in work. -/
def waitUntil (holds : Actor → Bool) (a : Actor) : Actor :=
  if holds a then a
  else
    match _h : a.work with
    | some w => waitUntil holds (a.proceed w)
    | none => a
termination_by a.load
decreasing_by exact load_proceed a w _h

/-- A message comes: it goes into the queue, or waits in line for a place there. -/
def enter (m : Message) (a : Actor) : Actor :=
  if a.queue.length < a.capacity && a.line.isEmpty then { a with queue := a.queue ++ [m] }
  else { a with line := a.line ++ [m] }

/-- A caller brings a command. -/
def submit (ticket : Nat) (c : Command) (a : Actor) : Actor :=
  if a.state == .stopped then { a with answers := a.answers ++ [(ticket, .error .notRunning)] }
  else a.enter (.job ⟨ticket, c⟩)

/-- Waits for the answer to a command. -/
def await (ticket : Nat) (a : Actor) : Actor := a.settle.waitUntil fun a => (a.answer? ticket).isSome

def isInLine (a : Actor) (ticket : Nat) : Bool :=
  (a.line.filterMap Message.job?).any fun j => j.ticket == ticket

/-- Waits until a command has a place in the queue. -/
def awaitPlace (ticket : Nat) (a : Actor) : Actor :=
  if a.isInLine ticket then a.settle.waitUntil fun a => !a.isInLine ticket else a

/-- How many pauses have come to their end before an instant. -/
def pausesBefore (a : Actor) (t : Nat) : Nat :=
  match a.work with
  | some w => (w.revise { a.surroundings with shutdownAt := some ⟨t, 0⟩ }).result.pauses
  | none => a.run.pauses

/-- Raises the flag, now that so many pauses have come to their end. The command in work goes on without
its pauses. A flag that is raised stays as it is. -/
def raise (pauses : Nat) (a : Actor) : Actor :=
  if a.isTold then a
  else
    let s := { a.surroundings with shutdownAt := some ⟨a.clock, pauses⟩ }
    { a with surroundings := s, work := a.work.map (Work.revise s) }

/-- Tells the engine to shut down: raises the flag and sends the word to stop. What happens up to now has
happened before. -/
def shutdown (a : Actor) : Actor :=
  let a := a.raise (a.pausesBefore (a.clock + 1))
  if a.state == .stopped then a else a.enter .stop

/-- Lets no more callers come. The engine stops after what it has to do. -/
def abandon (a : Actor) : Actor := { a with abandoned := true }

/-- Waits until the engine has stopped. -/
def join (a : Actor) : Actor := a.settle.waitUntil fun a => a.state == .stopped

/-- The run as far as it has come. -/
def lastRun (a : Actor) : Run :=
  match a.work with
  | some w => w.result
  | none => a.run

/-- What the host has been sent up to now. -/
def events (a : Actor) : List (Nat × HostEvent) := a.lastRun.events.filter fun e => decide (e.1 ≤ a.clock)

/-- What scripts have logged up to now. -/
def logs (a : Actor) : List (Nat × LogLine) := a.lastRun.logs.filter fun l => decide (l.1 ≤ a.clock)

end Actor

end StoryGraph
