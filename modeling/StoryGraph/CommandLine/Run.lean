import StoryGraph.CommandLine.Help
import StoryGraph.Engine.Basic
import StoryGraph.Handler.Builtin
import StoryGraph.Text.Quoted
import StoryGraph.Validation.Findings

/-!
What the command line does with a request: it checks graphs, lists the node types, or fires one event
and prints what comes of it. Files are looked at through a function that is given.
-/

namespace StoryGraph.CommandLine

/-- What a run prints, line by line, and its exit code. -/
structure Outcome where
  exitCode : Nat := 0
  output : List String := []
  errors : List String := []

namespace Outcome

/-- A run that fails at an error with its cause. -/
def failed (error : String) (cause : Option String := none) : Outcome :=
  { exitCode := 1
    errors := ("Error: " ++ error) :: match cause with
      | some c => ["", "Caused by:", "    " ++ c]
      | none => [] }

end Outcome

/-- The lines on one graph, and whether it has no errors. -/
def graphLines (g : Graph) : List String × Bool :=
  let valid := g.isValid Registry.builtins.contains
  let verdict := if valid then "ok" else "INVALID"
  ((g.id ++ " (" ++ g.ownerType ++ " " ++ g.ownerId ++ "): " ++ verdict) ::
    ((g.errors Registry.builtins.contains).map fun e => "  error: " ++ e) ++
    (g.warnings Registry.builtins.contains).map fun w => "  warning: " ++ w, valid)

def validate (graphs : List Graph) : Outcome :=
  let checked := graphs.map graphLines
  let output := checked.flatMap Prod.fst
  let invalid := checked.countP fun c => !c.2
  if 0 < invalid then
    { Outcome.failed (toString invalid ++ " of " ++ toString graphs.length ++ " graphs failed validation") with
      output := output }
  else { output := output }

def typeLine (t : NodeType) : String :=
  padTo 36 t.tag ++ " " ++ padTo 10 t.category.name ++ " " ++ ", ".intercalate t.ports

/-- The node types of a family, or all of them. -/
def nodes (category : Option String) : Outcome :=
  match category with
  | none => { output := NodeType.all.map typeLine }
  | some name =>
    match Category.ofName? name with
    | some c => { output := (NodeType.all.filter fun t => t.category == c).map typeLine }
    | none => Outcome.failed ("Unknown node category '" ++ name ++ "'")

/-- How an event is shown. -/
def eventText : HostEvent → String
  | .showMessage text => text
  | .playSound soundId => "[sound] " ++ soundId
  | .roomMusicChanged roomId musicId => "[music] " ++ musicId ++ " in " ++ roomId
  | .playerTeleported roomId => "[teleport] " ++ roomId
  | .startConversation npcId => "[conversation] " ++ npcId
  | .startCombat npcId => "[combat] " ++ npcId
  | .startTrade npcId => "[trade] " ++ npcId
  | .adventureCompleted => "[adventure completed]"
  | .diagnostic text => "[diagnostic] " ++ text

def isDiagnostic : HostEvent → Bool
  | .diagnostic _ => true
  | _ => false

def statusText : Status → String
  | .completed => "Completed"
  | .aborted reason => "Aborted(" ++ Text.quoted reason ++ ")"
  | .failed reason => "Failed(" ++ Text.quoted reason ++ ")"
  | .cancelled => "Cancelled"

/-- A line for each walk that did not come to its end. Walks are numbered from `first`. -/
def walkLines (first : Nat) (r : TriggerReport) : List String :=
  (r.allWalks.zipIdx first).filterMap fun (w, n) =>
    if w.isCompleted then none
    else some ("[walk " ++ toString n ++ "] " ++ w.graphId ++ " from '" ++ w.entry ++ "': " ++ statusText w.status)

def summary (w : World) : List String :=
  let p := w.player
  ["", p.name ++ ": health " ++ Whole.write p.health ++ "/" ++ Whole.write p.maxHealth ++ ", gold " ++
    Whole.write p.gold ++ ", xp " ++ Whole.write p.experience ++ ", room '" ++ p.roomId ++ "'"] ++
  (if p.inventory.isEmpty then [] else ["carrying: " ++ ", ".intercalate p.inventory]) ++
  ["turn " ++ Whole.write w.game.turn ++ ", score " ++ Whole.write w.game.score]

/-- Ends some turns, one after the other. -/
def endTurns (s : Surroundings) : Nat → Run → List TriggerReport × Run
  | 0, r => ([], r)
  | n + 1, r =>
    let (report, r) := s.advanceTurn r
    let (reports, r) := endTurns s n r
    (report :: reports, r)

/-- Numbers the walks of all reports and shows those that did not come to their end. -/
def reportLines : Nat → List TriggerReport → List String
  | _, [] => []
  | first, r :: rest => walkLines first r ++ reportLines (first + r.allWalks.length) rest

def trigger (world : World) (graphs : List Graph) (settings : Settings) (ownerType ownerId tag : String)
    (turns : Nat) : Outcome :=
  let s : Surroundings := {
    registry := Registry.builtins, library := graphs, settings := settings
    draws := Draws.ofSeed (UInt64.ofNat (settings.rngSeed.getD 0)) }
  let (report, r) := s.trigger 0 ownerType ownerId tag { world := world }
  let (reports, r) := endTurns s turns r
  let events := r.events.map Prod.snd
  { output := (events.filter fun e => !isDiagnostic e).map eventText ++ summary r.world
    errors := (events.filter isDiagnostic).map eventText ++ reportLines 1 (report :: reports) }

/-- The configuration with the options of a request applied. -/
def Configuration.override (c : Configuration) (r : Request) : Configuration :=
  { c with
    world := r.world.getD c.world
    graphs := r.graphs.getD c.graphs
    engine := { c.engine with rngSeed := r.seed.or c.engine.rngSeed } }

section

variable {m : Type → Type} [Monad m]

/-- Loads the graphs and goes on with them. -/
def withGraphs (look : String → m Contents) (path : String) (k : List Graph → m Outcome) : m Outcome := do
  match loadGraphs path (← look path) with
  | .ok graphs => k graphs
  | .error e => return .failed ("loading graphs from " ++ path) (some e.message)

/-- Loads the world and goes on with it. -/
def withWorld (look : String → m Contents) (path : String) (k : World → m Outcome) : m Outcome := do
  match loadWorld path (← look path) with
  | .ok world => k world
  | .error e => return .failed ("loading world from " ++ path) (some e.message)

def perform (look : String → m Contents) (c : Configuration) : Task → m Outcome
  | .validate => withGraphs look c.graphs fun graphs => return validate graphs
  | .nodes category => return nodes category
  | .trigger ownerType ownerId tag turns =>
    withWorld look c.world fun world => withGraphs look c.graphs fun graphs =>
      return trigger world graphs c.engine ownerType ownerId tag turns

/-- Runs a command line. `look` tells what lies under a path; `seek` does so for the configuration file,
which may also lie in a folder above. -/
def run (look seek : String → m Contents) (args : List String) : m Outcome := do
  match Request.ofArgs args with
  | .error (.help command) => return { output := helpLines command }
  | .error .usage => return { exitCode := 2, errors := [usageLine] }
  | .ok r =>
    let path := r.config.getD Configuration.defaultFile
    let here ← look path
    let found ← if r.config.isSome && !here.isThere then pure here else seek path
    match Configuration.load path r.config.isSome found with
    | .error e => return .failed e.message
    | .ok c => perform look (c.override r) r.task

end

end StoryGraph.CommandLine
