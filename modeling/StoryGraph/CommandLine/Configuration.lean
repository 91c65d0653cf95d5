import StoryGraph.Engine.Settings
import StoryGraph.Loading
import StoryGraph.Toml.Reader

/-!
What the command line runs with: where the world and the graphs are, and the settings of the engine.
Everything has a default; a file in TOML overrides it, and options override the file.
-/

namespace StoryGraph.CommandLine

structure Configuration where
  world : String := "demos/world.json"
  graphs : String := "demos/graphs"
  /-- Which log lines are shown. -/
  logFilter : String := "talebound=info,script_runtime=info"
  engine : Settings := {}
deriving DecidableEq

inductive ConfigError where
  | notFound (path : String)
  | invalid
deriving DecidableEq, Repr

def ConfigError.message : ConfigError → String
  | notFound path => "Configuration file not found: " ++ path
  | invalid => "Invalid configuration"

namespace Configuration

/-- The file that is read if no other is named. -/
def defaultFile : String := "talebound.toml"

/-- Reads a configuration. A row of settings may be longer than there are settings. -/
def ofJson? (j : Json) : Option Configuration := do
  let d : Configuration := {}
  let r ← j.record? ["world", "graphs", "log_filter", "engine"]
  let world ← r.get "world" Json.text? d.world
  let graphs ← r.get "graphs" Json.text? d.graphs
  let logFilter ← r.get "log_filter" Json.text? d.logFilter
  let engine ← r.get "engine" (fun j => Settings.ofJson? (j.cut Settings.fieldNames.length)) d.engine
  return { world, graphs, logFilter, engine }

def toJson (c : Configuration) : Json :=
  .obj [("world", .str c.world), ("graphs", .str c.graphs), ("log_filter", .str c.logFilter),
    ("engine", c.engine.toJson)]

/-- Reads the file at a path. A file that is missing counts as an empty one, unless it was asked for
by name; so does a folder. -/
def load (path : String) (explicit : Bool) (c : Contents) : Except ConfigError Configuration :=
  if explicit && !c.isThere then .error (.notFound path)
  else
    match c with
    | .file (some text) =>
      match (Toml.read? text).bind ofJson? with
      | some config => .ok config
      | none => .error .invalid
    | .file none => .error .invalid
    | _ => .ok {}

end Configuration

end StoryGraph.CommandLine
