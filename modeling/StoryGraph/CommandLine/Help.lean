import StoryGraph.CommandLine.Request

/-!
The texts that explain the command line.
-/

namespace StoryGraph.CommandLine

def program : String := "talebound"

def about : String := "Graph script engine for interactive fiction"

def padTo (width : Nat) (s : String) : String := s ++ String.ofList (List.replicate (width - s.length) ' ')

/-- Rows of two columns, the first as wide as its widest entry. -/
def columns (rows : List (String × String)) : List String :=
  let width := (rows.map fun r => r.1.length).foldl max 0
  rows.map fun r => "  " ++ padTo width r.1 ++ "  " ++ r.2

def OptionSpec.shown (o : OptionSpec) : String :=
  (match o.short with
    | some c => "-" ++ c.toString ++ ", "
    | none => "    ") ++ "--" ++ o.name ++ " <" ++ o.name.map Char.toUpper ++ ">"

def optionLines (options : List OptionSpec) : List String :=
  columns ((options.map fun o => (o.shown, o.about)) ++ [("-h, --help", "Print help")])

def usageLine : String := "Usage: " ++ program ++ " [OPTIONS] <COMMAND>"

/-- Help on the command that gives help. -/
def helpOnHelp : List String :=
  ["Print this message or the help of the given subcommand(s)", "",
   "Usage: " ++ program ++ " help [COMMAND]...", "", "Arguments:"] ++
  columns [("[COMMAND]...", "Print help for the subcommand(s)")]

def CommandSpec.usageLine (c : CommandSpec) : String :=
  "Usage: " ++ program ++ " " ++ c.name ++ " [OPTIONS]" ++ String.join (c.operands.map fun o => " <" ++ o ++ ">")

/-- Help on all commands. -/
def overview : List String :=
  [about, "", usageLine, "", "Commands:"] ++
  columns ((commands.map fun c => (c.name, c.about)) ++
    [("help", "Print this message or the help of the given subcommand(s)")]) ++
  ["", "Options:"] ++ optionLines (configOption :: globalOptions)

/-- Help on one command. -/
def CommandSpec.help (c : CommandSpec) : List String :=
  [c.about, "", c.usageLine, ""] ++
  (if c.operands.isEmpty then []
    else ["Arguments:"] ++ columns (c.operands.map fun o => ("<" ++ o ++ ">", "")) ++ [""]) ++
  ["Options:"] ++ optionLines (c.options ++ globalOptions)

/-- Help on the command of a name, or on all of them. -/
def helpLines (command : Option String) : List String :=
  if command == some "help" then helpOnHelp
  else
    match command.bind fun name => commands.find? fun c => c.name == name with
    | some c => c.help
    | none => overview

end StoryGraph.CommandLine
