import StoryGraph.Graph.Document
import StoryGraph.Json.Reader
import StoryGraph.World.Document

/-!
Worlds and graphs from files. Graphs are read from one file or from all graph files of a folder, in
ascending order of their names; one bad file spoils the whole load.
-/

namespace StoryGraph

/-- What lies under a path. The text is none of a file that is no text, or of what is no file. -/
inductive Contents where
  | nothing
  | file (text : Option String)
  | folder (entries : List (String × Option String))

namespace Contents

def isThere : Contents → Bool
  | nothing => false
  | _ => true

/-- The text of a file. -/
def text? : Contents → Option String
  | file text => text
  | _ => none

end Contents

inductive LoadError where
  | notFound (path : String)
  | unreadable (path : String)
  /-- The text is no document of the kind. -/
  | malformed (path : String)
deriving DecidableEq, Repr

def LoadError.message : LoadError → String
  | notFound path => "Path does not exist: " ++ path
  | unreadable path => "Failed to read file: " ++ path
  | malformed path => "Failed to parse " ++ path

namespace Loading

/-- How the names of graph files end. -/
def graphSuffix : String := ".graph.json"

def isGraphFile (name : String) : Bool := graphSuffix.toList.isSuffixOf name.toList

/-- One graph, or an array of graphs. -/
def graphsOf? (j : Json) : Option (List Graph) :=
  match j with
  | .arr _ => j.list? Graph.ofJson?
  | _ => (Graph.ofJson? j).map fun g => [g]

/-- The graphs of one file. Of a field that is given twice the last one counts. -/
def graphFile (path : String) (text : Option String) : Except LoadError (List Graph) :=
  match text with
  | none => .error (.unreadable path)
  | some s =>
    match ((Json.read? s).bind Json.canonical?).bind graphsOf? with
    | some graphs => .ok graphs
    | none => .error (.malformed path)

/-- The graph files among the entries of a folder, in ascending order of their names. -/
def graphFiles (entries : List (String × Option String)) : List (String × Option String) :=
  (entries.filter fun e => isGraphFile e.1).mergeSort fun a b => decide (a.1 ≤ b.1)

def graphFolder (path : String) (entries : List (String × Option String)) : Except LoadError (List Graph) :=
  ((graphFiles entries).mapM fun e => graphFile (path ++ "/" ++ e.1) e.2).map List.flatten

end Loading

def loadGraphs (path : String) : Contents → Except LoadError (List Graph)
  | .nothing => .error (.notFound path)
  | .file text => Loading.graphFile path text
  | .folder entries => Loading.graphFolder path entries

/-- A world. Here a field that is given twice is refused. -/
def loadWorld (path : String) (c : Contents) : Except LoadError World :=
  if c.isThere then
    match c.text? with
    | none => .error (.unreadable path)
    | some s =>
      match (Json.read? s).bind World.ofJson? with
      | some w => .ok w
      | none => .error (.malformed path)
  else .error (.notFound path)

end StoryGraph
