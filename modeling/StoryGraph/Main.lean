import StoryGraph.CommandLine.Run

/-!
The program: looks at files, runs the command line, and prints what it comes to.
-/

namespace StoryGraph

/-- The text of a file, if it can be read as text. -/
def readText? (path : String) : IO (Option String) := do
  try return some (← IO.FS.readFile path)
  catch _ => return none

/-- What lies under a path below the current folder. -/
def lookAt (path : String) : IO Contents := do
  let target := (← IO.currentDir) / path
  if path == "" || !(← target.pathExists) then return .nothing
  if ← target.isDir then
    let entries ← target.readDir
    let files ← entries.toList.mapM fun e => do
      let text ← if Loading.isGraphFile e.fileName then readText? e.path.toString else pure none
      return (e.fileName, text)
    return .folder files
  return .file (← readText? target.toString)

/-- The file of a name in the current folder, or else in the nearest folder above that has one. -/
def seekFile (path : String) : IO Contents := do
  let depth := (← IO.currentDir).components.length
  for n in [0:depth] do
    match ← lookAt (String.join (List.replicate n "../") ++ path) with
    | .file text => return .file text
    | _ => pure ()
  return .nothing

end StoryGraph

def main (args : List String) : IO UInt32 := do
  let outcome ← StoryGraph.CommandLine.run StoryGraph.lookAt StoryGraph.seekFile args
  for line in outcome.output do IO.println line
  for line in outcome.errors do IO.eprintln line
  return UInt32.ofNat outcome.exitCode
