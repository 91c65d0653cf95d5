import StoryGraph.CommandLine.Configuration
import StoryGraph.Number.Whole

/-!
The arguments of the command line: options, a command, and the options and operands of the command.
Arguments are read from left to right, and the first that is wrong decides.
-/

namespace StoryGraph.CommandLine

/-- What the options in front of and behind the command ask for. -/
inductive Task where
  | validate
  | nodes (category : Option String)
  | trigger (ownerType ownerId tag : String) (turns : Nat)
deriving DecidableEq, Repr

structure Request where
  /-- The configuration file, if one is named. -/
  config : Option String := none
  world : Option String := none
  graphs : Option String := none
  seed : Option Nat := none
  task : Task
deriving DecidableEq, Repr

/-- Why arguments are no request. -/
inductive Refusal where
  /-- Help was asked for, on all or on one command. -/
  | help (command : Option String)
  | usage
deriving DecidableEq, Repr

/-- An option with a value. -/
structure OptionSpec where
  name : String
  short : Option Char := none
  about : String
  accepts : String → Bool

/-- The value of a row of digits with an optional plus sign, below a bound. -/
def unsigned? (bound : Nat) (s : String) : Option Nat :=
  let ds := match s.toList with
    | '+' :: cs => cs
    | cs => cs
  if ds.isEmpty || !ds.all Char.isDigit then none
  else
    let n := Whole.digitsValue 0 ds
    if n < bound then some n else none

/-- A count of turns: like a number with sign, but not below zero. -/
def turns? (s : String) : Option Nat :=
  (Whole.read? s).bind fun i => if 0 ≤ i.toInt ∧ i.toInt < UInt32.size then some i.toInt.toNat else none

def isPath (s : String) : Bool := s != ""

def configOption : OptionSpec :=
  { name := "config", short := some 'c', about := "Path to the configuration file", accepts := isPath }

/-- The options that may stand before and after the command. -/
def globalOptions : List OptionSpec :=
  [{ name := "world", about := "World document, overrides the configuration", accepts := isPath },
   { name := "graphs", about := "Graph directory or file, overrides the configuration", accepts := isPath },
   { name := "seed", about := "Fixed seed for the random nodes", accepts := fun s => (unsigned? UInt64.size s).isSome }]

structure CommandSpec where
  name : String
  about : String
  options : List OptionSpec := []
  operands : List String := []

def commands : List CommandSpec :=
  [{ name := "validate", about := "Validate every loaded graph" },
   { name := "nodes", about := "Print the node catalog"
     options := [{
       name := "category"
       about := "Only this category (Event, Condition, Action, Flow, Variable, Dialogue)"
       accepts := fun _ => true }] },
   { name := "trigger", about := "Fire one event at an owner and print what happens"
     options := [{
       name := "turns"
       about := "Turns to advance after the trigger [default: 0]"
       accepts := fun s => (turns? s).isSome }]
     operands := ["OWNER_TYPE", "OWNER_ID", "EVENT_TAG"] }]

/-- What has been read of a row of arguments. -/
structure Given where
  options : List (String × String) := []
  /-- The last option, if its value has not been looked at. -/
  pending : Option (OptionSpec × String) := none
  operands : List String := []

def Given.find? (g : Given) (name : String) : Option String :=
  (g.options.find? fun o => o.1 == name).map Prod.snd

/-- What an argument is by its looks. -/
inductive Shape where
  /-- Two hyphens alone: only operands follow. -/
  | endOfOptions
  | long (name : String) (value : Option String)
  | short (name : Char) (attached : List Char)
  | operand

def shape (arg : String) : Shape :=
  match arg.toList with
  | ['-', '-'] => .endOfOptions
  | '-' :: '-' :: cs =>
    let name := String.ofList (cs.takeWhile fun c => c != '=')
    match cs.dropWhile fun c => c != '=' with
    | _ :: value => .long name (some (String.ofList value))
    | [] => .long name none
  | '-' :: c :: cs => .short c cs
  | _ => .operand

/-- Notes the value of an option, which may be given once. -/
def Given.note (g : Given) (o : OptionSpec) (value : String) : Except Refusal Given :=
  if (g.find? o.name).isSome || !o.accepts value then .error .usage
  else .ok { g with options := g.options ++ [(o.name, value)] }

/-- Looks at the value of the last option. -/
def Given.settle (g : Given) : Except Refusal Given :=
  match g.pending with
  | none => .ok g
  | some (o, value) => { g with pending := none }.note o value

/-- An option and the value that is attached to it, if any. -/
def attached (options : List OptionSpec) (help : Refusal) : Shape → Except Refusal (OptionSpec × Option String)
  | .long "help" none => .error help
  | .long name value =>
    match options.find? fun o => o.name == name with
    | some o => .ok (o, value)
    | none => .error .usage
  | .short 'h' _ => .error help
  | .short c cs =>
    match options.find? fun o => o.short == some c with
    | some o =>
      match cs with
      | [] => .ok (o, none)
      | '=' :: cs => .ok (o, some (String.ofList cs))
      | cs => .ok (o, some (String.ofList cs))
    | none => .error .usage
  | _ => .error .usage

/-- Reads arguments. Without a limit it stops before the first operand; with one it goes to the end and
takes that many operands. Answers with what was read and the rest. A value that is an argument of its
own is looked at when the next option comes. -/
def readArgs (options : List OptionSpec) (help : Refusal) (limit : Option Nat) (g : Given) :
    List String → Except Refusal (Given × List String)
  | [] => .ok (g, [])
  | arg :: rest =>
    match shape arg with
    | .endOfOptions =>
      if g.operands.length + rest.length ≤ limit.getD 0 then
        .ok ({ g with operands := g.operands ++ rest }, [])
      else .error .usage
    | .operand =>
      match limit with
      | none => .ok (g, arg :: rest)
      | some n =>
        if g.operands.length < n then
          readArgs options help limit { g with operands := g.operands ++ [arg] } rest
        else .error .usage
    | s =>
      match g.settle with
      | .error e => .error e
      | .ok g =>
        match attached options help s with
        | .error e => .error e
        | .ok (o, some value) =>
          match g.note o value with
          | .error e => .error e
          | .ok g => readArgs options help limit g rest
        | .ok (o, none) =>
          match rest with
          | [] => .error .usage
          | value :: rest =>
            match shape value with
            | .operand => readArgs options help limit { g with pending := some (o, value) } rest
            | _ => .error .usage

/-- What the command and its arguments ask for. -/
def taskOf (c : CommandSpec) (g : Given) : Except Refusal Task :=
  match c.name, g.operands with
  | "validate", [] => .ok .validate
  | "nodes", [] => .ok (.nodes (g.find? "category"))
  | "trigger", [ownerType, ownerId, tag] =>
    .ok (.trigger ownerType ownerId tag (((g.find? "turns").bind turns?).getD 0))
  | _, _ => .error .usage

/-- The request for help on a command that is named, or on all of them. -/
def helpOn : List String → Refusal
  | [] => .help none
  | [name] => if name == "help" || commands.any fun c => c.name == name then .help (some name) else .usage
  | _ => .usage

/-- Reads all arguments. Options behind the command count more than those before it. A request for help
in or behind the command comes before a wrong value of the last option in front of it. -/
def Request.ofArgs (args : List String) : Except Refusal Request := do
  let (before, rest) ← readArgs (configOption :: globalOptions) (.help none) none {} args
  match rest with
  | [] => throw .usage
  | name :: rest =>
    if name == "help" then throw (helpOn rest)
    match commands.find? fun c => c.name == name with
    | none => throw .usage
    | some c =>
      let (after, _) ←
        readArgs (c.options ++ globalOptions) (.help (some c.name)) (some c.operands.length) {} rest
      let after ← after.settle
      let before ← before.settle
      let task ← taskOf c after
      let find (name : String) : Option String := (after.find? name).or (before.find? name)
      return {
        config := before.find? "config", world := find "world", graphs := find "graphs"
        seed := (find "seed").bind (unsigned? UInt64.size), task := task }

end StoryGraph.CommandLine
