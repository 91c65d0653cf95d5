import StoryGraph.Toml.Scalar
import StoryGraph.Toml.Tables

/-!
Reading a TOML document into a tree. Every line holds a header, a key with its value, or nothing.
-/

namespace StoryGraph.Toml

/-- Containers in one another, and the names of one path, are fewer than this. -/
def maxDepth : Nat := 80

/-- Makes every line break one character. -/
def unifyBreaks : List Char → List Char
  | '\r' :: '\n' :: rest => '\n' :: unifyBreaks rest
  | c :: rest => c :: unifyBreaks rest
  | [] => []

def skipBlanks (cs : List Char) : List Char := cs.dropWhile isBlank

/-- Skips blanks and a comment up to the end of the line, and the line break. -/
def lineEnd? (cs : List Char) : Option (List Char) :=
  match skipBlanks cs with
  | [] => some []
  | '\n' :: rest => some rest
  | '#' :: rest =>
    if (rest.takeWhile fun c => c != '\n').all isPlain then some ((rest.dropWhile fun c => c != '\n').drop 1)
    else none
  | _ => none

/-- Skips blanks, line breaks and comments. -/
def skipGaps? (inComment : Bool) : List Char → Option (List Char)
  | [] => some []
  | c :: rest =>
    if c == '\n' then skipGaps? false rest
    else if inComment then if isPlain c then skipGaps? true rest else none
    else if isBlank c then skipGaps? false rest
    else if c == '#' then skipGaps? true rest
    else some (c :: rest)

def isKeyChar (c : Char) : Bool := c.isAlphanum || c == '_' || c == '-'

def key? (cs : List Char) : Reading String :=
  match shortText? cs with
  | some r => some r
  | none =>
    let k := cs.takeWhile isKeyChar
    if k.isEmpty then none else some (String.ofList k, cs.dropWhile isKeyChar)

/-- Names joined by points, at most `fuel` of them. -/
def pathWith? : Nat → List Char → Option (List String × List Char)
  | 0, _ => none
  | fuel + 1, cs => do
    let (k, cs) ← key? (skipBlanks cs)
    match skipBlanks cs with
    | '.' :: rest => (pathWith? fuel rest).map fun r => (k :: r.1, r.2)
    | cs => some ([k], cs)

def path? (cs : List Char) : Reading (List String) :=
  (pathWith? (cs.length + 1) cs).filter fun r => decide (r.1.length < maxDepth)

mutual

/-- A value within `depth` containers. Every step into it takes one of `fuel`. -/
def valueWith? : Nat → Nat → List Char → Option (Json × List Char)
  | 0, _, _ => none
  | fuel + 1, depth, cs =>
    match cs with
    | '[' :: rest => if depth + 1 < maxDepth then itemsWith? fuel (depth + 1) [] rest else none
    | '{' :: rest =>
      if depth + 1 < maxDepth then
        match skipBlanks rest with
        | '}' :: rest => some (.obj [], rest)
        | rest => fieldsWith? fuel (depth + 1) [] rest
      else none
    | cs =>
      match text? cs with
      | some (s, rest) => some (.str s, rest)
      | none => scalar? cs

/-- The items of an array that follow `done`, which holds the items so far, newest first. -/
def itemsWith? : Nat → Nat → List Json → List Char → Option (Json × List Char)
  | 0, _, _, _ => none
  | fuel + 1, depth, done, cs => do
    match ← skipGaps? false cs with
    | ']' :: rest => some (.arr done.reverse, rest)
    | cs =>
      let (j, cs) ← valueWith? fuel depth cs
      match ← skipGaps? false cs with
      | ',' :: rest => itemsWith? fuel depth (j :: done) rest
      | ']' :: rest => some (.arr (j :: done).reverse, rest)
      | _ => none

/-- The fields of a table on one line that follow those in `es`. -/
def fieldsWith? : Nat → Nat → Entries → List Char → Option (Json × List Char)
  | 0, _, _, _ => none
  | fuel + 1, depth, es, cs => do
    let (path, cs) ← path? cs
    match cs with
    | '=' :: cs =>
      let (j, cs) ← valueWith? fuel depth (skipBlanks cs)
      let es ← es.put? j path
      match skipBlanks cs with
      | ',' :: rest => fieldsWith? fuel depth es rest
      | '}' :: rest => some (es.toJson, rest)
      | _ => none
    | _ => none

end

def value? (cs : List Char) : Reading Json := valueWith? (2 * cs.length + 1) 0 cs

/-- The path and the end of a header that closes with `close`. -/
def header? (close cs : List Char) : Option (List String × List Char) := do
  let (path, cs) ← path? cs
  if close.isPrefixOf cs then
    let rest ← lineEnd? (cs.drop close.length)
    return (path, rest)
  else none

/-- Reads lines, at most `fuel` of them, into the table under the path `current`. -/
def linesWith? : Nat → List String → Entries → List Char → Option Entries
  | 0, _, _, _ => none
  | fuel + 1, current, es, cs =>
    match skipBlanks cs with
    | [] => some es
    | '[' :: '[' :: rest => do
      let (path, rest) ← header? "]]".toList rest
      let es ← es.inside? (Entries.openRow? (path.getLast?.getD "")) path.dropLast
      linesWith? fuel path es rest
    | '[' :: rest => do
      let (path, rest) ← header? "]".toList rest
      let es ← es.inside? (Entries.openTable? (path.getLast?.getD "")) path.dropLast
      linesWith? fuel path es rest
    | cs =>
      match lineEnd? cs with
      | some rest => linesWith? fuel current es rest
      | none => do
        let (path, cs) ← path? cs
        match cs with
        | '=' :: cs =>
          let (j, cs) ← value? (skipBlanks cs)
          let rest ← lineEnd? cs
          let es ← es.inside? (Entries.put? j path) current
          linesWith? fuel current es rest
        | _ => none

/-- The tree of a whole document. -/
def read? (text : String) : Option Json :=
  let cs := unifyBreaks text.toList
  let cs := if cs.head? == some '\ufeff' then cs.drop 1 else cs
  (linesWith? (cs.length + 1) [] [] cs).map Entries.toJson

end StoryGraph.Toml
