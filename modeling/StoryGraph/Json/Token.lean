import StoryGraph.Json.Number

/-!
The tokens of a document's text. Characters are taken one at a time: a state says whether the text is
between tokens, in a word or in a string, and a finished token is handed on with the next character.
-/

namespace StoryGraph.Json

inductive Token where
  | openArr
  | closeArr
  | openObj
  | closeObj
  | comma
  | colon
  | value (j : Json)
  /-- A string; none if it holds half of a surrogate pair. -/
  | text (s : Option String)

namespace Token

/-- A string in the making: its characters so far, newest first; the first half of a surrogate pair
that waits for the second; and whether a half was left alone. -/
structure Draft where
  chars : List Char
  half : Option Nat
  broken : Bool

def Draft.empty : Draft := ⟨[], none, false⟩

/-- Adds a character. A half that waited for its partner stays alone. -/
def Draft.push (p : Draft) (c : Char) : Draft :=
  ⟨c :: p.chars, none, p.broken || p.half.isSome⟩

/-- Adds a unit of 16 bits. -/
def Draft.pushUnit (p : Draft) (u : Nat) : Draft :=
  if 0xDC00 ≤ u && u ≤ 0xDFFF then
    match p.half with
    | some h => ⟨Char.ofNat (0x10000 + (h - 0xD800) * 0x400 + (u - 0xDC00)) :: p.chars, none, p.broken⟩
    | none => { p with broken := true }
  else if 0xD800 ≤ u && u ≤ 0xDBFF then ⟨p.chars, some u, p.broken || p.half.isSome⟩
  else p.push (Char.ofNat u)

def Draft.close (p : Draft) : Option String :=
  if p.broken || p.half.isSome then none else some (String.ofList p.chars.reverse)

inductive State where
  | between
  /-- In a number or a name; its characters, newest first. -/
  | word (cs : List Char)
  | string (p : Draft)
  /-- After a backslash. -/
  | escape (p : Draft)
  /-- In the digits of a 16-bit unit: how many are to come, and their value so far. -/
  | unit (p : Draft) (left : Nat) (n : Nat)

def isSpace (c : Char) : Bool := c == ' ' || c == '\n' || c == '\t' || c == '\r'

def mark? : Char → Option Token
  | '[' => some openArr
  | ']' => some closeArr
  | '{' => some openObj
  | '}' => some closeObj
  | ',' => some comma
  | ':' => some colon
  | _ => none

def isWordChar (c : Char) : Bool := c.isAlphanum || c == '+' || c == '-' || c == '.'

def ofWord? (word : List Char) : Option Token :=
  if word == "null".toList then some (value null)
  else if word == "true".toList then some (value (bool true))
  else if word == "false".toList then some (value (bool false))
  else (Number.read? word).map value

def hexDigit? (c : Char) : Option Nat :=
  if '0' ≤ c && c ≤ '9' then some (c.toNat - '0'.toNat)
  else if 'a' ≤ c && c ≤ 'f' then some (c.toNat - 'a'.toNat + 10)
  else if 'A' ≤ c && c ≤ 'F' then some (c.toNat - 'A'.toNat + 10)
  else none

/-- The character that a backslash and a letter stand for. -/
def shortEscape? : Char → Option Char
  | '"' => some '"'
  | '\\' => some '\\'
  | '/' => some '/'
  | 'b' => some '\x08'
  | 'f' => some '\x0c'
  | 'n' => some '\n'
  | 'r' => some '\r'
  | 't' => some '\t'
  | _ => none

/-- Takes a character outside of strings. -/
def start? (c : Char) : Option (List Token × State) :=
  if isSpace c then some ([], .between)
  else if c == '"' then some ([], .string .empty)
  else if isWordChar c then some ([], .word [c])
  else (mark? c).map fun t => ([t], .between)

/-- Takes one character: the tokens that it finishes, and the state after it. -/
def step? (s : State) (c : Char) : Option (List Token × State) :=
  match s with
  | .between => start? c
  | .word cs =>
    if isWordChar c then some ([], .word (c :: cs))
    else do
      let t ← ofWord? cs.reverse
      let (ts, s) ← start? c
      return (t :: ts, s)
  | .string p =>
    if c == '"' then some ([text p.close], .between)
    else if c == '\\' then some ([], .escape p)
    else if c.toNat < 0x20 then none
    else some ([], .string (p.push c))
  | .escape p =>
    if c == 'u' then some ([], .unit p 4 0)
    else (shortEscape? c).map fun c => ([], .string (p.push c))
  | .unit p left n =>
    (hexDigit? c).map fun d =>
      let n := n * 16 + d
      ([], if left ≤ 1 then .string (p.pushUnit n) else .unit p (left - 1) n)

def finish? : State → Option (List Token)
  | .between => some []
  | .word cs => (ofWord? cs.reverse).map fun t => [t]
  | _ => none

/-- Reads on from a state; `done` are the tokens so far, newest first. -/
def tokens? (s : State) (done : List Token) : List Char → Option (List Token)
  | [] => (finish? s).map fun ts => done.reverse ++ ts
  | c :: rest => match step? s c with
    | none => none
    | some (ts, s) => tokens? s (ts.reverse ++ done) rest

end Token

end StoryGraph.Json
