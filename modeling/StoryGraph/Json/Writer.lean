import StoryGraph.Number.Layout
import StoryGraph.Json.Basic

/-!
Writing a document's text without blanks. Quotes, backslashes and the characters below U+0020 are
escaped, all others are written as they are.
-/

namespace StoryGraph.Json

namespace Writer

def hexDigit (n : Nat) : Char := if n < 10 then Char.ofNat (48 + n) else Char.ofNat (87 + n)

def escape (c : Char) : List Char :=
  match c with
  | '"' => ['\\', '"']
  | '\\' => ['\\', '\\']
  | '\x08' => ['\\', 'b']
  | '\x0c' => ['\\', 'f']
  | '\n' => ['\\', 'n']
  | '\r' => ['\\', 'r']
  | '\t' => ['\\', 't']
  | c => if c.toNat < 0x20 then ['\\', 'u', '0', '0', hexDigit (c.toNat / 16), hexDigit (c.toNat % 16)] else [c]

def quoted (s : String) : String := "\"" ++ String.ofList (s.toList.flatMap escape) ++ "\""

end Writer

mutual

def write : Json → String
  | null => "null"
  | bool b => if b then "true" else "false"
  | int i => toString i
  | float x => Layout.document x
  | str s => Writer.quoted s
  | arr items => "[" ++ ",".intercalate (writeItems items) ++ "]"
  | obj fields => "\x7b" ++ ",".intercalate (writeFields fields) ++ "\x7d"
  | unreadable => "null"

def writeItems : List Json → List String
  | [] => []
  | j :: rest => write j :: writeItems rest

def writeFields : List (String × Json) → List String
  | [] => []
  | (k, j) :: rest => (Writer.quoted k ++ ":" ++ write j) :: writeFields rest

end

end StoryGraph.Json
