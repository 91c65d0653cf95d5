import StoryGraph.Text.Invisible

/-!
Texts in double quotes, as reports show them: a quote, a backslash and everything that does not show
by itself is escaped.
-/

namespace StoryGraph.Text

/-- The digits of a number to the base 16. -/
def hex (n : Nat) : List Char := Nat.toDigits 16 n

def escapeQuoted (c : Char) : List Char :=
  match c with
  | '\x00' => ['\\', '0']
  | '\t' => ['\\', 't']
  | '\n' => ['\\', 'n']
  | '\r' => ['\\', 'r']
  | '"' => ['\\', '"']
  | '\\' => ['\\', '\\']
  | c => if isInvisible c then ['\\', 'u', '{'] ++ hex c.toNat ++ ['}'] else [c]

def quoted (s : String) : String := "\"" ++ String.ofList (s.toList.flatMap escapeQuoted) ++ "\""

end StoryGraph.Text
