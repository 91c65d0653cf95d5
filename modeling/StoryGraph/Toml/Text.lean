/-!
The four kinds of strings in TOML. In double quotes a backslash begins an escape; in single quotes all
characters stand for themselves. Three quotes open a string that may hold line breaks, the first of
which is dropped if it comes at once.
-/

namespace StoryGraph.Toml

/-- What was read, and the text after it. -/
abbrev Reading (α : Type) := Option (α × List Char)

def isBlank (c : Char) : Bool := c == ' ' || c == '\t'

/-- Whether a character may stand in a string or a comment as it is. -/
def isPlain (c : Char) : Bool := c == '\t' || (decide (0x20 ≤ c.toNat) && c.toNat != 0x7F)

def hexDigit? (c : Char) : Option Nat :=
  if '0' ≤ c && c ≤ '9' then some (c.toNat - '0'.toNat)
  else if 'a' ≤ c && c ≤ 'f' then some (c.toNat - 'a'.toNat + 10)
  else if 'A' ≤ c && c ≤ 'F' then some (c.toNat - 'A'.toNat + 10)
  else none

/-- The character of a code point in hexadecimal digits. -/
def codePoint? (ds : List Char) : Option Char := do
  let ns ← ds.mapM hexDigit?
  let n := ns.foldl (fun n d => n * 16 + d) 0
  if n.isValidChar then some (Char.ofNat n) else none

/-- The character that an escape stands for, with the text after it; `cs` follows the backslash. -/
def escape? (cs : List Char) : Reading Char :=
  match cs with
  | 'b' :: rest => some ('\x08', rest)
  | 't' :: rest => some ('\t', rest)
  | 'n' :: rest => some ('\n', rest)
  | 'f' :: rest => some ('\x0c', rest)
  | 'r' :: rest => some ('\r', rest)
  | '"' :: rest => some ('"', rest)
  | '\\' :: rest => some ('\\', rest)
  | 'u' :: rest =>
    if rest.length < 4 then none else (codePoint? (rest.take 4)).map fun c => (c, rest.drop 4)
  | 'U' :: rest =>
    if rest.length < 8 then none else (codePoint? (rest.take 8)).map fun c => (c, rest.drop 8)
  | _ => none

theorem length_escape {cs rest : List Char} {c : Char} (h : escape? cs = some (c, rest)) :
    rest.length < cs.length := by
  unfold escape? at h
  split at h
  case h_8 =>
    split at h
    · simp at h
    · obtain ⟨d, _, hd⟩ := Option.map_eq_some_iff.1 h
      simp only [Prod.mk.injEq] at hd
      simp only [← hd.2, List.length_drop, List.length_cons]
      omega
  case h_9 =>
    split at h
    · simp at h
    · obtain ⟨d, _, hd⟩ := Option.map_eq_some_iff.1 h
      simp only [Prod.mk.injEq] at hd
      simp only [← hd.2, List.length_drop, List.length_cons]
      omega
  all_goals simp at h
  all_goals simp [← h.2]

/-- The text after a backslash at the end of a line, blanks and line breaks skipped. -/
def continued? (cs : List Char) : Option (List Char) :=
  match cs.dropWhile isBlank with
  | '\n' :: rest => some (rest.dropWhile fun c => isBlank c || c == '\n')
  | _ => none

theorem length_continued {cs rest : List Char} (h : continued? cs = some rest) :
    rest.length < cs.length := by
  unfold continued? at h
  split at h
  · rename_i r hr
    simp only [Option.some.injEq] at h
    have h1 := (List.dropWhile_suffix isBlank (l := cs)).length_le
    have h2 := (List.dropWhile_suffix (fun c => isBlank c || c == '\n') (l := r)).length_le
    rw [hr] at h1
    rw [← h]
    simp only [List.length_cons] at h1
    omega
  · simp at h

/-- The rest of a string in single quotes. -/
def literal? (cs : List Char) : Reading String :=
  match cs.dropWhile fun c => c != '\'' with
  | _ :: rest =>
    let body := cs.takeWhile fun c => c != '\''
    if body.all isPlain then some (String.ofList body, rest) else none
  | [] => none

/-- The rest of a string in three single quotes; `done` is what was read, newest first. -/
def longLiteral? (done : List Char) : List Char → Reading String
  | '\'' :: '\'' :: '\'' :: '\'' :: '\'' :: rest => some (String.ofList ('\'' :: '\'' :: done).reverse, rest)
  | '\'' :: '\'' :: '\'' :: '\'' :: rest => some (String.ofList ('\'' :: done).reverse, rest)
  | '\'' :: '\'' :: '\'' :: rest => some (String.ofList done.reverse, rest)
  | c :: rest => if isPlain c || c == '\n' then longLiteral? (c :: done) rest else none
  | [] => none

/-- The rest of a string in double quotes; `done` is what was read, newest first. -/
def basic? (done : List Char) (cs : List Char) : Reading String :=
  match cs with
  | '"' :: rest => some (String.ofList done.reverse, rest)
  | '\\' :: rest =>
    match _h : escape? rest with
    | some (c, rest) => basic? (c :: done) rest
    | none => none
  | c :: rest => if isPlain c then basic? (c :: done) rest else none
  | [] => none
termination_by cs.length
decreasing_by
  · have := length_escape _h
    simp only [List.length_cons]
    omega
  · simp

/-- The rest of a string in three double quotes; `done` is what was read, newest first. -/
def longBasic? (done : List Char) (cs : List Char) : Reading String :=
  match cs with
  | '"' :: '"' :: '"' :: '"' :: '"' :: rest => some (String.ofList ('"' :: '"' :: done).reverse, rest)
  | '"' :: '"' :: '"' :: '"' :: rest => some (String.ofList ('"' :: done).reverse, rest)
  | '"' :: '"' :: '"' :: rest => some (String.ofList done.reverse, rest)
  | '\\' :: rest =>
    match _h : escape? rest with
    | some (c, rest) => longBasic? (c :: done) rest
    | none =>
      match _h : continued? rest with
      | some rest => longBasic? done rest
      | none => none
  | c :: rest => if isPlain c || c == '\n' then longBasic? (c :: done) rest else none
  | [] => none
termination_by cs.length
decreasing_by
  · have := length_escape _h
    simp only [List.length_cons]
    omega
  · have := length_continued _h
    simp only [List.length_cons]
    omega
  · simp

def dropFirstBreak : List Char → List Char
  | '\n' :: rest => rest
  | cs => cs

/-- A string on one line, as keys may be written. -/
def shortText? : List Char → Reading String
  | '"' :: rest => basic? [] rest
  | '\'' :: rest => literal? rest
  | _ => none

/-- A string of any kind. -/
def text? : List Char → Reading String
  | '"' :: '"' :: '"' :: rest => longBasic? [] (dropFirstBreak rest)
  | '\'' :: '\'' :: '\'' :: rest => longLiteral? [] (dropFirstBreak rest)
  | cs => shortText? cs

end StoryGraph.Toml
