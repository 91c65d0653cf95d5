import StoryGraph.Number.Decimal
import StoryGraph.Json.Basic
import StoryGraph.Toml.Text

/-!
The words of TOML: whole numbers in four bases, floats, flags, and points in time. Digits may be
grouped by single underscores. Points in time are checked and read as tables without entries.
-/

namespace StoryGraph.Toml

/-- Digits without the underscores between them; none if an underscore stands elsewhere. -/
def digits? (isDigit : Char → Bool) : List Char → Option (List Char)
  | [] => none
  | [d] => if isDigit d then some [d] else none
  | d :: '_' :: rest => if isDigit d then (digits? isDigit rest).map (d :: ·) else none
  | d :: rest => if isDigit d then (digits? isDigit rest).map (d :: ·) else none

/-- Digits to the base ten that do not begin with a needless zero. -/
def decimal? (cs : List Char) : Option (List Char) :=
  match digits? Char.isDigit cs with
  | some ('0' :: _ :: _) => none
  | ds => ds

def inBase? (base : Nat) (cs : List Char) : Option Nat := do
  let ds ← digits? (fun c => (hexDigit? c).any fun d => decide (d < base)) cs
  let ns ← ds.mapM hexDigit?
  return ns.foldl (fun n d => n * base + d) 0

def whole? (word : List Char) : Option Int :=
  match word with
  | '0' :: 'x' :: cs => (inBase? 16 cs).map Int.ofNat
  | '0' :: 'o' :: cs => (inBase? 8 cs).map Int.ofNat
  | '0' :: 'b' :: cs => (inBase? 2 cs).map Int.ofNat
  | cs =>
    let (negative, cs) := Whole.splitSign cs
    (decimal? cs).map fun ds =>
      let n : Int := Whole.digitsValue 0 ds
      if negative then -n else n

def isExponentMark (c : Char) : Bool := c == 'e' || c == 'E'

/-- The parts of a float that are there are digits: the whole part, the fraction and the exponent. -/
def isFloat (cs : List Char) : Bool :=
  let whole := cs.takeWhile fun c => c != '.' && !isExponentMark c
  let rest := cs.dropWhile fun c => c != '.' && !isExponentMark c
  let (fraction, rest) := match rest with
    | '.' :: r => (some (r.takeWhile fun c => !isExponentMark c), r.dropWhile fun c => !isExponentMark c)
    | r => (none, r)
  (decimal? whole).isSome &&
    fraction.all (fun ds => (digits? Char.isDigit ds).isSome) &&
    (match rest with
      | [] => fraction.isSome
      | _ :: r => (digits? Char.isDigit (Whole.splitSign r).2).isSome)

/-- Digits too large for a float are refused if positive, and read as negative infinity if negative. -/
def float? (word : List Char) : Option Float :=
  let unsigned := (Whole.splitSign word).2
  if unsigned == "inf".toList || unsigned == "nan".toList then Decimal.read? (String.ofList word)
  else if isFloat unsigned then
    (Decimal.read? (String.ofList (word.filter fun c => c != '_'))).filter fun x => !x.isInf || x < 0.0
  else none

/-- The value of exactly `n` digits. -/
def count? (n : Nat) (cs : List Char) : Option Nat :=
  if cs.length == n && cs.all Char.isDigit then some (Whole.digitsValue 0 cs) else none

def daysOf (year month : Nat) : Nat :=
  if month == 2 then if year % 4 == 0 && (year % 100 != 0 || year % 400 == 0) then 29 else 28
  else if [4, 6, 9, 11].contains month then 30 else 31

def isDate (cs : List Char) : Bool :=
  match cs with
  | [a, b, c, d, '-', e, f, '-', g, h] =>
    match count? 4 [a, b, c, d], count? 2 [e, f], count? 2 [g, h] with
    | some year, some month, some day =>
      decide (1 ≤ month ∧ month ≤ 12 ∧ 1 ≤ day ∧ day ≤ daysOf year month)
    | _, _, _ => false
  | _ => false

def isHourMinute (cs : List Char) : Bool :=
  match cs with
  | [a, b, ':', c, d] =>
    (count? 2 [a, b]).any (fun n => decide (n ≤ 23)) && (count? 2 [c, d]).any (fun n => decide (n ≤ 59))
  | _ => false

def isTime (cs : List Char) : Bool :=
  isHourMinute (cs.take 5) &&
    match cs.drop 5 with
    | ':' :: a :: b :: rest =>
      (count? 2 [a, b]).any (fun n => decide (n ≤ 60)) &&
        (match rest with
          | [] => true
          | '.' :: ds => !ds.isEmpty && ds.all Char.isDigit
          | _ => false)
    | _ => false

/-- A time with the distance of its zone after it, or without. -/
def isZonedTime (cs : List Char) : Bool :=
  let zone := cs.dropWhile fun c => c != 'Z' && c != 'z' && c != '+' && c != '-'
  isTime (cs.takeWhile fun c => c != 'Z' && c != 'z' && c != '+' && c != '-') &&
    match zone with
    | [] => true
    | c :: offset => if c == 'Z' || c == 'z' then offset.isEmpty else isHourMinute offset

def isMoment (word : List Char) : Bool :=
  isDate word || isTime word ||
    (isDate (word.take 10) &&
      match word.drop 10 with
      | c :: time => (c == 'T' || c == 't' || c == ' ') && isZonedTime time
      | [] => false)

def ofWord? (word : List Char) : Option Json :=
  if word == "true".toList then some (.bool true)
  else if word == "false".toList then some (.bool false)
  else if isMoment word then some (.obj [])
  else match whole? word with
    | some i => if Int64.minValue.toInt ≤ i ∧ i ≤ Int64.maxValue.toInt then some (.int i) else none
    | none => (float? word).map .float

def isWordChar (c : Char) : Bool := c.isAlphanum || c == '_' || c == '+' || c == '-' || c == '.' || c == ':'

/-- A word at the beginning of a text. A date may be parted from its time by one space. -/
def scalar? (cs : List Char) : Reading Json :=
  let word := cs.takeWhile isWordChar
  let rest := cs.dropWhile isWordChar
  let (word, rest) := match rest with
    | ' ' :: r =>
      if isDate word && (r.head?.any Char.isDigit) then (word ++ ' ' :: r.takeWhile isWordChar, r.dropWhile isWordChar)
      else (word, rest)
    | _ => (word, rest)
  (ofWord? word).map fun j => (j, rest)

end StoryGraph.Toml
