import StoryGraph.Text.Casing
import StoryGraph.Text.Blank
import StoryGraph.Number.Decimal
import StoryGraph.Number.Layout

/-!
The primitive values of properties, variables and outputs. Authors write numbers as text and flags as
numbers, so a value keeps what was written and is read as a flag, a number or a text on demand. A
reading with a question mark may fail; its total form answers false, zero or the empty text instead.
-/

namespace StoryGraph

/-- The kinds that a property can be declared as. -/
inductive Kind where
  | bool
  | int
  | float
  | string
deriving DecidableEq, Repr

def Kind.name : Kind → String
  | bool => "bool"
  | int => "int"
  | float => "float"
  | string => "string"

inductive Value where
  | null
  | bool (b : Bool)
  | int (i : Int64)
  | float (x : Float)
  | string (s : String)
deriving DecidableEq

namespace Value

instance : Inhabited Value := ⟨null⟩

def kind? : Value → Option Kind
  | null => none
  | bool _ => some .bool
  | int _ => some .int
  | float _ => some .float
  | string _ => some .string

/-- The text of a value that is a text. -/
def asString? : Value → Option String
  | string s => some s
  | _ => none

/-- The text that shows the value. -/
def display : Value → String
  | null => "null"
  | bool b => if b then "true" else "false"
  | int i => Whole.write i
  | float x => Layout.plain x
  | string s => s

/-- Words for yes and no count in any case; other text counts as the number that it spells. -/
def toBool? : Value → Option Bool
  | null => none
  | bool b => some b
  | int i => some (i != 0)
  | float x => some (x != 0.0)
  | string s =>
    let s := Text.trim s
    if Text.sameName s "true" || Text.sameName s "yes" then some true
    else if Text.sameName s "false" || Text.sameName s "no" then some false
    else (Decimal.read? s).map fun x => x != 0.0

/-- Floats lose their fraction, and what lies outside the range becomes its nearer end. -/
def toInt? : Value → Option Int64
  | null => none
  | bool b => some (if b then 1 else 0)
  | int i => some i
  | float x => Binary.truncate? x
  | string s =>
    let s := Text.trim s
    match Whole.read? s with
    | some i => some i
    | none => (Decimal.read? s).bind Binary.truncate?

def toFloat? : Value → Option Float
  | null => none
  | bool b => some (if b then 1.0 else 0.0)
  | int i => some (Whole.toFloat i)
  | float x => some x
  | string s => Decimal.read? (Text.trim s)

def toText? : Value → Option String
  | null => none
  | v => some v.display

def toBool (v : Value) : Bool := v.toBool?.getD false
def toInt (v : Value) : Int64 := v.toInt?.getD 0
def toFloat (v : Value) : Float := v.toFloat?.getD 0.0
def toText (v : Value) : String := v.toText?.getD ""

end Value

end StoryGraph
