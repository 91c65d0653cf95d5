import StoryGraph.Json.Basic

/-!
Reading typed data from a document tree. A record is an object, or a row of the values of its fields
in their declared order. Fields that are not declared are passed over; a declared field may not be
given twice. Nothing is converted from one type to another, but a whole number may stand for a float.
-/

namespace StoryGraph.Json

def text? : Json → Option String
  | str s => some s
  | _ => none

def flag? : Json → Option Bool
  | bool b => some b
  | _ => none

/-- A whole number of 64 bits with sign. -/
def int64? : Json → Option Int64
  | int i => if Int64.minValue.toInt ≤ i ∧ i ≤ Int64.maxValue.toInt then some (Int64.ofInt i) else none
  | _ => none

/-- A whole number of 64 bits without sign. -/
def natural? : Json → Option Nat
  | int i => if 0 ≤ i ∧ i < UInt64.size then some i.toNat else none
  | _ => none

def number? : Json → Option Float
  | int i => some (Float.ofInt i)
  | float x => some x
  | _ => none

def list? {α : Type} (read : Json → Option α) : Json → Option (List α)
  | arr items => items.mapM read
  | _ => none

def optional? {α : Type} (read : Json → Option α) : Json → Option (Option α)
  | null => some none
  | j => (read j).map some

/-- The tree without the items of a row beyond the first `n`. -/
def cut (n : Nat) : Json → Json
  | arr items => arr (items.take n)
  | j => j

/-- The pairs of an object, each value read. -/
def pairs? {α : Type} (read : Json → Option α) : Json → Option (List (String × α))
  | obj fields => fields.mapM fun f => (read f.2).map fun v => (f.1, v)
  | _ => none

/-- One of a list of named cases: its name, or an object whose one field has that name and holds
null. -/
def case? {α : Type} (cases : List (String × α)) (j : Json) : Option α :=
  let name : Option String := match j with
    | str s => some s
    | obj [(k, null)] => some k
    | _ => none
  name.bind fun n => (cases.find? fun c => c.1 == n).map Prod.snd

/-- The declared fields that a record holds. -/
structure Record where
  fields : List (String × Json)

def record? (declared : List String) : Json → Option Record
  | obj fields =>
    let known := fields.filter fun f => declared.contains f.1
    if (known.map Prod.fst).Nodup then some ⟨known⟩ else none
  | arr items => if items.length ≤ declared.length then some ⟨declared.zip items⟩ else none
  | _ => none

namespace Record

variable {α : Type}

def find? (r : Record) (name : String) : Option Json :=
  (r.fields.find? fun f => f.1 == name).map Prod.snd

/-- The value of a field that may be left out. -/
def get (r : Record) (name : String) (read : Json → Option α) (default : α) : Option α :=
  match r.find? name with
  | none => some default
  | some j => read j

/-- The value of a field that must be there. -/
def need (r : Record) (name : String) (read : Json → Option α) : Option α :=
  (r.find? name).bind read

end Record

end StoryGraph.Json
