import StoryGraph.Json.Basic

/-!
Nested tables in the making. A table comes into being by its own header, by a longer header or by a
dotted key; a header may not come twice, and dotted keys may only add to what dotted keys have made.
On the way there they pass through tables that longer headers have made, and through the newest table
of a row.
-/

namespace StoryGraph.Toml

/-- How a table came into being. -/
inductive Origin where
  | headed
  /-- By the header of a table within it. -/
  | implied
  | dotted
deriving DecidableEq

inductive Item where
  | value (j : Json)
  | table (origin : Origin) (entries : List (String × Item))
  /-- A row of tables under one name, newest first. -/
  | rows (tables : List (List (String × Item)))

abbrev Entries := List (String × Item)

namespace Item

mutual

def toJson : Item → Json
  | value j => j
  | table _ es => .obj (entriesToJson es)
  | rows ts => .arr (rowsToJson ts).reverse

def entriesToJson : List (String × Item) → List (String × Json)
  | [] => []
  | (k, i) :: rest => (k, toJson i) :: entriesToJson rest

def rowsToJson : List (List (String × Item)) → List Json
  | [] => []
  | es :: rest => .obj (entriesToJson es) :: rowsToJson rest

end

end Item

namespace Entries

def toJson (es : Entries) : Json := .obj (Item.entriesToJson es)

/-- Replaces what stands under a name, or adds it at the end. -/
def update? (k : String) (f : Option Item → Option Item) : Entries → Option Entries
  | [] => (f none).map fun i => [(k, i)]
  | (a, i) :: rest =>
    if a == k then (f (some i)).map fun i => (a, i) :: rest
    else (update? k f rest).map ((a, i) :: ·)

/-- Changes the table under the path of a header. In a row of tables the newest one is meant. -/
def inside? (f : Entries → Option Entries) : List String → Entries → Option Entries
  | [], es => f es
  | k :: path, es => update? k (fun
      | none => (inside? f path []).map (Item.table .implied)
      | some (.table o es) => (inside? f path es).map (Item.table o)
      | some (.rows (es :: rest)) => (inside? f path es).map fun es => .rows (es :: rest)
      | _ => none) es

/-- Puts a value under a dotted key. -/
def put? (j : Json) : List String → Entries → Option Entries
  | [], _ => none
  | [k], es => update? k (fun
      | none => some (.value j)
      | some _ => none) es
  | k :: path, es => update? k (fun
      | none => (put? j path []).map (Item.table .dotted)
      | some (.table o es) =>
        if o == .headed || (o == .implied && path.length == 1) then none
        else (put? j path es).map (Item.table o)
      | some (.rows (es :: rest)) =>
        if path.length == 1 then none else (put? j path es).map fun es => .rows (es :: rest)
      | _ => none) es

def openTable? (k : String) (es : Entries) : Option Entries :=
  update? k (fun
    | none => some (.table .headed [])
    | some (.table .implied es) => some (.table .headed es)
    | _ => none) es

def openRow? (k : String) (es : Entries) : Option Entries :=
  update? k (fun
    | none => some (.rows [[]])
    | some (.rows ts) => some (.rows ([] :: ts))
    | _ => none) es

end Entries

end StoryGraph.Toml
