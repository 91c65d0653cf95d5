import StoryGraph.Number.Shortest

/-!
Two ways to write the shortest digits of a float: always positional, as texts shown to players have
it, and with a power of ten for very large and very small numbers, as documents have it.
-/

namespace StoryGraph.Layout

open Shortest

def zeros (n : Nat) : String := String.ofList (List.replicate n '0')

/-- The digits with the point set where the power says; whole numbers get `wholeEnd` after them. -/
def positional (wholeEnd : String) (d : Digits) : String :=
  let ds := Nat.repr d.digits
  let n : Int := ds.length
  let point := n + d.power
  if 0 ≤ d.power then ds ++ zeros d.power.toNat ++ wholeEnd
  else if 0 < point then
    String.ofList (ds.toList.take point.toNat) ++ "." ++ String.ofList (ds.toList.drop point.toNat)
  else "0." ++ zeros (-point).toNat ++ ds

/-- One digit, a point if more follow, and the power of ten with its sign. -/
def exponential (d : Digits) : String :=
  let ds := (Nat.repr d.digits).toList
  let e : Int := (ds.length : Int) - 1 + d.power
  let fraction := if ds.length ≤ 1 then "" else "." ++ String.ofList (ds.drop 1)
  let sign := if e < 0 then "-" else "+"
  String.ofList (ds.take 1) ++ fraction ++ "e" ++ sign ++ Nat.repr e.natAbs

def signed (p : Binary.Parts) (s : String) : String := if p.negative then "-" ++ s else s

/-- The text shown for a float: no power of ten, no point in whole numbers. -/
def plain (x : Float) : String :=
  match Binary.parts? x with
  | none => if x.isNaN then "NaN" else if x < 0 then "-inf" else "inf"
  | some p =>
    signed p (if p.m == 0 then "0" else positional "" (shortest .upward p.m p.q))

/-- The text of a finite float in a document: positional with a point while the power of ten of the
leading digit is between -5 and 15, otherwise one digit and the power. -/
def document (x : Float) : String :=
  match Binary.parts? x with
  | none => "null"
  | some p =>
    let body :=
      if p.m == 0 then "0.0"
      else
        let d := shortest .toEven p.m p.q
        let e : Int := ((Nat.repr d.digits).length : Int) - 1 + d.power
        if -5 ≤ e ∧ e ≤ 15 then positional ".0" d else exponential d
    signed p body

end StoryGraph.Layout
