import StoryGraph.Proofs.Json.Hereditary
import StoryGraph.Proofs.Number.Finite

/-!
Trees whose numbers are in range: whole numbers of 64 bits, with or without a sign, and finite floats. Main
statement: a tree that is read from a text is in range.
-/

namespace StoryGraph.Json

inductive Bounded : Json → Prop where
  | null : Bounded null
  | bool (b : Bool) : Bounded (bool b)
  | int {i : Int} (least : Int64.minValue.toInt ≤ i) (most : i < UInt64.size) : Bounded (int i)
  | float {x : Float} (finite : x.isFinite = true) : Bounded (float x)
  | str (s : String) : Bounded (str s)
  | arr {items : List Json} (inner : ∀ i ∈ items, Bounded i) : Bounded (arr items)
  | obj {fields : List (String × Json)} (inner : ∀ f ∈ fields, Bounded f.2) : Bounded (obj fields)
  | unreadable : Bounded unreadable

/-! Numbers. -/

namespace Number

theorem leading_lt {n : Nat} (h : n < UInt64.size) (ds : List Char) : (leading n ds).1 < UInt64.size := by
  induction ds generalizing n with
  | nil => exact h
  | cons c rest ih =>
    simp only [leading]
    split
    case isTrue fits => exact ih fits
    case isFalse => exact h

theorem following_lt {n : Nat} (h : n < UInt64.size) (ds : List Char) : (following n ds).1 < UInt64.size := by
  induction ds generalizing n with
  | nil => exact h
  | cons c rest ih =>
    simp only [following]
    split
    case isTrue fits => exact ih fits
    case isFalse => exact h

theorem isFinite_scale? {x y : Float} {e : Int} (h : scale? x e = some y) (hx : x.isFinite = true) :
    y.isFinite = true := by
  fun_induction scale? x e with
  | case1 | case6 =>
    cases h
    exact hx
  | case2 | case3 => cases h
  | case4 x e above below product finite =>
    have number : product.isNaN = false :=
      Binary.isNaN_mul (Binary.isNaN_of_isFinite hx) (Binary.isProper_powerOfTen (by omega))
    rw [← Option.some.inj h]
    exact Binary.isFinite_of_isNaN_of_isInf number (Bool.eq_false_iff.2 finite)
  | case5 =>
    rw [← Option.some.inj h]
    exact Binary.isFinite_div hx (Binary.isLarge_powerOfTen (by omega) (by omega))
  | case7 x e _ _ _ _ ih =>
    exact ih h (Binary.isFinite_div hx (Binary.isLarge_powerOfTen (by decide) (Nat.le_refl _)))

theorem Literal.isFinite_toFloat? {l : Literal} {x : Float} (h : l.toFloat? = some x) : x.isFinite = true := by
  simp only [toFloat?, Option.map_eq_some_iff] at h
  obtain ⟨size, read, rfl⟩ := h
  have digits : (Float.ofNat (following (leading 0 l.whole).1 (l.fraction.getD [])).1).isFinite = true :=
    Binary.isFinite_ofNat (following_lt (leading_lt (by decide) _) _)
  have finite : size.isFinite = true := by
    split at read
    · exact isFinite_scale? read digits
    · split at read
      · split at read
        · cases read
          decide
        · cases read
      · exact isFinite_scale? read digits
  split
  · exact Binary.isFinite_neg finite
  · exact finite

theorem Literal.bounded_toJson (l : Literal) : l.toJson.Bounded := by
  simp only [toJson]
  split
  case isTrue whole =>
    simp only [Bool.and_eq_true, decide_eq_true_eq] at whole
    split
    · exact .int (by simp) (by omega)
    · split
      case isTrue fits =>
        simp only [Bool.and_eq_true, decide_eq_true_eq] at fits
        exact .int fits.2 (by omega)
      case isFalse => exact .float (Binary.isFinite_neg (Binary.isFinite_ofNat whole.2))
  case isFalse =>
    split
    case h_1 x read => exact .float (isFinite_toFloat? read)
    case h_2 => exact .unreadable

end Number

theorem hereditary_bounded : Hereditary Bounded where
  null := .null
  bool := .bool
  str := .str
  unreadable := .unreadable
  number l := l.bounded_toJson
  arr := by
    refine ⟨fun h => ?_, .arr⟩
    cases h with
    | arr inner => exact inner
  obj := by
    refine ⟨fun h => ?_, .obj⟩
    cases h with
    | obj inner => exact inner

theorem bounded_read? {text : String} {j : Json} (h : read? text = some j) : j.Bounded := hereditary_bounded.read? h

end StoryGraph.Json
