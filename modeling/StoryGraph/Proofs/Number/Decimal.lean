import StoryGraph.Proofs.Number.NotNumber
import StoryGraph.Proofs.Text.Casing
import StoryGraph.Value.Basic

/-!
Decimal text. Main statements: the float that is read does not depend on case, it is a number unless the text is the
word for none, and the text of a number reads as one.
-/

namespace StoryGraph

namespace Text

theorem isDigit_iff {c : Char} : c.isDigit = true ↔ 48 ≤ c.toNat ∧ c.toNat ≤ 57 := by
  rw [Char.isDigit, Bool.and_eq_true, decide_eq_true_iff, decide_eq_true_iff]
  exact and_congr UInt32.le_iff_toNat_le UInt32.le_iff_toNat_le

theorem isDigit_toLower (c : Char) : c.toLower.isDigit = c.isDigit := by
  have code := toNat_toLower c
  rw [Bool.eq_iff_iff, isDigit_iff, isDigit_iff]
  split at code <;> omega

theorem toLower_digit {c : Char} (digit : c.isDigit = true) : c.toLower = c := by
  have code := (isDigit_iff.1 digit).2
  exact (toLower_eq_iff (by omega)).2 rfl

theorem map_toLower_digits {ds : List Char} (digits : ∀ c ∈ ds, c.isDigit = true) : ds.map Char.toLower = ds :=
  (List.map_congr_left fun c mem => toLower_digit (digits c mem)).trans (List.map_id ds)

end Text

namespace Decimal

variable {cs : List Char} {s : String}

theorem takeWhile_fold (cs : List Char) : (cs.map Char.toLower).takeWhile Char.isDigit = cs.takeWhile Char.isDigit := by
  have after : Char.isDigit ∘ Char.toLower = Char.isDigit := funext Text.isDigit_toLower
  rw [List.takeWhile_map, after]
  exact Text.map_toLower_digits fun c mem => List.mem_takeWhile_imp mem

theorem dropWhile_fold (cs : List Char) :
    (cs.map Char.toLower).dropWhile Char.isDigit = (cs.dropWhile Char.isDigit).map Char.toLower := by
  have after : Char.isDigit ∘ Char.toLower = Char.isDigit := funext Text.isDigit_toLower
  rw [List.dropWhile_map, after]

theorem splitSign_plain {c : Char} (minus : c ≠ '-') (plus : c ≠ '+') (rest : List Char) :
    Whole.splitSign (c :: rest) = (false, c :: rest) := by
  unfold Whole.splitSign
  split
  · rename_i same
    exact absurd (List.cons.inj same).1 minus
  · rename_i same
    exact absurd (List.cons.inj same).1 plus
  · rfl

theorem splitSign_fold (cs : List Char) :
    Whole.splitSign (cs.map Char.toLower) = ((Whole.splitSign cs).1, (Whole.splitSign cs).2.map Char.toLower) := by
  cases cs with
  | nil => rfl
  | cons c rest =>
    by_cases minus : c = '-'
    · subst minus
      rfl
    by_cases plus : c = '+'
    · subst plus
      rfl
    have minus' : c.toLower ≠ '-' := fun same => minus ((Text.toLower_eq_iff (by decide)).1 same)
    have plus' : c.toLower ≠ '+' := fun same => plus ((Text.toLower_eq_iff (by decide)).1 same)
    rw [splitSign_plain minus plus, List.map_cons, splitSign_plain minus' plus']

theorem exponent?_fold (cs : List Char) : exponent? (cs.map Char.toLower) = exponent? cs := by
  rw [exponent?, exponent?, splitSign_fold]
  obtain ⟨negative, ds⟩ := Whole.splitSign cs
  have all : (ds.map Char.toLower).all Char.isDigit = ds.all Char.isDigit := by
    rw [List.all_map]
    exact congrArg _ (funext Text.isDigit_toLower)
  cases digits : ds.all Char.isDigit with
  | false => simp [all, digits]
  | true => rw [Text.map_toLower_digits (List.all_eq_true.1 digits)]

theorem isExponentMark_toLower (c : Char) : isExponentMark c.toLower = isExponentMark c := by
  have code := Text.toNat_toLower c
  rw [Bool.eq_iff_iff]
  simp only [isExponentMark, Bool.or_eq_true, beq_iff_eq, ← Char.toNat_inj]
  have small : 'e'.toNat = 101 := rfl
  have capital : 'E'.toNat = 69 := rfl
  split at code <;> omega

/-- The digits after a point, if there is one, and what follows them. -/
def fractionOf : List Char → List Char × List Char
  | '.' :: r => (r.takeWhile Char.isDigit, r.dropWhile Char.isDigit)
  | r => ([], r)

/-- The float of these digits, if nothing follows them but a power of ten. -/
def assembled (whole fraction : List Char) : List Char → Option Float
  | [] => some (nearest (Whole.digitsValue 0 (whole ++ fraction)) (-(fraction.length : Int)))
  | c :: r =>
    if isExponentMark c then
      (exponent? r).map fun e => nearest (Whole.digitsValue 0 (whole ++ fraction)) (e - fraction.length)
    else none

theorem fractionOf_plain {c : Char} (point : c ≠ '.') (rest : List Char) : fractionOf (c :: rest) = ([], c :: rest) := by
  unfold fractionOf
  split
  · rename_i same
    exact absurd (List.cons.inj same).1 point
  · rfl

theorem magnitude?_eq (cs : List Char) :
    magnitude? cs =
      if (cs.takeWhile Char.isDigit).isEmpty && (fractionOf (cs.dropWhile Char.isDigit)).1.isEmpty then none
      else assembled (cs.takeWhile Char.isDigit) (fractionOf (cs.dropWhile Char.isDigit)).1
        (fractionOf (cs.dropWhile Char.isDigit)).2 := by
  simp only [magnitude?]
  generalize cs.takeWhile Char.isDigit = whole
  generalize cs.dropWhile Char.isDigit = rest
  rfl

theorem fractionOf_fold (cs : List Char) :
    fractionOf (cs.map Char.toLower) = ((fractionOf cs).1, (fractionOf cs).2.map Char.toLower) := by
  cases cs with
  | nil => rfl
  | cons c rest =>
    by_cases point : c = '.'
    · subst point
      exact Prod.ext (takeWhile_fold rest) (dropWhile_fold rest)
    · have point' : c.toLower ≠ '.' := fun same => point ((Text.toLower_eq_iff (by decide)).1 same)
      rw [fractionOf_plain point, List.map_cons, fractionOf_plain point']

theorem assembled_fold (whole fraction rest : List Char) :
    assembled whole fraction (rest.map Char.toLower) = assembled whole fraction rest := by
  cases rest with
  | nil => rfl
  | cons c r => simp only [List.map_cons, assembled, isExponentMark_toLower, exponent?_fold]

theorem magnitude?_fold (cs : List Char) : magnitude? (cs.map Char.toLower) = magnitude? cs := by
  simp only [magnitude?_eq, takeWhile_fold, dropWhile_fold, fractionOf_fold, assembled_fold]

/-- What is left of a text without its sign, lowered. -/
def word (s : String) : String := String.ofList (Whole.splitSign (Text.fold s).toList).2

theorem word_eq (s : String) : word s = String.ofList ((Whole.splitSign s.toList).2.map Char.toLower) := by
  rw [word, Text.fold, String.toList_ofList, splitSign_fold]

theorem read?_eq (s : String) :
    read? s = (if word s == "inf" || word s == "infinity" then some (1.0 / 0.0)
      else if word s == "nan" then some (0.0 / 0.0)
      else magnitude? (Whole.splitSign s.toList).2).map fun x => if (Whole.splitSign s.toList).1 then -x else x := by
  rw [word_eq]
  rfl

/-- The float that is read does not depend on case. -/
theorem read?_fold (s : String) : read? (Text.fold s) = read? s := by
  have letters : (Text.fold s).toList = s.toList.map Char.toLower := String.toList_ofList
  have same : word (Text.fold s) = word s := by rw [word, word, Text.fold_fold]
  rw [read?_eq, read?_eq, same, letters, splitSign_fold, magnitude?_fold]

/-! The word for no number. -/

theorem isNaN_nearest (m : Nat) (e : Int) : (nearest m e).isNaN = false := by
  rw [nearest]
  split
  · exact Binary.isNaN_ofNat 0
  · split
    · decide
    · split
      · exact Binary.isNaN_ofNat 0
      · split
        · exact Binary.isNaN_ofScientific m false _
        · exact Binary.isNaN_ofScientific m true _

theorem isNaN_of_magnitude? {x : Float} (h : magnitude? cs = some x) : x.isNaN = false := by
  rw [magnitude?_eq] at h
  split at h
  · cases h
  · rename_i parts
    cases rest : (fractionOf (cs.dropWhile Char.isDigit)).2 with
    | nil =>
      rw [rest, assembled, Option.some.injEq] at h
      subst h
      exact isNaN_nearest _ _
    | cons c r =>
      rw [rest, assembled] at h
      split at h
      · obtain ⟨e, -, rfl⟩ := Option.map_eq_some_iff.1 h
        exact isNaN_nearest _ _
      · cases h

theorem isNaN_neg (x : Float) : (-x).isNaN = x.isNaN := by
  cases nan : x.isNaN with
  | false => exact Binary.isNaN_neg nan
  | true =>
    rw [Float.isNaN_eq_decide_eq_nan, decide_eq_true_iff] at nan
    subst nan
    decide

/-- It is only the word for it that reads as no number. -/
theorem isNaN_of_read? {x : Float} (h : read? s = some x) : x.isNaN = true ↔ word s = "nan" := by
  rw [read?_eq] at h
  obtain ⟨size, read, rfl⟩ := Option.map_eq_some_iff.1 h
  have signed : (if (Whole.splitSign s.toList).1 then -size else size).isNaN = size.isNaN := by
    split
    · exact isNaN_neg size
    · rfl
  rw [signed]
  split at read
  case isTrue infinite =>
    cases read
    refine iff_of_false (by decide) fun nan => ?_
    rw [nan] at infinite
    exact absurd infinite (by decide)
  case isFalse =>
    split at read
    case isTrue nan =>
      cases read
      exact iff_of_true (by decide) (beq_iff_eq.1 nan)
    case isFalse number =>
      refine iff_of_false ?_ fun nan => number (beq_iff_eq.2 nan)
      rw [isNaN_of_magnitude? read]
      exact Bool.false_ne_true

theorem isSome_read?_of_nan (nan : word s = "nan") : (read? s).isSome := by
  rw [read?_eq, nan]
  rfl

/-! Text of numbers. -/

/-- Nothing, or a point and digits. -/
def IsFraction (cs : List Char) : Prop := cs = [] ∨ ∃ ds, cs = '.' :: ds ∧ ∀ c ∈ ds, c.isDigit = true

/-- Digits, and perhaps a point and digits after it. -/
def IsPlain (cs : List Char) : Prop :=
  ∃ whole fraction, cs = whole ++ fraction ∧ whole ≠ [] ∧ (∀ c ∈ whole, c.isDigit = true) ∧ IsFraction fraction

theorem fractionOf_isFraction (h : IsFraction cs) : cs.takeWhile Char.isDigit = [] ∧ (fractionOf cs).2 = [] := by
  obtain rfl | ⟨ds, rfl, digits⟩ := h
  · exact ⟨rfl, rfl⟩
  · exact ⟨rfl, List.dropWhile_eq_nil_iff.2 digits⟩

theorem isSome_magnitude? (plain : IsPlain cs) : (magnitude? cs).isSome := by
  obtain ⟨whole, fraction, rfl, some_digit, digits, ends⟩ := plain
  obtain ⟨stops, nothing⟩ := fractionOf_isFraction ends
  have taken : (whole ++ fraction).takeWhile Char.isDigit = whole := by
    rw [List.takeWhile_append_of_pos digits, stops, List.append_nil]
  have left : (whole ++ fraction).dropWhile Char.isDigit = fraction := by
    rw [List.dropWhile_append_of_pos digits]
    cases fraction with
    | nil => rfl
    | cons c rest =>
      have stop : c.isDigit = false := by simpa using stops
      rw [List.dropWhile_cons, stop]
      rfl
  have first : whole.isEmpty = false := by simpa using some_digit
  rw [magnitude?_eq, taken, left, nothing, first]
  rfl

theorem IsPlain.code {c : Char} (plain : IsPlain cs) (mem : c ∈ cs) : 46 ≤ c.toNat ∧ c.toNat ≤ 57 := by
  have digit {c : Char} (h : c.isDigit = true) : 46 ≤ c.toNat ∧ c.toNat ≤ 57 := by
    have code := Text.isDigit_iff.1 h
    omega
  obtain ⟨whole, fraction, rfl, -, digits, rfl | ⟨ds, rfl, digits'⟩⟩ := plain
  · exact digit (digits c (by simpa using mem))
  · obtain here | rfl | there : c ∈ whole ∨ c = '.' ∨ c ∈ ds := by simpa using mem
    · exact digit (digits c here)
    · decide
    · exact digit (digits' c there)

theorem splitSign_of_plain {negative : Bool} (signed : s.toList = if negative then '-' :: cs else cs)
    (plain : IsPlain cs) : Whole.splitSign s.toList = (negative, cs) := by
  cases negative with
  | true =>
    rw [signed]
    rfl
  | false =>
    have letters : s.toList = cs := signed
    rw [letters]
    obtain ⟨whole, fraction, rfl, some_digit, -⟩ := id plain
    cases whole with
    | nil => exact absurd rfl some_digit
    | cons c rest =>
      have code := plain.code (c := c) (by simp)
      have minus : c ≠ '-' := by
        rintro rfl
        exact absurd code (by decide)
      have plus : c ≠ '+' := by
        rintro rfl
        exact absurd code (by decide)
      exact splitSign_plain minus plus _

theorem isSome_read?_of_plain {negative : Bool} (signed : s.toList = if negative then '-' :: cs else cs)
    (plain : IsPlain cs) : (read? s).isSome := by
  rw [read?_eq, Option.isSome_map, splitSign_of_plain signed plain]
  split
  · rfl
  · split
    · rfl
    · exact isSome_magnitude? plain

theorem trim_of_plain {negative : Bool} (signed : s.toList = if negative then '-' :: cs else cs)
    (plain : IsPlain cs) : Text.trim s = s := by
  have filled : ∀ c ∈ s.toList, Text.isBlankChar c = false := by
    intro c mem
    have code : 45 ≤ c.toNat ∧ c.toNat ≤ 57 := by
      rw [signed] at mem
      cases negative with
      | true =>
        obtain rfl | mem := List.mem_cons.1 mem
        · decide
        · have code := plain.code mem
          omega
      | false =>
        have code := plain.code mem
        omega
    simp [Text.isBlankChar, Text.blankRanges]
    omega
  rw [Text.trim, Text.strip_of_none filled, String.ofList_toList]

theorem isPlain_digits {ds : List Char} (some_digit : ds ≠ []) (digits : ∀ c ∈ ds, c.isDigit = true) : IsPlain ds :=
  ⟨ds, [], (List.append_nil ds).symm, some_digit, digits, .inl rfl⟩

theorem digits_repr (n : Nat) : (Nat.repr n).toList ≠ [] ∧ ∀ c ∈ (Nat.repr n).toList, c.isDigit = true := by
  have letters : (Nat.repr n).toList = Nat.toDigits 10 n := String.toList_ofList
  rw [letters]
  exact ⟨Nat.toDigits_ne_nil, fun c mem => Nat.isDigit_of_mem_toDigits (by decide) (by decide) mem⟩

theorem digits_zeros (n : Nat) : ∀ c ∈ (Layout.zeros n).toList, c.isDigit = true := by
  intro c mem
  rw [Layout.zeros, String.toList_ofList] at mem
  rw [List.eq_of_mem_replicate mem]
  rfl

theorem isPlain_positional (d : Shortest.Digits) : IsPlain (Layout.positional "" d).toList := by
  obtain ⟨some_digit, digits⟩ := digits_repr d.digits
  simp only [Layout.positional]
  split
  · have letters : (Nat.repr d.digits ++ Layout.zeros d.power.toNat ++ "").toList =
        (Nat.repr d.digits).toList ++ (Layout.zeros d.power.toNat).toList := by
      simp only [String.toList_append, String.toList_empty, List.append_nil]
    rw [letters]
    refine isPlain_digits (fun none => some_digit (List.append_eq_nil_iff.1 none).1) fun c mem => ?_
    exact (List.mem_append.1 mem).elim (digits c) (digits_zeros _ c)
  · split
    · rename_i point
      have positive : (((Nat.repr d.digits).length : Int) + d.power).toNat ≠ 0 := by omega
      generalize (((Nat.repr d.digits).length : Int) + d.power).toNat = k at positive ⊢
      refine ⟨(Nat.repr d.digits).toList.take k, '.' :: (Nat.repr d.digits).toList.drop k, ?_, ?_, ?_, .inr ⟨_, rfl, ?_⟩⟩
      · simp only [String.toList_append, String.toList_ofList, List.append_assoc]
        rfl
      · simp [positive]
      · exact fun c mem => digits c (List.mem_of_mem_take mem)
      · exact fun c mem => digits c (List.mem_of_mem_drop mem)
    · generalize (-(((Nat.repr d.digits).length : Int) + d.power)).toNat = k
      refine ⟨['0'], '.' :: ((Layout.zeros k).toList ++ (Nat.repr d.digits).toList), ?_, by simp, ?_, .inr ⟨_, rfl, ?_⟩⟩
      · simp only [String.toList_append, List.append_assoc]
        rfl
      · exact List.forall_mem_singleton.2 rfl
      · exact fun c mem => (List.mem_append.1 mem).elim (digits_zeros k c) (digits c)

/-- The text of a number reads as a float. -/
theorem isSome_display {v : Value} (number : v.kind? = some .int ∨ v.kind? = some .float) :
    (read? (Text.trim v.display)).isSome := by
  have reads {s : String} {cs : List Char} (negative : Bool) (plain : IsPlain cs)
      (signed : s.toList = if negative then '-' :: cs else cs) : (read? (Text.trim s)).isSome := by
    rw [trim_of_plain signed plain]
    exact isSome_read?_of_plain signed plain
  have whole (n : Nat) : IsPlain (Nat.repr n).toList := isPlain_digits (digits_repr n).1 (digits_repr n).2
  cases v with
  | null | bool | string => simp [Value.kind?] at number
  | int i =>
    rw [Value.display, Whole.write]
    cases i.toInt with
    | ofNat n => exact reads false (whole n) rfl
    | negSucc n =>
      refine reads true (whole (n + 1)) ?_
      exact String.toList_append
  | float x =>
    rw [Value.display, Layout.plain]
    split
    · split
      · decide
      · split <;> decide
    · rename_i p _
      have plain : IsPlain (if p.m == 0 then "0" else Layout.positional "" (Shortest.shortest .upward p.m p.q)).toList := by
        split
        · exact isPlain_digits (List.cons_ne_nil '0' []) (List.forall_mem_singleton.2 rfl)
        · exact isPlain_positional _
      refine reads p.negative plain ?_
      rw [Layout.signed]
      split
      · exact String.toList_append
      · rfl

end Decimal
end StoryGraph
