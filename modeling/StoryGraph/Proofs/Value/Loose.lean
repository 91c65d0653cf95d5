import StoryGraph.Proofs.Value.Comparison

/-!
Numbers and texts under the loose equality. Main statement: integers are compared by the nearest integers of 53 bits,
and texts without their case, save those that spell what is no number.
-/

namespace StoryGraph.Value

variable {i j : Int64} {s t : String}

theorem compare_int (i j : Int64) :
    (int i).compare (int j) = some (Ord.compare (Whole.rounded i.toInt) (Whole.rounded j.toInt)) := by
  rw [compare_of_numbers rfl rfl]
  exact Whole.compareFloats_toFloat i j

theorem looselyEquals_int : (int i).looselyEquals (int j) = true ↔ Whole.rounded i.toInt = Whole.rounded j.toInt := by
  have plain (i : Int64) : (int i).IsPlain := by simp [IsPlain]
  rw [looselyEquals_of_numbers (plain i) (plain j) rfl rfl, ← compareFloats_eq_iff, Whole.compareFloats_toFloat,
    Option.some.injEq, compare_eq_iff_eq]

/-- The order of two integers is exact unless they differ and have the same nearest integer. -/
theorem compare_int_exact :
    (int i).compare (int j) = some (Ord.compare i.toInt j.toInt) ↔
      (Whole.rounded i.toInt = Whole.rounded j.toInt → i = j) := by
  rw [compare_int, Option.some.injEq]
  constructor
  · intro exact same
    rw [same, compare_eq_iff_eq.2 rfl] at exact
    exact Int64.toInt_inj.1 (compare_eq_iff_eq.1 exact.symm)
  · intro apart
    by_cases same : i = j
    · rw [same, compare_eq_iff_eq.2 rfl, compare_eq_iff_eq.2 rfl]
    · have unlike := mt apart same
      obtain less | equal | less := lt_trichotomy i.toInt j.toInt
      · have order := lt_of_le_of_ne (Whole.rounded_mono (Int.le_of_lt less)) unlike
        rw [compare_lt_iff_lt.2 less, compare_lt_iff_lt.2 order]
      · exact absurd (Int64.toInt_inj.1 equal) same
      · have order := lt_of_le_of_ne (Whole.rounded_mono (Int.le_of_lt less)) (Ne.symm unlike)
        rw [compare_gt_iff_gt.2 less, compare_gt_iff_gt.2 order]

/-- The order of two integers may be lost, but is never turned round. -/
theorem compare_int_of_lt (less : i.toInt < j.toInt) :
    (int i).compare (int j) = some .lt ∨ (int i).compare (int j) = some .eq := by
  rw [compare_int, Option.some.injEq, Option.some.injEq, compare_lt_iff_lt, compare_eq_iff_eq]
  exact Int.lt_or_eq_of_le (Whole.rounded_mono (Int.le_of_lt less))

/-- Of at most 53 bits, or the power of two that comes next. -/
def IsShort (i : Int64) : Prop := -2 ^ 53 ≤ i.toInt ∧ i.toInt ≤ 2 ^ 53

instance : Decidable (IsShort i) := instDecidableAnd

theorem IsShort.eq_of_rounded (here : IsShort i) (there : IsShort j)
    (same : Whole.rounded i.toInt = Whole.rounded j.toInt) : i = j := by
  rw [Whole.rounded_of_short here.1 here.2, Whole.rounded_of_short there.1 there.2] at same
  exact Int64.toInt_inj.1 same

/-- Two texts that differ in case only are equal, unless they spell what is no number. -/
theorem looselyEquals_of_sameName (same : Text.sameName s t = true) :
    (string s).looselyEquals (string t) = true ↔ Decimal.word (Text.trim s) ≠ "nan" := by
  have plain (s : String) : (string s).IsPlain := by simp [IsPlain]
  cases read : (string s).toFloat? with
  | none =>
    rw [looselyEquals_of_words (plain s) (plain t) (.inl read)]
    refine iff_of_true same fun nan => ?_
    have reads := Decimal.isSome_read?_of_nan nan
    rw [toFloat?] at read
    rw [read] at reads
    cases reads
  | some x =>
    have read' : Decimal.read? (Text.trim s) = some x := read
    rw [looselyEquals_of_numbers (plain s) (plain t) read ((toFloat?_congr same).symm.trans read), Float.beq_self_iff,
      Ne, Ne, ← Decimal.isNaN_of_read? read', Float.isNaN_eq_decide_eq_nan, decide_eq_true_iff]

/-- Two integers are compared by the nearest integers of 53 bits: exactly unless they differ and have the same one, as
no two short ones have, and never the other way round. Two texts that differ in case only are equal, save those that
spell what is no number. Any two values are as equal the other way round, and in the opposite order. -/
theorem loose_comparison (i j : Int64) (s t : String) (a b : Value) :
    ((int i).looselyEquals (int j) = true ↔ Whole.rounded i.toInt = Whole.rounded j.toInt) ∧
    ((int i).compare (int j) = some (Ord.compare i.toInt j.toInt) ↔
      (Whole.rounded i.toInt = Whole.rounded j.toInt → i = j)) ∧
    (IsShort i → IsShort j → Whole.rounded i.toInt = Whole.rounded j.toInt → i = j) ∧
    (i.toInt < j.toInt → (int i).compare (int j) = some .lt ∨ (int i).compare (int j) = some .eq) ∧
    (Text.sameName s t = true →
      ((string s).looselyEquals (string t) = true ↔ Decimal.word (Text.trim s) ≠ "nan")) ∧
    a.looselyEquals b = b.looselyEquals a ∧ (a.compare b).map Ordering.swap = b.compare a :=
  ⟨looselyEquals_int, compare_int_exact, IsShort.eq_of_rounded, compare_int_of_lt, looselyEquals_of_sameName,
    looselyEquals_comm a b, compare_swap a b⟩

theorem loose_comparison_gate :
    (int (2 ^ 53)).compare (int (2 ^ 53 - 1)) = some .gt ∧
    (string "Gate").looselyEquals (string "gate") = true ∧
    ((string "Gate").compare (string "gate")).map Ordering.swap = (string "gate").compare (string "Gate") := by
  obtain ⟨-, exact, short, -, texts, -, swapped⟩ :=
    loose_comparison (2 ^ 53) (2 ^ 53 - 1) "Gate" "gate" (string "Gate") (string "gate")
  exact ⟨exact.2 (short (by decide) (by decide)), (texts (by decide)).2 (by decide), swapped⟩

/-- Two integers of more than 53 bits are equal though they differ, and a text that spells what is no number is not
equal to itself. -/
theorem loose_confuses :
    (int 9007199254740993).looselyEquals (int 9007199254740992) = true ∧
    (int 9007199254740993).compare (int 9007199254740992) = some .eq ∧
    (string "nan").looselyEquals (string "nan") = false := by
  decide

end StoryGraph.Value
