import StoryGraph.Handler.Condition
import StoryGraph.Proofs.Number.Decimal
import StoryGraph.Proofs.Number.Rounded

/-!
The comparisons that authors can ask for. Main statement: they agree with each other, save where the loose equality
joins two values that no order puts in one place.
-/

namespace StoryGraph

namespace Whole

/-- Only zero becomes the float zero. -/
theorem toFloat_eq_zero_iff (i : Int64) : (toFloat i == 0.0) = true ↔ i = 0 := by
  have zero : toFloat 0 = 0.0 := rfl
  have nothing : rounded (0 : Int64).toInt = 0 := rfl
  rw [← Value.compareFloats_eq_iff, ← zero, compareFloats_toFloat, Option.some.injEq, compare_eq_iff_eq, nothing,
    rounded_eq_zero_iff]
  exact ⟨fun same => Int64.toInt_inj.1 same, fun same => congrArg Int64.toInt same⟩

end Whole

namespace Value

variable {a b v : Value} {x y : Float}

theorem toFloat?_congr {s t : String} (same : Text.sameName s t = true) : (string s).toFloat? = (string t).toFloat? := by
  rw [toFloat?, toFloat?, ← Decimal.read?_fold, Text.fold_trim_congr (Text.sameName_iff.1 same), Decimal.read?_fold]

/-- What reads as a number reads as a flag by not being zero. -/
theorem toBool?_of_toFloat? (number : v.toFloat? = some x) : v.toBool? = some (x != 0.0) := by
  cases v with
  | null => cases number
  | bool f =>
    cases number
    cases f <;> decide
  | int i =>
    cases number
    have same : (i != 0) = (Whole.toFloat i != 0.0) := by
      rw [bne, bne, Bool.eq_iff_iff, Bool.not_eq_true', Bool.not_eq_true', ← Bool.not_eq_true, ← Bool.not_eq_true,
        Whole.toFloat_eq_zero_iff, beq_iff_eq]
    rw [toBool?, same]
  | float y =>
    cases number
    rfl
  | string s =>
    -- None of the four words for a flag reads as a number.
    have read : Decimal.read? (Text.trim s) = some x := number
    have other {w : String} (wordless : (Decimal.read? w).isNone) : Text.sameName (Text.trim s) w = false := by
      rw [Bool.eq_false_iff]
      intro same
      rw [← Decimal.read?_fold, ← Text.sameName_iff.1 same, Decimal.read?_fold, read] at wordless
      cases wordless
    have yes : (Text.sameName (Text.trim s) "true" || Text.sameName (Text.trim s) "yes") = false := by
      rw [other (by decide), other (by decide)]
      rfl
    have no : (Text.sameName (Text.trim s) "false" || Text.sameName (Text.trim s) "no") = false := by
      rw [other (by decide), other (by decide)]
      rfl
    simp only [toBool?, yes, no, read]
    rfl

theorem compare_of_numbers (ha : a.toFloat? = some x) (hb : b.toFloat? = some y) : a.compare b = compareFloats x y := by
  have numbers : a.compareNumbers b = compareFloats x y := by
    rw [compareNumbers, ha, hb]
    rfl
  cases a with
  | null | bool | int | float => exact numbers
  | string s =>
    cases b with
    | null | bool | int | float => exact numbers
    | string t =>
      simp only [compare, ha, hb]

theorem compare_of_texts {s t : String} (words : (string s).toFloat? = none ∨ (string t).toFloat? = none) :
    (string s).compare (string t) = some (compareOfLessAndEq s t) := by
  rw [compare]
  split
  · rename_i here there
    rw [here, there] at words
    simp at words
  · rfl

/-- Only two texts are ordered that do not both read as numbers. -/
theorem compare_of_no_number (texts : ¬ ∃ s t, a = string s ∧ b = string t)
    (words : a.toFloat? = none ∨ b.toFloat? = none) : a.compare b = none := by
  have numbers : a.compareNumbers b = none := by
    rw [compareNumbers]
    obtain none_here | none_there := words
    · rw [none_here]
      rfl
    · rw [none_there]
      cases a.toFloat? <;> rfl
  cases a with
  | null | bool | int | float => exact numbers
  | string s =>
    cases b with
    | null | bool | int | float => exact numbers
    | string t => exact absurd ⟨s, t, rfl, rfl⟩ texts

theorem compareOfLessAndEq_swap (s t : String) : (compareOfLessAndEq s t).swap = compareOfLessAndEq t s :=
  (compareOfLessAndEq_eq_swap String.le_antisymm String.le_total String.not_le).symm

/-- What is compared the other way round is in the opposite order. -/
theorem compare_swap (a b : Value) : (a.compare b).map Ordering.swap = b.compare a := by
  by_cases words : a.toFloat? = none ∨ b.toFloat? = none
  · by_cases texts : ∃ s t, a = string s ∧ b = string t
    · obtain ⟨s, t, rfl, rfl⟩ := texts
      rw [compare_of_texts words, compare_of_texts words.symm, Option.map_some, compareOfLessAndEq_swap]
    · have texts' : ¬ ∃ s t, b = string s ∧ a = string t := fun ⟨s, t, hb, ha⟩ => texts ⟨t, s, ha, hb⟩
      rw [compare_of_no_number texts words, compare_of_no_number texts' words.symm]
      rfl
  · obtain ⟨ha, hb⟩ := not_or.1 words
    obtain ⟨x, ha⟩ := Option.ne_none_iff_exists'.1 ha
    obtain ⟨y, hb⟩ := Option.ne_none_iff_exists'.1 hb
    rw [compare_of_numbers ha hb, compare_of_numbers hb ha, compareFloats_swap]

/-! The loose equality and the order. -/

/-- Reads as this flag, but not as the number one or zero that stands for it. -/
def OnlyFlag (f : Bool) (v : Value) : Prop :=
  v.toBool? = some f ∧ ∀ x, v.toFloat? = some x → (x == if f then 1.0 else 0.0) = false

/-- What the loose equality joins though no order puts it in one place: two nulls, a flag with what reads as it, and
two texts that differ in case and are no numbers. -/
inductive Apart : Value → Value → Prop where
  | nulls : Apart null null
  | flag {f : Bool} {v : Value} (only : v.OnlyFlag f) : Apart (bool f) v
  | flagged {f : Bool} {v : Value} (only : v.OnlyFlag f) : Apart v (bool f)
  | spelled {s t : String} (differ : s ≠ t) (same : Text.sameName s t = true) (word : (string s).toFloat? = none) :
      Apart (string s) (string t)

theorem compare_eq_some_iff {o : Ordering} : a.compare b = some o ↔ b.compare a = some o.swap := by
  rw [← compare_swap a b, Option.map_eq_some_iff]
  constructor
  · intro same
    exact ⟨o, same, rfl⟩
  · rintro ⟨o', same, swapped⟩
    obtain rfl : o' = o := Ordering.swap_inj.1 swapped
    exact same

theorem compare_eq_comm : a.compare b = some .eq ↔ b.compare a = some .eq := compare_eq_some_iff

theorem compare_flag_iff {f : Bool} :
    (bool f).compare v = some .eq ↔ ∃ x, v.toFloat? = some x ∧ (x == if f then 1.0 else 0.0) = true := by
  have flag : (bool f).toFloat? = some (if f then 1.0 else 0.0) := rfl
  constructor
  · intro same
    cases number : v.toFloat? with
    | none =>
      rw [compare_of_no_number (by simp) (.inr number)] at same
      cases same
    | some x =>
      rw [compare_of_numbers flag number, compareFloats_eq_iff] at same
      exact ⟨x, rfl, BEq.symm same⟩
  · rintro ⟨x, number, same⟩
    rw [compare_of_numbers flag number, compareFloats_eq_iff]
    exact BEq.symm same

theorem toBool?_iff {f : Bool} : v.toBool? = some f ↔ (bool f).compare v = some .eq ∨ v.OnlyFlag f := by
  rw [compare_flag_iff]
  constructor
  · intro reads
    by_cases number : ∃ x, v.toFloat? = some x ∧ (x == if f then 1.0 else 0.0) = true
    · exact .inl number
    · exact .inr ⟨reads, fun x number' => Bool.eq_false_iff.2 fun same => number ⟨x, number', same⟩⟩
  · rintro (⟨x, number, same⟩ | only)
    · rw [toBool?_of_toFloat? number, bne]
      cases f with
      | false => exact congrArg (some ∘ not) same
      | true =>
        have other : (x == 0.0) = false := by
          rw [Bool.eq_false_iff]
          intro zero
          exact absurd (BEq.trans (BEq.symm same) zero) (by decide)
        rw [other]
        rfl
    · exact only.1

theorem OnlyFlag.compare_ne {f : Bool} (only : v.OnlyFlag f) : (bool f).compare v ≠ some .eq := by
  rw [Ne, compare_flag_iff]
  rintro ⟨x, number, same⟩
  rw [only.2 x number] at same
  cases same

theorem compareOfLessAndEq_eq_iff {s t : String} : compareOfLessAndEq s t = .eq ↔ s = t :=
  compareOfLessAndEq_eq_eq String.le_refl String.not_le

theorem Apart.compare_ne (apart : Apart a b) : a.compare b ≠ some .eq := by
  cases apart with
  | nulls => exact (Option.some_ne_none _).symm
  | flag only => exact only.compare_ne
  | flagged only => exact mt compare_eq_comm.1 only.compare_ne
  | spelled differ same word =>
    rw [compare_of_texts (.inl word), Ne, Option.some.injEq, compareOfLessAndEq_eq_iff]
    exact differ

theorem looselyEquals_flag (f : Bool) (v : Value) : (bool f).looselyEquals v = (v.toBool? == some f) := by
  cases v <;> rfl

/-- Neither null nor a flag. -/
def IsPlain (v : Value) : Prop := v ≠ null ∧ ∀ f, v ≠ bool f

theorem plain_cases (v : Value) : v = null ∨ (∃ f, v = bool f) ∨ v.IsPlain := by
  cases v with
  | null => exact .inl rfl
  | bool f => exact .inr (.inl ⟨f, rfl⟩)
  | int | float | string => exact .inr (.inr (by simp [IsPlain]))

theorem plain_text_or_number (plain : v.IsPlain) :
    (∃ s, v = string s) ∨ v.kind? = some .int ∨ v.kind? = some .float := by
  cases v with
  | null => exact absurd rfl plain.1
  | bool f => exact absurd rfl (plain.2 f)
  | int => exact .inr (.inl rfl)
  | float => exact .inr (.inr rfl)
  | string s => exact .inl ⟨s, rfl⟩

theorem looselyEquals_of_numbers (ha : a.IsPlain) (hb : b.IsPlain) (number : a.toFloat? = some x)
    (number' : b.toFloat? = some y) : a.looselyEquals b = (x == y) := by
  cases a with
  | null => exact absurd rfl ha.1
  | bool f => exact absurd rfl (ha.2 f)
  | int | float | string =>
    cases b with
    | null => exact absurd rfl hb.1
    | bool f => exact absurd rfl (hb.2 f)
    | int | float | string => simp only [looselyEquals, number, number']

theorem looselyEquals_of_words (ha : a.IsPlain) (hb : b.IsPlain) (words : a.toFloat? = none ∨ b.toFloat? = none) :
    a.looselyEquals b = Text.sameName a.toText b.toText := by
  have numbers (x y : Float) (here : a.toFloat? = some x) (there : b.toFloat? = some y) : False := by
    rw [here, there] at words
    simp at words
  cases a with
  | null => exact absurd rfl ha.1
  | bool f => exact absurd rfl (ha.2 f)
  | int | float | string =>
    cases b with
    | null => exact absurd rfl hb.1
    | bool f => exact absurd rfl (hb.2 f)
    | int | float | string => simp only [looselyEquals]

theorem looselyEquals_comm (a b : Value) : a.looselyEquals b = b.looselyEquals a := by
  obtain rfl | ⟨f, rfl⟩ | ha := plain_cases a
  · cases b <;> rfl
  · cases b with
    | bool g => cases f <;> cases g <;> rfl
    | null | int | float | string => rfl
  obtain rfl | ⟨f, rfl⟩ | hb := plain_cases b
  · cases a <;> rfl
  · cases a with
    | bool g => exact absurd rfl (ha.2 g)
    | null | int | float | string => rfl
  by_cases words : a.toFloat? = none ∨ b.toFloat? = none
  · rw [looselyEquals_of_words ha hb words, looselyEquals_of_words hb ha words.symm, Text.sameName_comm]
  · obtain ⟨here, there⟩ := not_or.1 words
    obtain ⟨x, here⟩ := Option.ne_none_iff_exists'.1 here
    obtain ⟨y, there⟩ := Option.ne_none_iff_exists'.1 there
    rw [looselyEquals_of_numbers ha hb here there, looselyEquals_of_numbers hb ha there here, BEq.comm]

/-- The text of a number is not that of a word. -/
theorem not_sameName_of_word {s : String} (number : v.kind? = some .int ∨ v.kind? = some .float)
    (word : (string s).toFloat? = none) : Text.sameName v.toText s = false := by
  have text : v.toText = v.display := by
    cases v with
    | null | bool | string => simp [kind?] at number
    | int | float => rfl
  rw [text, Bool.eq_false_iff]
  intro same
  have reads : (string v.display).toFloat?.isSome := by
    rw [toFloat?]
    exact Decimal.isSome_display number
  rw [toFloat?_congr same, word] at reads
  cases reads

theorem isSome_toFloat? (number : v.kind? = some .int ∨ v.kind? = some .float) : v.toFloat? ≠ none := by
  cases v with
  | null | bool | string => simp [kind?] at number
  | int | float => exact Option.some_ne_none _

theorem looselyEquals_iff_of_words (ha : a.IsPlain) (hb : b.IsPlain)
    (words : a.toFloat? = none ∨ b.toFloat? = none) :
    a.looselyEquals b = true ↔ a.compare b = some .eq ∨ Apart a b := by
  rw [looselyEquals_of_words ha hb words]
  by_cases texts : ∃ s t, a = string s ∧ b = string t
  · obtain ⟨s, t, rfl, rfl⟩ := texts
    rw [compare_of_texts words, Option.some.injEq, compareOfLessAndEq_eq_iff]
    show Text.sameName s t = true ↔ _
    constructor
    · intro same
      by_cases equal : s = t
      · exact .inl equal
      · have word := words.elim id (toFloat?_congr same).trans
        exact .inr (.spelled equal same word)
    · rintro (rfl | apart)
      · exact Text.sameName_refl s
      · cases apart with
        | spelled differ same word => exact same
  · -- One of the two is a number, and its text is none of a word.
    have unlike : Text.sameName a.toText b.toText = false := by
      obtain ⟨s, rfl⟩ | here := plain_text_or_number ha <;> obtain ⟨t, rfl⟩ | there := plain_text_or_number hb
      · exact absurd ⟨s, t, rfl, rfl⟩ texts
      · rw [Text.sameName_comm]
        exact not_sameName_of_word there (words.resolve_right (isSome_toFloat? there))
      · exact not_sameName_of_word here (words.resolve_left (isSome_toFloat? here))
      · exact (words.elim (isSome_toFloat? here) (isSome_toFloat? there)).elim
    rw [unlike, compare_of_no_number texts words]
    refine iff_of_false Bool.false_ne_true ?_
    rintro (same | apart)
    · cases same
    · cases apart with
      | nulls => exact ha.1 rfl
      | flag => exact ha.2 _ rfl
      | flagged => exact hb.2 _ rfl
      | spelled => exact texts ⟨_, _, rfl, rfl⟩

theorem Apart.symm (apart : Apart a b) : Apart b a := by
  cases apart with
  | nulls => exact .nulls
  | flag only => exact .flagged only
  | flagged only => exact .flag only
  | spelled differ same word =>
    rw [toFloat?_congr same] at word
    rw [Text.sameName_comm] at same
    exact .spelled differ.symm same word

theorem not_onlyFlag_bool (f g : Bool) : ¬ (bool g).OnlyFlag f := by
  rintro ⟨reads, other⟩
  cases reads
  have same := other _ rfl
  cases f <;> exact absurd same (by decide)

theorem looselyEquals_iff_of_null : null.looselyEquals v = true ↔ null.compare v = some .eq ∨ Apart null v := by
  have nowhere : null.compare v ≠ some .eq := by
    rw [compare_of_no_number (by simp) (.inl rfl)]
    exact (Option.some_ne_none _).symm
  cases v with
  | null => exact iff_of_true rfl (.inr .nulls)
  | bool f =>
    refine iff_of_false Bool.false_ne_true ?_
    rintro (same | apart)
    · exact nowhere same
    · cases apart with
      | flagged only => cases only.1
  | int | float | string =>
    refine iff_of_false Bool.false_ne_true ?_
    rintro (same | apart)
    · exact nowhere same
    · cases apart

theorem looselyEquals_iff_of_flag {f : Bool} :
    (bool f).looselyEquals v = true ↔ (bool f).compare v = some .eq ∨ Apart (bool f) v := by
  rw [looselyEquals_flag, beq_iff_eq, toBool?_iff]
  refine or_congr_right ⟨.flag, fun apart => ?_⟩
  cases apart with
  | flag only => exact only
  | flagged only => exact (not_onlyFlag_bool _ _ only).elim

/-- The loose equality joins what is in one place of the order, and what is apart. -/
theorem looselyEquals_iff : a.looselyEquals b = true ↔ a.compare b = some .eq ∨ Apart a b := by
  have turned (flipped : b.looselyEquals a = true ↔ b.compare a = some .eq ∨ Apart b a) :
      a.looselyEquals b = true ↔ a.compare b = some .eq ∨ Apart a b := by
    rw [looselyEquals_comm, flipped, compare_eq_comm]
    exact or_congr_right ⟨Apart.symm, Apart.symm⟩
  -- A null or a flag decides how the other side is read, wherever it stands.
  obtain rfl | ⟨f, rfl⟩ | ha := plain_cases a
  · exact looselyEquals_iff_of_null
  · exact looselyEquals_iff_of_flag
  obtain rfl | ⟨f, rfl⟩ | hb := plain_cases b
  · exact turned looselyEquals_iff_of_null
  · exact turned looselyEquals_iff_of_flag
  by_cases words : a.toFloat? = none ∨ b.toFloat? = none
  · exact looselyEquals_iff_of_words ha hb words
  · obtain ⟨here, there⟩ := not_or.1 words
    obtain ⟨x, here⟩ := Option.ne_none_iff_exists'.1 here
    obtain ⟨y, there⟩ := Option.ne_none_iff_exists'.1 there
    rw [looselyEquals_of_numbers ha hb here there, compare_of_numbers here there, compareFloats_eq_iff]
    refine ⟨.inl, fun joined => joined.elim id fun apart => ?_⟩
    cases apart with
    | nulls => exact absurd rfl ha.1
    | flag => exact absurd rfl (ha.2 _)
    | flagged => exact absurd rfl (hb.2 _)
    | spelled differ same word => exact absurd (.inl word) words

end Value

namespace Operator

variable {a b : Value}

theorem lt_iff : lt.holds a b = true ↔ a.compare b = some .lt := beq_iff_eq
theorem gt_iff : gt.holds a b = true ↔ a.compare b = some .gt := beq_iff_eq

theorem le_iff : le.holds a b = true ↔ a.compare b = some .lt ∨ a.compare b = some .eq := by
  rw [holds, Bool.or_eq_true, beq_iff_eq, beq_iff_eq]

theorem ge_iff : ge.holds a b = true ↔ a.compare b = some .gt ∨ a.compare b = some .eq := by
  rw [holds, Bool.or_eq_true, beq_iff_eq, beq_iff_eq]

theorem eq_iff : eq.holds a b = true ↔ a.compare b = some .eq ∨ Value.Apart a b := Value.looselyEquals_iff

/-- What the operators owe each other at two values. -/
structure Coherent (a b : Value) : Prop where
  le : le.holds a b = true ↔ lt.holds a b = true ∨ eq.holds a b = true
  ge : ge.holds a b = true ↔ gt.holds a b = true ∨ eq.holds a b = true
  lt_eq : ¬ (lt.holds a b = true ∧ eq.holds a b = true)
  gt_eq : ¬ (gt.holds a b = true ∧ eq.holds a b = true)

theorem coherent_iff : Coherent a b ↔ ¬ Value.Apart a b := by
  constructor
  · intro coherent apart
    have equal : eq.holds a b = true := eq_iff.2 (.inr apart)
    cases le_iff.1 (coherent.le.2 (.inr equal)) with
    | inl less => exact coherent.lt_eq ⟨lt_iff.2 less, equal⟩
    | inr same => exact apart.compare_ne same
  · intro joined
    have equal : eq.holds a b = true ↔ a.compare b = some .eq := eq_iff.trans (or_iff_left joined)
    refine ⟨?_, ?_, ?_, ?_⟩
    · rw [le_iff, lt_iff, equal]
    · rw [ge_iff, gt_iff, equal]
    · rw [lt_iff, equal]
      rintro ⟨less, same⟩
      cases less.symm.trans same
    · rw [gt_iff, equal]
      rintro ⟨more, same⟩
      cases more.symm.trans same

/-- What a condition is asked about: the two values, and for the comparison of an output also the operator. -/
theorem compareValues_eq {c : Call} {op : Operator} (left : (c.arg "SourceNodeId").bind (Condition.source? c) = some a)
    (asked : ofText? ((c.arg "Operator").getD "==") = some op) :
    Condition.holds .compareValues c = op.holds a (Bag.getValue c.node.properties "Value") := by
  rw [Condition.holds, Condition.compareValues, left, asked]
  rfl

theorem compareVariable_eq {c : Call} (values : Condition.variableAndValue? c = some (a, b)) (op : Operator) :
    Condition.compareVariable c op = op.holds a b := by
  rw [Condition.compareVariable, values]
  rfl

/-- The operators agree with each other, whether they compare an output or a variable: each has its opposite and its
mirror image, at most one of less and greater holds, and less or equal is never more than less or equal. It is less
than that only for two values that are apart, and only there may one be equal and also less or greater. -/
theorem operators_agree (a b : Value) :
    ne.holds a b = !eq.holds a b ∧ lt.holds a b = gt.holds b a ∧ le.holds a b = ge.holds b a ∧
    ¬ (lt.holds a b = true ∧ gt.holds a b = true) ∧
    (lt.holds a b = true → le.holds a b = true) ∧ (gt.holds a b = true → ge.holds a b = true) ∧
    (le.holds a b = true → lt.holds a b = true ∨ eq.holds a b = true) ∧
    (ge.holds a b = true → gt.holds a b = true ∨ eq.holds a b = true) ∧
    (Coherent a b ↔ ¬ Value.Apart a b) ∧
    (∀ c op, (c.arg "SourceNodeId").bind (Condition.source? c) = some a →
      ofText? ((c.arg "Operator").getD "==") = some op → Bag.getValue c.node.properties "Value" = b →
      Condition.holds .compareValues c = op.holds a b) ∧
    ∀ c, Condition.variableAndValue? c = some (a, b) →
      Condition.holds .variableEquals c = eq.holds a b ∧ Condition.holds .variableGreaterThan c = gt.holds a b ∧
      Condition.holds .variableLessThan c = lt.holds a b := by
  refine ⟨rfl, ?_, ?_, ?_, ?_, ?_, ?_, ?_, coherent_iff, ?_, ?_⟩
  · rw [Bool.eq_iff_iff, lt_iff, gt_iff]
    exact Value.compare_eq_some_iff
  · rw [Bool.eq_iff_iff, le_iff, ge_iff]
    exact or_congr Value.compare_eq_some_iff Value.compare_eq_comm
  · rw [lt_iff, gt_iff]
    rintro ⟨less, more⟩
    cases less.symm.trans more
  · exact fun less => le_iff.2 (.inl (lt_iff.1 less))
  · exact fun more => ge_iff.2 (.inl (gt_iff.1 more))
  · exact fun most => (le_iff.1 most).imp lt_iff.2 fun same => eq_iff.2 (.inl same)
  · exact fun least => (ge_iff.1 least).imp gt_iff.2 fun same => eq_iff.2 (.inl same)
  · rintro c op left asked rfl
    exact compareValues_eq left asked
  · exact fun c values => ⟨compareVariable_eq values eq, compareVariable_eq values gt, compareVariable_eq values lt⟩

/-- The count of three coins that a node has put out is asked to be less than a text. -/
def coinCall : Call where
  node := { id := "ask", typeTag := "Condition_CompareValues", properties := .ofList [("SourceNodeId", .string "coins"),
    ("Operator", .string "<"), ("Value", .string "3.5")] }
  graphId := "purse"
  inputPort := Port.exec
  depth := 0
  outputs := Outputs.put .empty "coins" Port.value (.int 3)
  world := {}
  draws := .ofSeed 7

theorem operators_agree_coins :
    Coherent (.int 3) (.string "3.5") ∧ le.holds (.int 3) (.string "3.5") = true ∧
      Condition.holds .compareValues coinCall = true := by
  obtain ⟨-, -, -, -, most, -, -, -, coherent, asked, -⟩ := operators_agree (.int 3) (.string "3.5")
  have less : lt.holds (.int 3) (.string "3.5") = true := by decide
  refine ⟨coherent.2 fun apart => ?_, most less, ?_⟩
  · cases apart
  · rw [asked coinCall lt (by decide) (by decide) (by decide), less]

/-- Two nulls are equal, but not less or equal; two texts are equal and one of them is less; and a flag is equal to the
number five and less. -/
theorem operators_disagree :
    (eq.holds .null .null = true ∧ le.holds .null .null = false) ∧
    (eq.holds (.string "Gate") (.string "gate") = true ∧ lt.holds (.string "Gate") (.string "gate") = true) ∧
    eq.holds (.bool true) (.int 5) = true ∧ lt.holds (.bool true) (.int 5) = true := by
  decide

end Operator

end StoryGraph
