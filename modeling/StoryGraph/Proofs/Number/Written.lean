import StoryGraph.Proofs.Number.Decimal

/-!
The decimal text of whole numbers. Main statements: it reads back as the number it was written for, exactly over all
64 bits and with white space around it, and as a float it reads as the nearest one.
-/

namespace StoryGraph

namespace Text

variable {before after s : String}

theorem strip_padded {p : Char → Bool} {before after : List Char} (blank : ∀ c ∈ before, p c = true)
    (blank' : ∀ c ∈ after, p c = true) (cs : List Char) : strip p (before ++ cs ++ after) = strip p cs := by
  have ended : after.dropWhile p = [] := List.dropWhile_eq_nil_iff.2 blank'
  have begun : (before ++ cs ++ after).dropWhile p =
      if (cs.dropWhile p).isEmpty then [] else cs.dropWhile p ++ after := by
    rw [List.append_assoc, List.dropWhile_append_of_pos blank, List.dropWhile_append, ended]
  rw [strip, strip, begun]
  split
  case isTrue nothing => rw [List.isEmpty_iff.1 nothing]
  case isFalse =>
    have blanks : ∀ c ∈ after.reverse, p c = true := fun c mem => blank' c (List.mem_reverse.1 mem)
    rw [List.reverse_append, List.dropWhile_append_of_pos blanks]

theorem isBlankChar_of_isBlank (blank : isBlank s = true) : ∀ c ∈ s.toList, isBlankChar c = true := by
  have nothing : strip isBlankChar s.toList = [] := String.ofList_eq_empty_iff.1 (beq_iff_eq.1 blank)
  have inner := List.dropWhile_eq_nil_iff.1 (List.reverse_eq_nil_iff.1 nothing)
  have left : (s.toList.dropWhile isBlankChar).dropWhile isBlankChar = [] :=
    List.dropWhile_eq_nil_iff.2 fun c mem => inner c (List.mem_reverse.2 mem)
  rw [List.dropWhile_idempotent] at left
  exact List.dropWhile_eq_nil_iff.1 left

theorem trim_padded (blank : isBlank before = true) (blank' : isBlank after = true) (s : String) :
    trim (before ++ s ++ after) = trim s := by
  rw [trim, trim, String.toList_append, String.toList_append,
    strip_padded (isBlankChar_of_isBlank blank) (isBlankChar_of_isBlank blank')]

end Text

namespace Whole

variable (i : Int64)

theorem digitsValue_eq (acc : Nat) (ds : List Char) : digitsValue acc ds = Nat.ofDigitChars 10 ds acc := by
  simp only [digitsValue, Nat.ofDigitChars, Nat.mul_comm]

theorem digitsValue_repr (n : Nat) : digitsValue 0 (Nat.repr n).toList = n := by
  rw [digitsValue_eq, Nat.toList_repr, Nat.ofDigitChars_toDigits (by decide) (by decide)]

/-- The digits of a number without its sign. -/
def digits : List Char := (Nat.repr i.toInt.natAbs).toList

theorem isPlain_digits : Decimal.IsPlain (digits i) :=
  Decimal.isPlain_digits (Decimal.digits_repr _).1 (Decimal.digits_repr _).2

theorem toList_write :
    (write i).toList = if decide (i.toInt < 0) then '-' :: digits i else digits i := by
  rw [write, digits]
  cases i.toInt with
  | ofNat n => rfl
  | negSucc n =>
    rw [decide_eq_true (Int.negSucc_lt_zero n)]
    exact String.toList_append

theorem splitSign_write : splitSign (write i).toList = (decide (i.toInt < 0), digits i) :=
  Decimal.splitSign_of_plain (toList_write i) (isPlain_digits i)

@[simp] theorem trim_write : Text.trim (write i) = write i :=
  Decimal.trim_of_plain (toList_write i) (isPlain_digits i)

/-- Whatever is written is read, the least number too, whose digits alone lie outside of the range. -/
theorem read?_write : read? (write i) = some i := by
  obtain ⟨some_digit, all_digits⟩ := Decimal.digits_repr i.toInt.natAbs
  have begun : (digits i).isEmpty = false := List.isEmpty_eq_false_iff.2 some_digit
  have digital : (digits i).all Char.isDigit = true := List.all_eq_true.2 all_digits
  have value : digitsValue 0 (digits i) = i.toInt.natAbs := digitsValue_repr _
  have size : (if i.toInt < 0 then -(i.toInt.natAbs : Int) else i.toInt.natAbs) = i.toInt := by
    split <;> omega
  have within : Int64.minValue.toInt ≤ i.toInt ∧ i.toInt ≤ Int64.maxValue.toInt :=
    ⟨i.minValue_le_toInt, i.toInt_le⟩
  simp only [read?, splitSign_write, begun, digital, value, decide_eq_true_eq, size]
  rw [if_neg (by decide), if_pos within, Int64.ofInt_toInt]

example : read? "-9223372036854775808" = some Int64.minValue := by decide

end Whole

namespace Decimal

theorem nearest_zero (n : Nat) : nearest n 0 = Float.ofNat n := by
  rw [nearest]
  split
  case isTrue zero =>
    rw [beq_iff_eq.1 zero]
    decide
  case isFalse =>
    have near : ¬ (0 : Int) < -400 - ((Nat.repr n).length : Int) := by omega
    rw [if_neg (by decide), if_neg near, if_pos (by decide)]
    rfl

theorem magnitude?_repr (n : Nat) : magnitude? (Nat.repr n).toList = some (Float.ofNat n) := by
  obtain ⟨some_digit, all_digits⟩ := digits_repr n
  have taken := List.takeWhile_eq_self_iff.2 all_digits
  have left := List.dropWhile_eq_nil_iff.2 all_digits
  have begun : (Nat.repr n).toList.isEmpty = false := List.isEmpty_eq_false_iff.2 some_digit
  rw [magnitude?_eq, taken, left, begun]
  show some (nearest (Whole.digitsValue 0 ((Nat.repr n).toList ++ [])) 0) = _
  rw [List.append_nil, Whole.digitsValue_repr, nearest_zero]

/-- The word of a number is none of those for infinity and for no number, which do not begin with a digit. -/
theorem word_write (i : Int64) : word (Whole.write i) = String.ofList (Whole.digits i) := by
  have lowered := Text.map_toLower_digits (digits_repr i.toInt.natAbs).2
  rw [word_eq, Whole.splitSign_write]
  exact congrArg String.ofList lowered

theorem ofInt_eq (i : Int) :
    Float.ofInt i = if decide (i < 0) then -Float.ofNat i.natAbs else Float.ofNat i.natAbs := by
  cases i with
  | ofNat n => rfl
  | negSucc n =>
    rw [decide_eq_true (Int.negSucc_lt_zero n)]
    rfl

theorem read?_write (i : Int64) : read? (Whole.write i) = some (Whole.toFloat i) := by
  have other {w : String} (letter : ∃ c ∈ w.toList, c.isDigit = false) : (word (Whole.write i) == w) = false := by
    rw [word_write, beq_eq_false_iff_ne]
    rintro rfl
    obtain ⟨c, mem, letter⟩ := letter
    rw [String.toList_ofList] at mem
    rw [(digits_repr _).2 c mem] at letter
    cases letter
  have infinite : (word (Whole.write i) == "inf" || word (Whole.write i) == "infinity") = false := by
    rw [other ⟨'i', by decide⟩, other ⟨'i', by decide⟩]
    rfl
  have number : (word (Whole.write i) == "nan") = false := other ⟨'n', by decide⟩
  rw [read?_eq, infinite, number, Whole.splitSign_write, Whole.digits, Whole.toFloat, ofInt_eq]
  rw [if_neg Bool.false_ne_true, if_neg Bool.false_ne_true, magnitude?_repr]
  rfl

end Decimal

end StoryGraph
