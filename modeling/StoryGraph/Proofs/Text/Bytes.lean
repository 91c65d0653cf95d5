/-!
Texts by the bytes that encode them. Main statement: one text comes before another by its bytes exactly if it does so
by its characters, which is how names are sorted.
-/

namespace StoryGraph.Text

/-- The bytes that encode a text, as numbers. -/
def bytes (s : String) : List Nat := s.toUTF8.data.toList.map UInt8.toNat

/-- The first byte in which two texts differ decides; a text comes before all that only go on after it. -/
def Precedes (a b : String) : Prop := List.Lex (· < ·) (bytes a) (bytes b)

/-- The bytes that encode a character. -/
def units (c : Char) : List Nat := (String.utf8EncodeChar c).map UInt8.toNat

theorem bytes_eq_flatMap (s : String) : bytes s = s.toList.flatMap units := by
  have encoded : s.toUTF8.data.toList = s.toList.flatMap String.utf8EncodeChar := by
    rw [String.toUTF8_eq_toByteArray, ← String.ofList_toList (s := s), String.toByteArray_ofList, String.toList_ofList,
      List.utf8Encode, List.toList_data_toByteArray]
  rw [bytes, encoded, List.map_flatMap]
  rfl

theorem toNat_lt (c : Char) : c.toNat < 1114112 := by
  have valid : c.toNat < 55296 ∨ 57343 < c.toNat ∧ c.toNat < 1114112 := c.valid
  omega

theorem units_eq (c : Char) : units c =
    if c.toNat ≤ 127 then [c.toNat]
    else if c.toNat ≤ 2047 then [c.toNat / 64 + 192, c.toNat % 64 + 128]
    else if c.toNat ≤ 65535 then [c.toNat / 4096 + 224, c.toNat / 64 % 64 + 128, c.toNat % 64 + 128]
    else [c.toNat / 262144 + 240, c.toNat / 4096 % 64 + 128, c.toNat / 64 % 64 + 128, c.toNat % 64 + 128] := by
  have last := toNat_lt c
  have code : c.val.toNat = c.toNat := rfl
  simp only [units, String.utf8EncodeChar, code]
  repeat' split
  all_goals simp
  all_goals omega

/-- Characters part within their bytes, whatever comes after them. -/
theorem lex_units {c d : Char} (less : c.toNat < d.toNat) (x y : List Nat) :
    List.Lex (· < ·) (units c ++ x) (units d ++ y) := by
  have last := toNat_lt d
  rw [units_eq, units_eq]
  repeat' split
  all_goals simp only [List.cons_append, List.nil_append, List.cons_lex_cons_iff]
  all_goals omega

theorem units_ne_nil (c : Char) : units c ≠ [] := by simp [units, String.utf8EncodeChar_ne_nil]

theorem lex_append_iff (p x y : List Nat) : List.Lex (· < ·) (p ++ x) (p ++ y) ↔ List.Lex (· < ·) x y := by
  induction p with
  | nil => rfl
  | cons n rest ih => simp only [List.cons_append, List.cons_lex_cons_iff, Nat.lt_irrefl, true_and, false_or, ih]

theorem lex_flatMap_units_iff (cs ds : List Char) :
    List.Lex (· < ·) (cs.flatMap units) (ds.flatMap units) ↔ List.Lex (fun c d => c.toNat < d.toNat) cs ds := by
  induction cs generalizing ds with
  | nil =>
    cases ds with
    | nil => exact iff_of_false List.not_lex_nil List.not_lex_nil
    | cons d ds =>
      refine iff_of_true ?_ .nil
      obtain ⟨n, rest, first⟩ := List.exists_cons_of_ne_nil (units_ne_nil d)
      rw [List.flatMap_cons, first]
      exact .nil
  | cons c cs ih =>
    cases ds with
    | nil => exact iff_of_false List.not_lex_nil List.not_lex_nil
    | cons d ds =>
      rw [List.flatMap_cons, List.flatMap_cons, List.cons_lex_cons_iff]
      obtain less | same | more := Nat.lt_trichotomy c.toNat d.toNat
      · exact iff_of_true (lex_units less _ _) (.inl less)
      · cases Char.toNat_inj.1 same
        simp only [lex_append_iff, ih, Nat.lt_irrefl, true_and, false_or]
      · refine iff_of_false (List.lex_asymm Nat.lt_asymm (lex_units more _ _)) ?_
        rintro (less | ⟨rfl, -⟩)
        · exact Nat.lt_asymm less more
        · exact Nat.lt_irrefl _ more

theorem precedes_iff {a b : String} : Precedes a b ↔ a < b := by
  rw [Precedes, bytes_eq_flatMap, bytes_eq_flatMap]
  exact lex_flatMap_units_iff a.toList b.toList

end StoryGraph.Text
