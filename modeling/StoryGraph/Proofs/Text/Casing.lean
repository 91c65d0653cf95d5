import Mathlib.Data.List.DropRight
import StoryGraph.Text.Blank
import StoryGraph.Text.Casing

/-!
Folding twice is folding once, and a folded text is as long as it was, with the same white space at its ends. Trimming
twice is trimming once.
-/

namespace StoryGraph.Text

theorem toLower_toLower (c : Char) : c.toLower.toLower = c.toLower := by
  ext
  delta Char.toLower
  split <;> grind [UInt32.toNat_add, Char.toNat_val]

@[simp] theorem fold_fold (s : String) : fold (fold s) = fold s := by
  have twice : Char.toLower ∘ Char.toLower = Char.toLower := funext toLower_toLower
  rw [fold, fold, String.toList_ofList, List.map_map, twice]

theorem utf8Size_toLower (c : Char) : c.toLower.utf8Size = c.utf8Size := by
  delta Char.toLower
  split
  case isTrue letter =>
    have upper : c.val.toNat ≤ 90 := UInt32.le_iff_toNat_le.1 letter.2
    have lowered : (c.val + 32).toNat ≤ 127 := by
      have step : (32 : UInt32).toNat = 32 := rfl
      rw [UInt32.toNat_add]
      omega
    have here : c.utf8Size = 1 := Char.utf8Size_eq_one_iff.2 (UInt32.le_trans letter.2 (by decide))
    rw [here, Char.utf8Size_eq_one_iff]
    exact UInt32.le_iff_toNat_le.2 lowered
  case isFalse => rfl

theorem size_fold (s : String) : (fold s).utf8ByteSize = s.utf8ByteSize := by
  have mapped (cs : List Char) :
      (String.ofList (cs.map Char.toLower)).utf8ByteSize = (String.ofList cs).utf8ByteSize := by
    induction cs with
    | nil => rfl
    | cons c rest ih => simp [String.ofList_cons, String.utf8ByteSize_append, ih, utf8Size_toLower]
  rw [fold, mapped, String.ofList_toList]

theorem size_of_sameName {a b : String} (h : sameName a b = true) : a.utf8ByteSize = b.utf8ByteSize := by
  rw [← size_fold a, sameName_iff.1 h, size_fold]

theorem toNat_toLower (c : Char) :
    c.toLower.toNat = if 65 ≤ c.toNat ∧ c.toNat ≤ 90 then c.toNat + 32 else c.toNat := by
  have bounds : c.val ≥ 'A'.val ∧ c.val ≤ 'Z'.val ↔ 65 ≤ c.toNat ∧ c.toNat ≤ 90 :=
    and_congr UInt32.le_iff_toNat_le UInt32.le_iff_toNat_le
  delta Char.toLower
  split
  case isTrue letter =>
    have upper : c.val.toNat ≤ 90 := UInt32.le_iff_toNat_le.1 letter.2
    have step : (32 : UInt32).toNat = 32 := rfl
    rw [if_pos (bounds.1 letter)]
    show (c.val + 32).toNat = c.val.toNat + 32
    rw [UInt32.toNat_add]
    omega
  case isFalse other => rw [if_neg (mt bounds.2 other)]

/-- No letter that has two cases is white space in either. -/
theorem isBlankChar_toLower (c : Char) : isBlankChar c.toLower = isBlankChar c := by
  have shows (n : Nat) (first : 65 ≤ n) (last : n ≤ 122) :
      (blankRanges.any fun r => decide (r.1 ≤ n ∧ n ≤ r.2)) = false := by
    simp [blankRanges]
    omega
  rw [isBlankChar, isBlankChar, toNat_toLower]
  split
  case isTrue letter =>
    have here := shows c.toNat (by omega) (by omega)
    have there := shows (c.toNat + 32) (by omega) (by omega)
    exact there.trans here.symm
  case isFalse => rfl

/-- What comes before the letters has one case only. -/
theorem toLower_eq_iff {c d : Char} (before : d.toNat < 65) : c.toLower = d ↔ c = d := by
  have code := toNat_toLower c
  rw [← Char.toNat_inj, ← Char.toNat_inj]
  split at code <;> omega

theorem fold_eq_star_iff {a : String} : fold a = "*" ↔ a = "*" := by
  constructor
  · intro h
    have chars : a.toList.map Char.toLower = ['*'] := by
      simpa [fold] using congrArg String.toList h
    obtain ⟨c, one, lowered⟩ := List.map_eq_singleton_iff.1 chars
    have same : c = '*' := (toLower_eq_iff (by decide)).1 lowered
    rw [← String.ofList_toList (s := a), one, same]
  · rintro rfl
    decide

theorem strip_map {p : Char → Bool} {f : Char → Char} (same : ∀ c, p (f c) = p c) (cs : List Char) :
    strip p (cs.map f) = (strip p cs).map f := by
  have after : p ∘ f = p := funext same
  simp only [strip, List.dropWhile_map, after, ← List.map_reverse]

theorem strip_of_none {p : Char → Bool} {cs : List Char} (none_blank : ∀ c ∈ cs, p c = false) : strip p cs = cs := by
  have kept {l : List Char} (none_blank : ∀ c ∈ l, p c = false) : l.dropWhile p = l := by
    cases l with
    | nil => rfl
    | cons c rest => rw [List.dropWhile_cons, none_blank c List.mem_cons_self, if_neg Bool.false_ne_true]
  rw [strip, kept none_blank, kept fun c mem => none_blank c (List.mem_reverse.1 mem), List.reverse_reverse]

theorem trim_fold (s : String) : trim (fold s) = fold (trim s) := by
  simp only [trim, fold, String.toList_ofList, strip_map isBlankChar_toLower]

theorem fold_trim_congr {a b : String} (h : fold a = fold b) : fold (trim a) = fold (trim b) := by
  rw [← trim_fold, ← trim_fold, h]

theorem strip_eq (p : Char → Bool) (cs : List Char) : strip p cs = (cs.dropWhile p).rdropWhile p := rfl

theorem strip_sublist (p : Char → Bool) (cs : List Char) : (strip p cs).Sublist cs :=
  (List.rdropWhile_prefix p _).sublist.trans (List.dropWhile_sublist p)

/-- Where trimming changes more than case, it makes a text shorter. -/
theorem trim_eq_of_fold_trim {s : String} (same : fold (trim s) = fold s) : trim s = s := by
  have mapped := congrArg String.toList same
  simp only [fold, trim, String.toList_ofList] at mapped
  have long : (strip isBlankChar s.toList).length = s.toList.length := by
    simpa using congrArg List.length mapped
  rw [trim, (strip_sublist isBlankChar s.toList).eq_of_length long, String.ofList_toList]

theorem strip_strip (p : Char → Bool) (cs : List Char) : strip p (strip p cs) = strip p cs := by
  -- What is left begins as it did before its end was taken away.
  have left : (strip p cs).dropWhile p = strip p cs := by
    refine List.dropWhile_eq_self_iff.2 fun long => ?_
    have first := List.rdropWhile_prefix p (l := cs.dropWhile p)
    have same : (strip p cs)[0] = (cs.dropWhile p).get ⟨0, long.trans_le first.length_le⟩ := first.getElem long
    rw [same]
    exact List.dropWhile_get_zero_not p cs _
  rw [strip_eq, left, strip_eq, List.rdropWhile_idempotent]

@[simp] theorem trim_trim (s : String) : trim (trim s) = trim s := by
  rw [trim, trim, String.toList_ofList, strip_strip]

end StoryGraph.Text
