/-!
Names compared without case. Only the letters A to Z have two cases here, so folding maps each
character on its own, and two texts name the same thing exactly when they fold to one text.
-/

namespace StoryGraph.Text

/-- The text with the letters A to Z lowered and all else as it is. -/
def fold (s : String) : String := String.ofList (s.toList.map Char.toLower)

/-- Whether two texts differ at most in the case of ASCII letters. -/
def sameName (a b : String) : Bool := fold a == fold b

theorem sameName_iff {a b : String} : sameName a b = true ↔ fold a = fold b := by
  simp [sameName]

theorem sameName_refl (a : String) : sameName a a = true := by simp [sameName]

theorem sameName_comm (a b : String) : sameName a b = sameName b a := by
  rw [Bool.eq_iff_iff, sameName_iff, sameName_iff]
  exact eq_comm

theorem sameName_trans {a b c : String} (h : sameName a b = true) (h' : sameName b c = true) :
    sameName a c = true := by
  rw [sameName_iff] at *
  exact h.trans h'

end StoryGraph.Text
