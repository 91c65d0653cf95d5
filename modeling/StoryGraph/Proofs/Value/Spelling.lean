import StoryGraph.Proofs.Bag
import StoryGraph.Proofs.Number.Written
import StoryGraph.Proofs.Value.Comparison

/-!
Whole numbers as such and as text. Main statements: a number and its decimal text read as the same number, float and
flag, and compare alike with anything for loose equality; and what two bags have in common under each name is what
their readings have in common.
-/

namespace StoryGraph

namespace Value

variable {i : Int64} {a v v' : Value} {x : Float}

/-- A whole number as such, or its decimal text with white space around it. -/
inductive Spells (i : Int64) : Value → Prop where
  | number : Spells i (int i)
  | text {before after : String} (blank : Text.isBlank before = true) (blank' : Text.isBlank after = true) :
      Spells i (string (before ++ Whole.write i ++ after))

/-- A whole number as such, or its bare decimal text. -/
inductive SpellsBare (i : Int64) : Value → Prop where
  | number : SpellsBare i (int i)
  | text : SpellsBare i (string (Whole.write i))

theorem SpellsBare.toText? (h : SpellsBare i v) : v.toText? = some (Whole.write i) := by
  cases h <;> rfl

theorem SpellsBare.spells (h : SpellsBare i v) : Spells i v := by
  cases h with
  | number => exact .number
  | text =>
    have bare : "" ++ Whole.write i ++ "" = Whole.write i := by rw [String.empty_append, String.append_empty]
    exact bare ▸ @Spells.text i "" "" rfl rfl

/-- A word and a number are never equal. -/
theorem looselyEquals_of_word (ha : a.IsPlain) (hv : v.IsPlain) (word : a.toFloat? = none)
    (number : v.toFloat? = some x) : a.looselyEquals v = false := by
  obtain ⟨s, rfl⟩ | other := plain_text_or_number ha
  · rw [looselyEquals_of_words ha hv (.inl word), Text.sameName_comm]
    obtain ⟨t, rfl⟩ | whole := plain_text_or_number hv
    · rw [Bool.eq_false_iff]
      intro same
      have read : (string t).toFloat? = (string s).toFloat? := toFloat?_congr same
      rw [number, word] at read
      cases read
    · exact not_sameName_of_word whole word
  · exact absurd word (isSome_toFloat? other)

namespace Spells

theorem isPlain (h : Spells i v) : v.IsPlain := by
  cases h <;> simp [IsPlain]

theorem trim_toText? (h : Spells i v) : v.toText?.map Text.trim = some (Whole.write i) := by
  cases h with
  | number => exact congrArg some (Whole.trim_write i)
  | text blank blank' => exact congrArg some ((Text.trim_padded blank blank' _).trans (Whole.trim_write i))

theorem toInt? (h : Spells i v) : v.toInt? = some i := by
  cases h with
  | number => rfl
  | text blank blank' => simp only [Value.toInt?, Text.trim_padded blank blank', Whole.trim_write, Whole.read?_write]

theorem toFloat? (h : Spells i v) : v.toFloat? = some (Whole.toFloat i) := by
  cases h with
  | number => rfl
  | text blank blank' => rw [Value.toFloat?, Text.trim_padded blank blank', Whole.trim_write, Decimal.read?_write]

theorem toBool? (h : Spells i v) : v.toBool? = some (Whole.toFloat i != 0.0) := toBool?_of_toFloat? h.toFloat?

theorem looselyEquals (h : Spells i v) (a : Value) : a.looselyEquals v = a.looselyEquals (int i) := by
  obtain rfl | ⟨f, rfl⟩ | plain := plain_cases a
  · cases h <;> rfl
  · rw [looselyEquals_flag, looselyEquals_flag, h.toBool?, number.toBool?]
  · cases word : a.toFloat? with
    | none =>
      rw [looselyEquals_of_word plain h.isPlain word h.toFloat?,
        looselyEquals_of_word plain number.isPlain word number.toFloat?]
    | some x =>
      rw [looselyEquals_of_numbers plain h.isPlain word h.toFloat?,
        looselyEquals_of_numbers plain number.isPlain word number.toFloat?]

end Spells

/-- The same value, or one whole number as such or with white space around its text. -/
def Respelled (v v' : Value) : Prop := v' = v ∨ ∃ i, Spells i v ∧ Spells i v'

/-- The same value, or one whole number as such or as its bare text. -/
def RespelledBare (v v' : Value) : Prop := v' = v ∨ ∃ i, SpellsBare i v ∧ SpellsBare i v'

theorem RespelledBare.respelled (h : RespelledBare v v') : Respelled v v' :=
  h.imp_right fun ⟨i, here, there⟩ => ⟨i, here.spells, there.spells⟩

/-- Only the bare spellings have the same text. -/
theorem RespelledBare.toText? (h : RespelledBare v v') : v'.toText? = v.toText? := by
  obtain rfl | ⟨i, here, there⟩ := h
  · rfl
  · cases here <;> cases there <;> rfl

namespace Respelled

variable (h : Respelled v v')
include h

theorem trim_toText? : v'.toText?.map Text.trim = v.toText?.map Text.trim := by
  obtain rfl | ⟨i, here, there⟩ := h
  · rfl
  · rw [here.trim_toText?, there.trim_toText?]

theorem toInt? : v'.toInt? = v.toInt? := by
  obtain rfl | ⟨i, here, there⟩ := h
  · rfl
  · rw [here.toInt?, there.toInt?]

theorem toFloat? : v'.toFloat? = v.toFloat? := by
  obtain rfl | ⟨i, here, there⟩ := h
  · rfl
  · rw [here.toFloat?, there.toFloat?]

theorem toBool? : v'.toBool? = v.toBool? := by
  obtain rfl | ⟨i, here, there⟩ := h
  · rfl
  · rw [here.toBool?, there.toBool?]

theorem looselyEquals (a : Value) : a.looselyEquals v' = a.looselyEquals v := by
  obtain rfl | ⟨i, here, there⟩ := h
  · rfl
  · rw [here.looselyEquals, there.looselyEquals]

end Respelled

end Value

namespace Bag

variable {b b' : Bag} {R : String → Value → Value → Prop} {k key : String} {v : Value}

/-- Under each name stands the same, but for what may take its place there. -/
def Like (R : String → Value → Value → Prop) (b b' : Bag) : Prop :=
  ∀ name, Option.Rel (R name) (b.get? name) (b'.get? name)

namespace Like

theorem refl (same : ∀ name v, R name v v) (b : Bag) : Like R b b := by
  intro name
  cases b.get? name with
  | none => exact .none
  | some v => exact .some (same name v)

theorem insert (like : Like R b b') {v v' : Value} (related : R k v v') :
    Like R (Table.insert b k v) (Table.insert b' k v') := by
  intro name
  rw [Table.get?_insert, Table.get?_insert]
  split
  case isTrue same =>
    subst same
    exact .some related
  case isFalse => exact like name

theorem swap (like : Like R b b') : Like (fun name v v' => R name v' v) b' b := by
  intro name
  have related := like name
  generalize b.get? name = o at related ⊢
  generalize b'.get? name = o' at related ⊢
  cases related with
  | none => exact .none
  | some related => exact .some related

theorem get? (like : Like R b b') (found : b.get? k = some v) : ∃ v', b'.get? k = some v' ∧ R k v v' := by
  have related := like k
  rw [found] at related
  generalize b'.get? k = o at related ⊢
  cases related with
  | some related => exact ⟨_, rfl, related⟩

theorem mem_keys (like : Like R b b') (used : k ∈ b.keys) : k ∈ b'.keys := by
  obtain ⟨⟨k, v⟩, mem, rfl⟩ := List.mem_map.1 used
  obtain ⟨v', found, -⟩ := like.get? (Table.get?_eq_some_iff.2 mem)
  exact Bag.mem_keys (Table.get?_eq_some_iff.1 found)

theorem reads (like : Like R b b') (h : b.Reads key v) :
    ∃ name v', Text.sameName name key = true ∧ R name v v' ∧ b'.Reads key v' := by
  cases h with
  | under mem =>
    obtain ⟨v', found, related⟩ := like.get? (Table.get?_eq_some_iff.2 mem)
    exact ⟨key, v', Text.sameName_refl key, related, .under (Table.get?_eq_some_iff.1 found)⟩
  | alike unused mem same first =>
    obtain ⟨v', found, related⟩ := like.get? (Table.get?_eq_some_iff.2 mem)
    exact ⟨_, v', same, related, .alike (mt like.swap.mem_keys unused) (Table.get?_eq_some_iff.1 found) same
      fun k' used => first k' (like.swap.mem_keys used)⟩

/-- What a name reads in the one bag is related to what it reads in the other under the name that both found. -/
theorem find? (like : Like R b b') (key : String) :
    Option.Rel (fun v v' => ∃ name, Text.sameName name key = true ∧ R name v v') (b.find? key) (b'.find? key) := by
  cases found : b.find? key with
  | none =>
    have missing : b'.find? key = none := by
      rw [Option.eq_none_iff_forall_ne_some]
      intro v' found'
      obtain ⟨name, v, -, -, reads⟩ := like.swap.reads (find?_eq_some_iff.1 found')
      cases found.symm.trans (find?_eq_some_iff.2 reads)
    rw [missing]
    exact .none
  | some v =>
    obtain ⟨name, v', same, related, reads⟩ := like.reads (find?_eq_some_iff.1 found)
    rw [find?_eq_some_iff.2 reads]
    exact .some ⟨name, same, related⟩

/-- A reading that tells no difference between what may stand under a name tells none between the bags. -/
theorem bind_find? {γ : Type} {f : Value → Option γ} (like : Like R b b')
    (same : ∀ name v v', Text.sameName name key = true → R name v v' → f v' = f v) :
    (b'.find? key).bind f = (b.find? key).bind f := by
  have related := like.find? key
  generalize b.find? key = o at related ⊢
  generalize b'.find? key = o' at related ⊢
  cases related with
  | none => rfl
  | some related =>
    obtain ⟨name, alike, related⟩ := related
    exact same name _ _ alike related

/-! Bags with numbers in different spellings. -/

theorem getString (like : Like R b b')
    (bare : ∀ name v v', Text.sameName name key = true → R name v v' → v.RespelledBare v') (default : String) :
    b'.getString key default = b.getString key default := by
  rw [Bag.getString, Bag.getString, like.bind_find? fun name v v' same related => (bare name v v' same related).toText?]

section

variable (like : Like R b b') (respelled : ∀ name v v', R name v v' → v.Respelled v') (key : String)
include like respelled

theorem bind_toInt? : (b'.find? key).bind Value.toInt? = (b.find? key).bind Value.toInt? :=
  like.bind_find? fun name v v' _ related => (respelled name v v' related).toInt?

theorem bind_toFloat? : (b'.find? key).bind Value.toFloat? = (b.find? key).bind Value.toFloat? :=
  like.bind_find? fun name v v' _ related => (respelled name v v' related).toFloat?

theorem getInt (default : Int64) : b'.getInt key default = b.getInt key default := by
  rw [Bag.getInt, Bag.getInt, like.bind_toInt? respelled]

theorem getFloat (default : Float) : b'.getFloat key default = b.getFloat key default := by
  rw [Bag.getFloat, Bag.getFloat, like.bind_toFloat? respelled]

theorem getBool (default : Bool) : b'.getBool key default = b.getBool key default := by
  rw [Bag.getBool, Bag.getBool, like.bind_find? fun name v v' _ related => (respelled name v v' related).toBool?]

theorem getText? : b'.getText? key = b.getText? key := by
  have same : (b'.find? key).bind (Option.map Text.trim ∘ Value.toText?) =
      (b.find? key).bind (Option.map Text.trim ∘ Value.toText?) :=
    like.bind_find? fun name v v' _ related => (respelled name v v' related).trim_toText?
  rw [Bag.getText?, Bag.getText?, Option.map_bind, Option.map_bind, same]

end

end Like

variable {i : Int64}

theorem getInt_of_spells (found : b.find? key = some v) (h : v.Spells i) (default : Int64) :
    b.getInt key default = i := by
  rw [getInt, found, Option.bind_some, h.toInt?, Option.getD_some]

theorem getString_of_spellsBare (found : b.find? key = some v) (h : v.SpellsBare i) (default : String) :
    b.getString key default = Whole.write i := by
  rw [getString, found, Option.bind_some, h.toText?, Option.getD_some]

end Bag

end StoryGraph
