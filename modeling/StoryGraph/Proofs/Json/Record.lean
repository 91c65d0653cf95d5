import StoryGraph.Json.Record
import StoryGraph.Proofs.Table

/-!
Records and lists, read and written. Main statements: what was written for a list or for the pairs of an object is
read again if that holds of every item; and what a record reads for a declared field is the value that the tree gives
for it, or its default.
-/

namespace StoryGraph.Json

/-! Reading what was written. -/

@[simp] theorem text?_str (s : String) : (str s).text? = some s := rfl

@[simp] theorem flag?_bool (b : Bool) : (bool b).flag? = some b := rfl

@[simp] theorem int64?_toInt (n : Int64) : (int n.toInt).int64? = some n := by
  have lower := Int64.minValue_le_toInt n
  have upper := Int64.toInt_le n
  rw [int64?, if_pos ⟨lower, upper⟩, Int64.ofInt_toInt]

variable {α β : Type} {read : Json → Option α}

theorem mapM_map {γ : Type} {f : β → Option γ} {write : α → β} {g : α → γ} {l : List α}
    (h : ∀ a ∈ l, f (write a) = some (g a)) : (l.map write).mapM f = some (l.map g) := by
  induction l with
  | nil => rfl
  | cons a rest ih =>
    obtain ⟨here, there⟩ := List.forall_mem_cons.1 h
    simp [here, ih there]

theorem list?_map {write : α → Json} {l : List α} (h : ∀ a ∈ l, read (write a) = some a) :
    (arr (l.map write)).list? read = some l := by
  rw [list?, mapM_map h, List.map_id']

theorem pairs?_map {write : β → Json} {g : β → α} {l : List (String × β)} (h : ∀ b, read (write b) = some (g b)) :
    (obj (l.map fun e => (e.1, write e.2))).pairs? read = some (l.map fun e => (e.1, g e.2)) := by
  refine mapM_map fun e _ => ?_
  simp only [h, Option.map_some]

/-- A field has its default, or it is read from a tree of the record. -/
theorem Record.get_cases {r : Record} {name : String} {default a : α} (h : r.get name read default = some a) :
    a = default ∨ ∃ f ∈ r.fields, read f.2 = some a := by
  simp only [get] at h
  split at h
  · exact .inl (Option.some.inj h).symm
  · rename_i j found
    obtain ⟨f, first, rfl⟩ := Option.map_eq_some_iff.1 found
    exact .inr ⟨f, List.mem_of_find?_eq_some first, h⟩

/-! A record field by field. -/

/-- No declared field is given twice. -/
def Single (declared : List String) (fields : List (String × Json)) : Prop :=
  ((fields.filter fun f => declared.contains f.1).map Prod.fst).Nodup

/-- The fields that a tree has as a record: those of an object, or a row of values for the first declared ones. -/
inductive Fields (declared : List String) : Json → List (String × Json) → Prop where
  | object {fields} (single : Single declared fields) : Fields declared (obj fields) fields
  | row {items} (short : items.length ≤ declared.length) : Fields declared (arr items) (declared.zip items)

/-- What a field comes to: what is read from its value, or the default, if there is one, where it is left out. -/
inductive Gives (fields : List (String × Json)) (name : String) (read : Json → Option α) (default : Option α)
    (a : α) : Prop where
  | given {j : Json} (mem : (name, j) ∈ fields) (value : read j = some a)
  | missing (absent : ∀ j, (name, j) ∉ fields) (left : default = some a)

variable {declared : List String} {j : Json} {r : Record} {fields : List (String × Json)} {name : String}
  {a default : α}

theorem filter_row (items : List Json) :
    ((declared.zip items).filter fun f => declared.contains f.1) = declared.zip items :=
  List.filter_eq_self.2 fun _ mem => List.contains_iff_mem.2 (List.of_mem_zip mem).1

theorem Fields.single (distinct : declared.Nodup) (h : Fields declared j fields) : Single declared fields := by
  cases h with
  | object single => exact single
  | @row items short =>
    have cut : declared.zip items = (declared.take items.length).zip items := by
      rw [List.zip_eq_zip_take_min, Nat.min_eq_right short, List.take_length]
    have within : (declared.take items.length).length ≤ items.length := List.length_take_le _ _
    rw [Single, filter_row, cut, List.map_fst_zip within]
    exact distinct.sublist (List.take_sublist _ _)

theorem record?_eq_some_iff : j.record? declared = some r ↔
    ∃ fields, Fields declared j fields ∧ r.fields = fields.filter fun f => declared.contains f.1 := by
  constructor
  · intro record
    cases j with
    | obj fields =>
      simp only [record?] at record
      split at record
      · rename_i single
        cases record
        exact ⟨fields, .object single, rfl⟩
      · cases record
    | arr items =>
      simp only [record?] at record
      split at record
      · rename_i short
        cases record
        exact ⟨_, .row short, (filter_row items).symm⟩
      · cases record
    | null | bool b | int i | float x | str s | unreadable => cases record
  · rintro ⟨fields, here, known⟩
    cases r
    cases known
    cases here with
    | object single => exact if_pos single
    | row short => rw [record?, if_pos short, filter_row]

/-- A record finds under a declared name what is given there. -/
def Record.Holds (r : Record) (declared : List String) (fields : List (String × Json)) : Prop :=
  ∀ name ∈ declared, ∀ j, r.find? name = some j ↔ (name, j) ∈ fields

theorem Fields.holds (distinct : declared.Nodup) (h : Fields declared j fields)
    (kept : r.fields = fields.filter fun f => declared.contains f.1) : r.Holds declared fields := by
  intro name known j
  have entries : r.find? name = (Table.mk _ (h.single distinct)).get? name := by
    rw [Record.find?, kept]
    rfl
  rw [entries, Table.get?_eq_some_iff]
  exact List.mem_filter.trans (and_iff_left (List.contains_iff_mem.2 known))

/-- What is read from a record is told by the fields that a tree has. -/
theorem exists_record_iff {P : Record → Prop} {Q : List (String × Json) → Prop} (distinct : declared.Nodup)
    (same : ∀ r fields, r.Holds declared fields → (P r ↔ Q fields)) :
    (∃ r, j.record? declared = some r ∧ P r) ↔ ∃ fields, Fields declared j fields ∧ Q fields := by
  constructor
  · rintro ⟨r, record, read⟩
    obtain ⟨fields, here, kept⟩ := record?_eq_some_iff.1 record
    exact ⟨fields, here, (same r fields (here.holds distinct kept)).1 read⟩
  · rintro ⟨fields, here, given⟩
    exact ⟨_, record?_eq_some_iff.2 ⟨fields, here, rfl⟩, (same _ fields (here.holds distinct rfl)).2 given⟩

namespace Record.Holds

variable (h : r.Holds declared fields) (known : name ∈ declared)
include h known

theorem need_eq_some_iff : r.need name read = some a ↔ Gives fields name read none a := by
  rw [need, Option.bind_eq_some_iff]
  constructor
  · rintro ⟨j, found, value⟩
    exact .given ((h name known j).1 found) value
  · rintro (⟨mem, value⟩ | ⟨-, left⟩)
    · exact ⟨_, (h name known _).2 mem, value⟩
    · cases left

theorem get_eq_some_iff : r.get name read default = some a ↔ Gives fields name read (some default) a := by
  cases found : r.find? name with
  | none =>
    have absent (j : Json) : (name, j) ∉ fields := fun mem => by
      have found' := (h name known j).2 mem
      cases found.symm.trans found'
    simp only [get, found]
    constructor
    · exact .missing absent
    · rintro (⟨mem, -⟩ | ⟨-, left⟩)
      · exact absurd mem (absent _)
      · exact left
  | some j =>
    have mem := (h name known j).1 found
    simp only [get, found]
    constructor
    · exact .given mem
    · rintro (⟨mem', value⟩ | ⟨absent, -⟩)
      · have found' := (h name known _).2 mem'
        cases found.symm.trans found'
        exact value
      · exact absurd mem (absent j)

end Record.Holds

end StoryGraph.Json
