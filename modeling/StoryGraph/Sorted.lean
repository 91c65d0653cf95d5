/-!
Sets and maps of names in ascending order. Names are ordered by their characters, which is also the
order of their bytes. The order is strict and part of the types, so equal contents are equal values.
-/

namespace StoryGraph

theorem lt_of_not_lt_of_ne {a b : String} (h : ¬ a < b) (hne : b ≠ a) : b < a := by
  by_cases hba : b < a
  · exact hba
  · exact absurd (String.le_antisymm (String.not_lt.1 h) (String.not_lt.1 hba)) hne

/-- A map from names to values, in ascending order of the names. -/
structure NameMap (β : Type) where
  entries : List (String × β)
  ascending : entries.Pairwise fun a b => a.1 < b.1

namespace NameMap

variable {β : Type}

/-- Replaces the value of a present key and puts a new key in its place. -/
def putEntry (k : String) (v : β) : List (String × β) → List (String × β)
  | [] => [(k, v)]
  | (a, b) :: rest =>
    if k < a then (k, v) :: (a, b) :: rest
    else if a = k then (k, v) :: rest
    else (a, b) :: putEntry k v rest

theorem mem_putEntry {k : String} {v : β} {l : List (String × β)} {e : String × β}
    (h : e ∈ putEntry k v l) : e = (k, v) ∨ e ∈ l := by
  induction l with
  | nil => simpa [putEntry] using h
  | cons x rest ih =>
    obtain ⟨a, b⟩ := x
    simp only [putEntry] at h
    split at h
    · simpa using h
    · split at h
      · rcases List.mem_cons.1 h with h | h <;> simp [h]
      · rcases List.mem_cons.1 h with h | h
        · simp [h]
        · rcases ih h with h | h <;> simp [h]

theorem ascending_putEntry (k : String) (v : β) {l : List (String × β)}
    (h : l.Pairwise fun a b => a.1 < b.1) :
    (putEntry k v l).Pairwise fun a b => a.1 < b.1 := by
  induction l with
  | nil => simp [putEntry]
  | cons x rest ih =>
    obtain ⟨a, b⟩ := x
    obtain ⟨hx, hr⟩ := List.pairwise_cons.1 h
    simp only [putEntry]
    split
    · rename_i hk
      refine List.pairwise_cons.2 ⟨fun e he => ?_, h⟩
      rcases List.mem_cons.1 he with he | he
      · simpa [he] using hk
      · exact String.lt_trans hk (hx e he)
    · split
      · rename_i _ hk
        subst hk
        exact List.pairwise_cons.2 ⟨hx, hr⟩
      · rename_i hk hne
        refine List.pairwise_cons.2 ⟨fun e he => ?_, ih hr⟩
        rcases mem_putEntry he with he | he
        · simpa [he] using lt_of_not_lt_of_ne hk hne
        · exact hx e he

def empty : NameMap β := ⟨[], .nil⟩

instance : Inhabited (NameMap β) := ⟨empty⟩

def get? (m : NameMap β) (k : String) : Option β :=
  (m.entries.find? fun e => e.1 == k).map Prod.snd

def insert (m : NameMap β) (k : String) (v : β) : NameMap β :=
  ⟨putEntry k v m.entries, ascending_putEntry k v m.ascending⟩

/-- Puts the pairs in one after the other, so that of equal keys the last pair counts. -/
def ofList (l : List (String × β)) : NameMap β := l.foldl (fun m e => m.insert e.1 e.2) empty

end NameMap

/-- A set of names in ascending order. -/
structure NameSet where
  names : List String
  ascending : names.Pairwise (· < ·)
deriving DecidableEq

namespace NameSet

/-- Puts a name in its place unless it is there. -/
def putName (k : String) : List String → List String
  | [] => [k]
  | a :: rest =>
    if k < a then k :: a :: rest
    else if a = k then a :: rest
    else a :: putName k rest

theorem mem_putName {k x : String} {l : List String} :
    x ∈ putName k l ↔ x = k ∨ x ∈ l := by
  induction l with
  | nil => simp [putName]
  | cons a rest ih =>
    simp only [putName]
    split
    · simp
    · split
      · rename_i _ h
        subst h
        simp
      · simp only [List.mem_cons, ih]
        constructor <;> (intro h; rcases h with h | h | h <;> simp [h])

theorem ascending_putName (k : String) {l : List String} (h : l.Pairwise (· < ·)) :
    (putName k l).Pairwise (· < ·) := by
  induction l with
  | nil => simp [putName]
  | cons a rest ih =>
    obtain ⟨ha, hr⟩ := List.pairwise_cons.1 h
    simp only [putName]
    split
    · rename_i hk
      refine List.pairwise_cons.2 ⟨fun e he => ?_, h⟩
      rcases List.mem_cons.1 he with he | he
      · simpa [he] using hk
      · exact String.lt_trans hk (ha e he)
    · split
      · exact h
      · rename_i hk hne
        refine List.pairwise_cons.2 ⟨fun e he => ?_, ih hr⟩
        rcases mem_putName.1 he with he | he
        · simpa [he] using lt_of_not_lt_of_ne hk hne
        · exact ha e he

def empty : NameSet := ⟨[], .nil⟩

instance : Inhabited NameSet := ⟨empty⟩

def insert (s : NameSet) (k : String) : NameSet := ⟨putName k s.names, ascending_putName k s.ascending⟩

def filter (p : String → Bool) (s : NameSet) : NameSet := ⟨s.names.filter p, s.ascending.filter p⟩

def ofList (l : List String) : NameSet := l.foldl insert empty

end NameSet

end StoryGraph
