/-!
Tables: values under keys that are pairwise different, in the order in which the keys came. Main
statements: what is put is found, and nothing else changes.
-/

namespace StoryGraph

namespace Table

variable {κ β : Type} [DecidableEq κ]

/-- Replaces the value of a present key; a new key goes to the end. -/
def putEntry (k : κ) (v : β) : List (κ × β) → List (κ × β)
  | [] => [(k, v)]
  | (a, b) :: rest => if a = k then (k, v) :: rest else (a, b) :: putEntry k v rest

theorem mem_keys_putEntry (k : κ) (v : β) (l : List (κ × β)) (x : κ) :
    x ∈ (putEntry k v l).map Prod.fst ↔ x = k ∨ x ∈ l.map Prod.fst := by
  induction l with
  | nil => simp [putEntry]
  | cons e rest ih =>
    obtain ⟨a, b⟩ := e
    by_cases h : a = k
    · simp [putEntry, h]
    · simp only [putEntry, h, if_false, List.map_cons, List.mem_cons, ih]
      constructor <;> (intro h; rcases h with h | h | h <;> simp [h])

theorem nodup_putEntry (k : κ) (v : β) (l : List (κ × β)) (h : (l.map Prod.fst).Nodup) :
    ((putEntry k v l).map Prod.fst).Nodup := by
  induction l with
  | nil => simp [putEntry]
  | cons e rest ih =>
    obtain ⟨a, b⟩ := e
    simp only [List.map_cons, List.nodup_cons] at h
    by_cases hk : a = k
    · subst hk
      simpa [putEntry] using h
    · simp only [putEntry, hk, if_false, List.map_cons, List.nodup_cons]
      refine ⟨fun hm => ?_, ih h.2⟩
      rcases (mem_keys_putEntry k v rest a).1 hm with h' | h'
      · exact hk h'
      · exact h.1 h'

end Table

/-- Values under pairwise different keys. -/
structure Table (κ β : Type) [DecidableEq κ] where
  entries : List (κ × β)
  nodup : (entries.map Prod.fst).Nodup

namespace Table

variable {κ β : Type} [DecidableEq κ]

def empty : Table κ β := ⟨[], by simp⟩

instance : Inhabited (Table κ β) := ⟨empty⟩

def keys (t : Table κ β) : List κ := t.entries.map Prod.fst

def size (t : Table κ β) : Nat := t.entries.length

def get? (t : Table κ β) (k : κ) : Option β := (t.entries.find? fun e => e.1 = k).map Prod.snd

def insert (t : Table κ β) (k : κ) (v : β) : Table κ β :=
  ⟨putEntry k v t.entries, nodup_putEntry k v t.entries t.nodup⟩

/-- Puts the pairs in one after the other, so that of equal keys the last pair counts. -/
def ofList (l : List (κ × β)) : Table κ β := l.foldl (fun t e => t.insert e.1 e.2) empty

/-- Whether two tables have the same keys with values equal under `eq`, in any order. -/
def same (eq : β → β → Bool) (s t : Table κ β) : Bool :=
  s.size == t.size &&
    s.entries.all fun e => match t.get? e.1 with
      | some v => eq e.2 v
      | none => false

end Table

end StoryGraph
