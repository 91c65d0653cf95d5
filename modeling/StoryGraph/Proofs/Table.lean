import StoryGraph.Sorted
import StoryGraph.Table

/-!
Tables and maps of names. Main statements: what is put in is found and nothing else changes, and a table is made
again from its entries.
-/

namespace StoryGraph

theorem find?_perm {κ β : Type} [DecidableEq κ] {l l' : List (κ × β)} (h : l.Perm l')
    (distinct : (l.map Prod.fst).Nodup) (k : κ) : (l.find? fun e => e.1 = k) = l'.find? fun e => e.1 = k := by
  induction h with
  | nil => rfl
  | cons e _ ih =>
    rw [List.map_cons, List.nodup_cons] at distinct
    rw [List.find?_cons, List.find?_cons, ih distinct.2]
  | swap e e' rest =>
    simp only [List.map_cons, List.nodup_cons, List.mem_cons, not_or] at distinct
    by_cases here : e.1 = k
    · have other : ¬ e'.1 = k := fun same => distinct.1.1 (same.trans here.symm)
      simp [here, other]
    · simp [List.find?_cons, here]
  | trans first _ ih ih' => exact (ih distinct).trans (ih' ((first.map Prod.fst).nodup_iff.1 distinct))

theorem new_key {κ β : Type} {before rest : List (κ × β)} {e : κ × β}
    (distinct : ((before ++ e :: rest).map Prod.fst).Nodup) : e.1 ∉ before.map Prod.fst := by
  intro mem
  rw [List.map_append] at distinct
  exact (List.nodup_append.1 distinct).2.2 e.1 mem e.1 List.mem_cons_self rfl

/-- What is found after entries were put in was put in, or was there before. -/
theorem mem_foldl {σ ε : Type} (entries : σ → List ε) {put : σ → ε → σ}
    (step : ∀ s a e, e ∈ entries (put s a) → e = a ∨ e ∈ entries s) (l : List ε) (s : σ) {e : ε}
    (h : e ∈ entries (l.foldl put s)) : e ∈ l ∨ e ∈ entries s := by
  induction l generalizing s with
  | nil => exact .inr h
  | cons a rest ih =>
    cases ih (put s a) h with
    | inl mem => exact .inl (List.mem_cons_of_mem a mem)
    | inr mem =>
      cases step s a e mem with
      | inl same => exact .inl (same ▸ List.mem_cons_self)
      | inr mem => exact .inr mem

namespace NameMap

variable {β : Type}

theorem putEntry_perm {k : String} (v : β) {l : List (String × β)} (new : k ∉ l.map Prod.fst) :
    (putEntry k v l).Perm ((k, v) :: l) := by
  induction l with
  | nil => exact .refl _
  | cons e rest ih =>
    rw [List.map_cons, List.mem_cons, not_or] at new
    rw [putEntry]
    split
    · exact .refl _
    · rw [if_neg fun same => new.1 same.symm]
      exact ((ih new.2).cons e).trans (.swap (k, v) e rest)

theorem foldl_insert_perm {l : List (String × β)} {m : NameMap β} (distinct : ((m.entries ++ l).map Prod.fst).Nodup) :
    (l.foldl (fun m e => m.insert e.1 e.2) m).entries.Perm (m.entries ++ l) := by
  induction l generalizing m with
  | nil => simp
  | cons e rest ih =>
    have inserted : (m.insert e.1 e.2).entries.Perm (m.entries ++ [e]) :=
      (putEntry_perm e.2 (new_key distinct)).trans (List.perm_append_singleton e m.entries).symm
    have moved : ((m.insert e.1 e.2).entries ++ rest).Perm (m.entries ++ e :: rest) := by
      rw [List.append_cons]
      exact inserted.append_right rest
    exact (ih ((moved.map Prod.fst).nodup_iff.2 distinct)).trans moved

theorem ofList_perm {l : List (String × β)} (distinct : (l.map Prod.fst).Nodup) : (ofList l).entries.Perm l :=
  foldl_insert_perm (m := empty) distinct

theorem mem_ofList {l : List (String × β)} {e : String × β} (h : e ∈ (ofList l).entries) :
    e ∈ l := by
  cases mem_foldl entries (fun m _ _ mem => mem_putEntry mem) l empty h with
  | inl mem => exact mem
  | inr mem => cases mem

/-! The first entry whose key satisfies a test. -/

section First

variable {p : String → Bool} {k : String}

/-- Where no other key that satisfies `p` comes first, the one that is put in is found. -/
theorem find?_insert {m : NameMap β} (v : β) (here : p k = true)
    (first : ∀ e, (m.entries.find? fun e => p e.1) = some e → e.1 = k) :
    ((m.insert k v).entries.find? fun e => p e.1) = some (k, v) := by
  obtain ⟨entries, ascending⟩ := m
  simp only [insert] at first ⊢
  clear ascending
  induction entries with
  | nil => simp [putEntry, here]
  | cons e rest ih =>
    rw [putEntry]
    split
    · simp only [List.find?_cons, here]
    · split
      case isTrue => simp only [List.find?_cons, here]
      case isFalse unlike =>
        have other : p e.1 = false := Bool.eq_false_iff.2 fun found => unlike (first e (by simp [found]))
        simp only [List.find?_cons, other] at first ⊢
        exact ih first

theorem find?_insert_other (m : NameMap β) (v : β) (other : p k = false) :
    ((m.insert k v).entries.find? fun e => p e.1) = m.entries.find? fun e => p e.1 := by
  obtain ⟨entries, ascending⟩ := m
  simp only [insert]
  clear ascending
  induction entries with
  | nil => simp [putEntry, other]
  | cons e rest ih =>
    rw [putEntry]
    split
    · simp only [List.find?_cons, other]
    · split
      case isTrue same => simp only [List.find?_cons, same, other]
      case isFalse => simp only [List.find?_cons, ih]

end First

theorem get?_insert (m : NameMap β) (k a : String) (v : β) :
    (m.insert k v).get? a = if k = a then some v else m.get? a := by
  rw [get?, get?]
  split
  case isTrue same =>
    have first : ∀ e, (m.entries.find? fun e => e.1 == a) = some e → e.1 = k := fun e found =>
      (eq_of_beq (List.find?_some (p := fun e : String × β => e.1 == a) found)).trans same.symm
    rw [find?_insert (p := (· == a)) v (beq_iff_eq.2 same) first, Option.map_some]
  case isFalse other => rw [find?_insert_other (p := (· == a)) m v (beq_eq_false_iff_ne.2 other)]

end NameMap

namespace Table

variable {κ β : Type} [DecidableEq κ]

theorem find?_putEntry (k a : κ) (v : β) (l : List (κ × β)) :
    ((putEntry k v l).find? fun e => e.1 = a) = if k = a then some (k, v) else l.find? fun e => e.1 = a := by
  induction l with
  | nil => by_cases same : k = a <;> simp [putEntry, same]
  | cons e rest ih =>
    obtain ⟨b, w⟩ := e
    by_cases here : b = k
    · by_cases same : k = a <;> simp [putEntry, here, same]
    · by_cases there : b = a
      · have other : ¬ k = a := fun same => here (there.trans same.symm)
        rw [putEntry, if_neg here, if_neg other]
        simp [there]
      · simp only [putEntry, here, if_false, List.find?_cons, there, decide_false, ih]

theorem get?_insert (t : Table κ β) (k a : κ) (v : β) :
    (t.insert k v).get? a = if k = a then some v else t.get? a := by
  rw [get?, insert, find?_putEntry]
  split <;> rfl

theorem get?_eq_some_iff {t : Table κ β} {k : κ} {v : β} : t.get? k = some v ↔ (k, v) ∈ t.entries := by
  obtain ⟨entries, nodup⟩ := t
  simp only [get?]
  induction entries with
  | nil => simp
  | cons e rest ih =>
    obtain ⟨a, b⟩ := e
    rw [List.map_cons, List.nodup_cons] at nodup
    by_cases here : a = k
    · subst here
      have other : (a, v) ∉ rest := fun mem => nodup.1 (List.mem_map.2 ⟨(a, v), mem, rfl⟩)
      simp [other, eq_comm]
    · have other : ¬ k = a := fun same => here same.symm
      simp [here, other, ih nodup.2]

theorem putEntry_new {k : κ} (v : β) {l : List (κ × β)} (new : k ∉ l.map Prod.fst) :
    putEntry k v l = l ++ [(k, v)] := by
  induction l with
  | nil => rfl
  | cons e rest ih =>
    rw [List.map_cons, List.mem_cons, not_or] at new
    rw [putEntry, if_neg fun same => new.1 same.symm, ih new.2, List.cons_append]

theorem foldl_insert {l : List (κ × β)} {t : Table κ β} (distinct : ((t.entries ++ l).map Prod.fst).Nodup) :
    (l.foldl (fun t e => t.insert e.1 e.2) t).entries = t.entries ++ l := by
  induction l generalizing t with
  | nil => simp
  | cons e rest ih =>
    have inserted : (t.insert e.1 e.2).entries = t.entries ++ [e] := putEntry_new e.2 (new_key distinct)
    rw [List.append_cons, ← inserted] at distinct ⊢
    exact ih distinct

theorem entries_ofList {l : List (κ × β)} (distinct : (l.map Prod.fst).Nodup) : (ofList l).entries = l :=
  foldl_insert (t := empty) distinct

theorem mem_putEntry {k : κ} {v : β} {l : List (κ × β)} {e : κ × β} (h : e ∈ putEntry k v l) :
    e = (k, v) ∨ e ∈ l := by
  induction l with
  | nil => simpa [putEntry] using h
  | cons a rest ih =>
    by_cases here : a.1 = k
    · rw [putEntry, if_pos here] at h
      cases List.mem_cons.1 h with
      | inl same => exact .inl same
      | inr mem => exact .inr (List.mem_cons_of_mem a mem)
    · rw [putEntry, if_neg here] at h
      cases List.mem_cons.1 h with
      | inl same => exact .inr (same ▸ List.mem_cons_self)
      | inr mem => exact (ih mem).imp_right (List.mem_cons_of_mem a)

theorem mem_ofList {l : List (κ × β)} {e : κ × β} (h : e ∈ (ofList l).entries) : e ∈ l := by
  cases mem_foldl entries (fun t _ _ mem => mem_putEntry mem) l empty h with
  | inl mem => exact mem
  | inr mem => cases mem

end Table

end StoryGraph
