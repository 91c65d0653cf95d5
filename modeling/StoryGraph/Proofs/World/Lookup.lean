import StoryGraph.World.Notes

/-!
Finding and changing things by id. Where ids are distinct, what is changed is the one thing of an id, and all
else stays as it is. What the player carries is named without regard to case.
-/

namespace StoryGraph

namespace Text

/-- No two of these names are the same. -/
def Distinct (names : List String) : Prop := (names.map fold).Nodup

instance (names : List String) : Decidable (Distinct names) := inferInstanceAs (Decidable (List.Nodup _))

theorem sameName_congr {a b : String} (h : sameName a b = true) (c : String) : sameName c a = sameName c b := by
  rw [sameName, sameName, sameName_iff.1 h]

end Text

variable {α : Type}

/-- Only what is found is changed. -/
theorem mem_modifyFirst {p : α → Bool} {f : α → α} {l : List α} {a : α} (h : a ∈ modifyFirst p f l) :
    a ∈ l ∨ ∃ b, l.find? p = some b ∧ a = f b := by
  induction l with
  | nil => cases h
  | cons b rest ih =>
    simp only [modifyFirst] at h
    split at h
    case isTrue here =>
      cases List.mem_cons.1 h with
      | inl same => exact .inr ⟨b, List.find?_cons_of_pos here, same⟩
      | inr mem => exact .inl (List.mem_cons_of_mem b mem)
    case isFalse other =>
      cases List.mem_cons.1 h with
      | inl same => exact .inl (same ▸ List.mem_cons_self)
      | inr mem =>
        cases ih mem with
        | inl mem => exact .inl (List.mem_cons_of_mem b mem)
        | inr changed =>
          obtain ⟨c, found, same⟩ := changed
          exact .inr ⟨c, (List.find?_cons_of_neg other).trans found, same⟩

theorem find?_modifyFirst {p : α → Bool} {f : α → α} (keeps : ∀ a, p (f a) = p a) (l : List α) :
    (modifyFirst p f l).find? p = (l.find? p).map f := by
  induction l with
  | nil => rfl
  | cons a rest ih =>
    simp only [modifyFirst]
    split
    case isTrue here =>
      have still : p (f a) = true := (keeps a).trans here
      rw [List.find?_cons_of_pos still, List.find?_cons_of_pos here, Option.map_some]
    case isFalse other => rw [List.find?_cons_of_neg other, List.find?_cons_of_neg other, ih]

theorem find?_modifyFirst_other {p q : α → Bool} {f : α → α} (other : ∀ a, p a = true → q a = false ∧ q (f a) = false)
    (l : List α) : (modifyFirst p f l).find? q = l.find? q := by
  induction l with
  | nil => rfl
  | cons a rest ih =>
    simp only [modifyFirst]
    split
    case isTrue here => simp [other a here]
    case isFalse => simp only [List.find?_cons, ih]

/-- What a change does to other elements than the first one does not matter. -/
theorem modifyFirst_congr {p : α → Bool} {f g : α → α} {l : List α} (same : ∀ a, l.find? p = some a → f a = g a) :
    modifyFirst p f l = modifyFirst p g l := by
  induction l with
  | nil => rfl
  | cons a rest ih =>
    simp only [modifyFirst]
    split
    case isTrue here => rw [same a (List.find?_cons_of_pos here)]
    case isFalse other => rw [ih fun b found => same b ((List.find?_cons_of_neg other).trans found)]

theorem modifyFirst_id (p : α → Bool) (l : List α) : modifyFirst p (fun a => a) l = l := by
  induction l with
  | nil => rfl
  | cons a rest ih =>
    simp only [modifyFirst]
    split
    · rfl
    · rw [ih]

theorem length_modifyFirst (p : α → Bool) (f : α → α) (l : List α) : (modifyFirst p f l).length = l.length := by
  simpa using congrArg List.length (map_modifyFirst p f (fun _ => ()) (fun _ => rfl) l)

theorem getElem?_modifyFirst (p : α → Bool) (f : α → α) (l : List α) (i : Nat) :
    (modifyFirst p f l)[i]? = if l.findIdx? p = some i then l[i]?.map f else l[i]? := by
  induction l generalizing i with
  | nil => simp [modifyFirst]
  | cons a rest ih =>
    simp only [modifyFirst, List.findIdx?_cons]
    split
    case isTrue here => cases i <;> simp
    case isFalse other =>
      cases i with
      | zero => simp
      | succ i => simp [ih]

theorem map_modifyFirst_found {β : Type} {p : α → Bool} {f : α → α} {key : α → β}
    (h : ∀ a, p a = true → key (f a) = key a) (l : List α) : (modifyFirst p f l).map key = l.map key := by
  induction l with
  | nil => rfl
  | cons a rest ih =>
    simp only [modifyFirst]
    split
    case isTrue here => simp only [List.map_cons, h a here]
    case isFalse => simp only [List.map_cons, ih]

/-- No element but the one of this id is changed. -/
theorem mem_modifyFirst_iff {key : α → String} {f : α → α} {id : String} {l : List α}
    (distinct : Text.Distinct (l.map key)) {a : α} :
    a ∈ modifyFirst (fun e => Text.sameName (key e) id) f l ↔
      (a ∈ l ∧ Text.sameName (key a) id = false) ∨ ∃ b ∈ l, Text.sameName (key b) id = true ∧ a = f b := by
  induction l with
  | nil => simp [modifyFirst]
  | cons b rest ih =>
    simp only [Text.Distinct, List.map_cons, List.nodup_cons] at distinct
    obtain ⟨alone, distinct⟩ := distinct
    simp only [modifyFirst]
    split
    case isTrue same =>
      have others : ∀ e ∈ rest, Text.sameName (key e) id = false := by
        intro e mem
        rw [Bool.eq_false_iff]
        intro also
        refine alone (List.mem_map.2 ⟨key e, List.mem_map_of_mem mem, ?_⟩)
        rw [Text.sameName_iff.1 also, Text.sameName_iff.1 same]
      simp only [List.mem_cons]
      constructor
      · rintro (rfl | mem)
        · exact .inr ⟨b, .inl rfl, same, rfl⟩
        · exact .inl ⟨.inr mem, others a mem⟩
      · rintro (⟨rfl | mem, other⟩ | ⟨c, rfl | mem, also, rfl⟩)
        · exact absurd (same.symm.trans other) (by simp)
        · exact .inr mem
        · exact .inl rfl
        · exact absurd (also.symm.trans (others c mem)) (by simp)
    case isFalse other =>
      rw [Bool.not_eq_true] at other
      simp only [List.mem_cons, ih distinct]
      constructor
      · rintro (rfl | ⟨mem, unlike⟩ | ⟨c, mem, same, rfl⟩)
        · exact .inl ⟨.inl rfl, other⟩
        · exact .inl ⟨.inr mem, unlike⟩
        · exact .inr ⟨c, .inr mem, same, rfl⟩
      · rintro (⟨rfl | mem, unlike⟩ | ⟨c, rfl | mem, same, rfl⟩)
        · exact .inl rfl
        · exact .inr (.inl ⟨mem, unlike⟩)
        · exact absurd (same.symm.trans other) (by simp)
        · exact .inr (.inr ⟨c, mem, same, rfl⟩)

namespace World

variable {w : World} {id : String}

theorem npc?_congr {a b : String} (same : Text.sameName a b = true) : w.npc? a = w.npc? b := by
  simp only [npc?, Text.sameName_congr same]

theorem sameName_of_room? {r : Room} (h : w.room? id = some r) : Text.sameName r.id id = true := by
  simp only [room?] at h
  exact List.find?_some (p := fun e : Room => Text.sameName e.id id) h

theorem sameName_of_door? {d : Door} (h : w.door? id = some d) : Text.sameName d.id id = true := by
  simp only [door?] at h
  exact List.find?_some (p := fun e : Door => Text.sameName e.id id) h

theorem sameName_of_npc? {n : Npc} (h : w.npc? id = some n) : Text.sameName n.id id = true := by
  simp only [npc?] at h
  exact List.find?_some (p := fun e : Npc => Text.sameName e.id id) h

theorem npc?_id {n : Npc} (h : w.npc? id = some n) : w.npc? n.id = some n := by
  rw [npc?_congr (sameName_of_npc? h), h]

theorem sameName_of_object? {o : GameObject} (h : w.object? id = some o) : Text.sameName o.id id = true := by
  simp only [object?] at h
  exact List.find?_some (p := fun e : GameObject => Text.sameName e.id id) h

theorem sameName_canonicalObjectId (w : World) (id : String) : Text.sameName (w.canonicalObjectId id) id = true := by
  rw [canonicalObjectId]
  cases found : w.object? id with
  | none => exact Text.sameName_refl id
  | some o => exact sameName_of_object? found

/-- For an update of fields the ids are kept by computation. -/
theorem npc?_modifyNpc {f : Npc → Npc} (keeps : ∀ n, (f n).id = n.id := by exact fun _ => rfl) :
    (w.modifyNpc id f).npc? id = (w.npc? id).map f :=
  find?_modifyFirst (fun n => by rw [keeps]) w.npcs

theorem npc?_modifyNpc_other {other : String} {f : Npc → Npc} (unlike : Text.sameName other id = false)
    (keeps : ∀ n, (f n).id = n.id := by exact fun _ => rfl) : (w.modifyNpc id f).npc? other = w.npc? other := by
  refine find?_modifyFirst_other (fun n here => ?_) w.npcs
  have away : Text.sameName n.id other = false := by
    rw [Text.sameName_comm, Text.sameName_congr here, unlike]
  exact ⟨away, (congrArg (Text.sameName · other) (keeps n)).trans away⟩

end World

namespace Player

variable {p : Player} {id : String}

theorem hasItem_addItem {x : String} :
    (p.addItem id).hasItem x = true ↔ p.hasItem x = true ∨ Text.sameName id x = true := by
  rw [addItem]
  split
  case isTrue held =>
    refine ⟨.inl, fun h => h.elim (fun h => h) fun same => ?_⟩
    simpa only [hasItem, Text.sameName_congr same] using held
  case isFalse => simp [hasItem]

theorem hasItem_removeItem {x : String} :
    (p.removeItem id).hasItem x = true ↔ p.hasItem x = true ∧ Text.sameName x id = false := by
  simp only [removeItem, hasItem, List.any_eq_true, List.mem_filter, Bool.not_eq_true']
  constructor
  · rintro ⟨i, ⟨mem, other⟩, same⟩
    rw [Text.sameName, Text.sameName_iff.1 same] at other
    exact ⟨⟨i, mem, same⟩, other⟩
  · rintro ⟨⟨i, mem, same⟩, other⟩
    rw [Text.sameName, ← Text.sameName_iff.1 same] at other
    exact ⟨i, ⟨mem, other⟩, same⟩

end Player

end StoryGraph
