import StoryGraph.Proofs.Json.Hereditary
import StoryGraph.Proofs.Json.Record

/-!
Trees whose objects list the same fields in another order, as writers do that sort the keys or keep them in a hash
map. Main statements: a record reads the same fields from such trees, and an object the same pairs.
-/

namespace StoryGraph.Json

/-- The same tree, but for the order of the fields in its objects, whose keys are pairwise different. -/
inductive Reordered : Json → Json → Prop where
  | refl (j : Json) : Reordered j j
  | arr {items items' : List Json} (parts : List.Forall₂ Reordered items items') : Reordered (arr items) (arr items')
  | obj {fields listed fields' : List (String × Json)} (distinct : (fields.map Prod.fst).Nodup)
    (keys : fields.map Prod.fst = listed.map Prod.fst)
    (parts : List.Forall₂ Reordered (fields.map Prod.snd) (listed.map Prod.snd)) (order : listed.Perm fields') :
    Reordered (obj fields) (obj fields')

namespace Reordered

theorem eq_of_isLeaf {j j' : Json} (h : Reordered j j') (leaf : j.isLeaf = true) : j' = j := by
  cases h with
  | refl => rfl
  | arr | obj => cases leaf

theorem of_arr {items : List Json} {j' : Json} (h : Reordered (.arr items) j') :
    ∃ items', j' = .arr items' ∧ List.Forall₂ Reordered items items' := by
  cases h with
  | refl => exact ⟨items, rfl, List.forall₂_same.2 fun i _ => .refl i⟩
  | arr parts => exact ⟨_, rfl, parts⟩

/-- The fields of one object and their counterparts. -/
def Field (f f' : String × Json) : Prop := f'.1 = f.1 ∧ Reordered f.2 f'.2

theorem field_of_columns {fields listed : List (String × Json)} (keys : fields.map Prod.fst = listed.map Prod.fst)
    (parts : List.Forall₂ Reordered (fields.map Prod.snd) (listed.map Prod.snd)) :
    List.Forall₂ Field fields listed := by
  induction fields generalizing listed with
  | nil =>
    cases listed with
    | nil => exact .nil
    | cons => cases keys
  | cons f rest ih =>
    cases listed with
    | nil => cases keys
    | cons f' rest' =>
      obtain ⟨name, names⟩ := List.cons.inj keys
      cases parts with
      | cons here there => exact .cons ⟨name.symm, here⟩ (ih names there)

theorem of_obj {fields : List (String × Json)} {j' : Json} (h : Reordered (.obj fields) j') :
    ∃ listed fields', j' = .obj fields' ∧ List.Forall₂ Field fields listed ∧ listed.Perm fields' := by
  cases h with
  | refl => exact ⟨fields, fields, rfl, List.forall₂_same.2 fun f _ => ⟨rfl, .refl f.2⟩, .refl _⟩
  | obj _ keys parts order => exact ⟨_, _, rfl, field_of_columns keys parts, order⟩

theorem keys_of_field {fields listed : List (String × Json)} (h : List.Forall₂ Field fields listed) :
    listed.map Prod.fst = fields.map Prod.fst := by
  induction h with
  | nil => rfl
  | cons here _ ih => rw [List.map_cons, List.map_cons, here.1, ih]

/-- A record reads each of its fields as it was written, wherever it stands. -/
theorem record? {fields : List (String × Json)} {j' : Json} (h : Reordered (.obj fields) j')
    (distinct : (fields.map Prod.fst).Nodup) (declared : List String) (known : ∀ f ∈ fields, f.1 ∈ declared) :
    ∃ r, j'.record? declared = some r ∧
      ∀ name, Option.Rel Reordered ((fields.find? fun f => f.1 == name).map Prod.snd) (r.find? name) := by
  obtain ⟨listed, fields', rfl, parts, order⟩ := h.of_obj
  have keys := keys_of_field parts
  have names : (fields'.map Prod.fst).Perm (fields.map Prod.fst) := keys ▸ (order.map Prod.fst).symm
  have declares : ∀ f ∈ fields', declared.contains f.1 = true := by
    intro f mem
    obtain ⟨f', mem', same⟩ := List.mem_map.1 (names.mem_iff.1 (List.mem_map_of_mem mem))
    rw [List.contains_iff_mem, ← same]
    exact known f' mem'
  have all : (fields'.filter fun f => declared.contains f.1) = fields' := List.filter_eq_self.2 declares
  refine ⟨⟨fields'⟩, ?_, fun name => ?_⟩
  · simp only [Json.record?, all]
    rw [if_pos (names.nodup_iff.2 distinct)]
  · have found : (fields'.find? fun f => f.1 == name) = listed.find? fun f => f.1 == name := by
      simpa only [beq_eq_decide] using (find?_perm order (keys ▸ distinct) name).symm
    rw [Record.find?, found]
    exact rel_map (fun _ _ field => field.2) (rel_find? (fun f f' field => by rw [field.1]) parts)

end Reordered

namespace Record

variable {r : Record} {name : String} {j : Json}

theorem find?_reordered (h : Option.Rel Reordered (some j) (r.find? name)) :
    ∃ j', r.find? name = some j' ∧ Reordered j j' := by
  cases found : r.find? name with
  | none =>
    rw [found] at h
    cases h
  | some j' =>
    rw [found] at h
    cases h with
    | some same => exact ⟨j', rfl, same⟩

theorem find?_leaf (h : Option.Rel Reordered (some j) (r.find? name)) (leaf : j.isLeaf = true) :
    r.find? name = some j := by
  obtain ⟨j', found, same⟩ := find?_reordered h
  rw [found, same.eq_of_isLeaf leaf]

theorem find?_none (h : Option.Rel Reordered none (r.find? name)) : r.find? name = none := by
  cases found : r.find? name with
  | none => rfl
  | some j' =>
    rw [found] at h
    cases h

end Record

/-! The sorted tree. -/

/-- In no object of the tree a key stands twice. -/
inductive Distinct : Json → Prop where
  | leaf {j : Json} (leaf : j.isLeaf = true) : Distinct j
  | arr {items : List Json} (inner : ∀ i ∈ items, Distinct i) : Distinct (arr items)
  | obj {fields : List (String × Json)} (keys : (fields.map Prod.fst).Nodup) (inner : ∀ f ∈ fields, Distinct f.2) :
    Distinct (obj fields)

theorem Distinct.str (s : String) : (str s).Distinct := .leaf rfl

theorem Distinct.canonical? {j c : Json} (distinct : j.Distinct) (h : j.canonical? = some c) : Reordered j c := by
  refine canonical?_induction (R := fun j c => j.Distinct → Reordered j c) (fun j _ _ => .refl j) ?arr ?obj h distinct
  case arr =>
    intro items is parts distinct
    cases distinct with
    | leaf leaf => cases leaf
    | arr inner => exact .arr (forall₂_of_forall parts inner)
  case obj =>
    intro fields fs keys parts distinct
    cases distinct with
    | leaf leaf => cases leaf
    | obj nodup inner =>
      exact .obj nodup keys (forall₂_of_forall parts (List.forall_mem_map.2 inner))
        (NameMap.ofList_perm (keys ▸ nodup)).symm

/-! Lists and pairs. -/

/-- Items that are each read as something related are read as a related list. -/
theorem list?_reordered {α : Type} {read : Json → Option α} {write : α → Json} {R : α → α → Prop} {l : List α}
    (h : ∀ a ∈ l, ∀ j', Reordered (write a) j' → ∃ a', read j' = some a' ∧ R a a') {j' : Json}
    (same : Reordered (.arr (l.map write)) j') : ∃ l', j'.list? read = some l' ∧ List.Forall₂ R l l' := by
  obtain ⟨items, rfl, parts⟩ := same.of_arr
  clear same
  induction l generalizing items with
  | nil =>
    cases parts
    exact ⟨[], rfl, .nil⟩
  | cons a rest ih =>
    obtain ⟨here, there⟩ := List.forall_mem_cons.1 h
    cases parts with
    | cons first others =>
      obtain ⟨a', item, related⟩ := here _ first
      obtain ⟨l', items, related'⟩ := ih there _ others
      refine ⟨a' :: l', ?_, .cons related related'⟩
      simp only [list?] at items
      simp [list?, item, items]

theorem mapM_perm {α β : Type} {f : α → Option β} {l l' : List α} (order : l.Perm l') {a : List β}
    (h : l.mapM f = some a) : ∃ a', l'.mapM f = some a' ∧ a.Perm a' := by
  induction order generalizing a with
  | nil => exact ⟨a, h, .refl a⟩
  | cons x _ ih =>
    simp only [List.mapM_cons, Option.bind_eq_bind, Option.bind_eq_some_iff, Option.pure_def,
      Option.some.injEq] at h
    obtain ⟨b, first, rest, others, rfl⟩ := h
    obtain ⟨rest', others', same⟩ := ih others
    exact ⟨b :: rest', by simp [first, others'], same.cons b⟩
  | swap x y l =>
    simp only [List.mapM_cons, Option.bind_eq_bind, Option.bind_eq_some_iff, Option.pure_def,
      Option.some.injEq] at h
    obtain ⟨b, first, _, ⟨c, second, rest, others, rfl⟩, rfl⟩ := h
    exact ⟨c :: b :: rest, by simp [first, second, others], .swap c b rest⟩
  | trans _ _ ih ih' =>
    obtain ⟨b, read, same⟩ := ih h
    obtain ⟨c, read', same'⟩ := ih' read
    exact ⟨c, read', same.trans same'⟩

/-- Of an object without inner objects, only the order of the fields may change. -/
theorem Reordered.eq_of_leaves {fields listed : List (String × Json)} (h : List.Forall₂ Field fields listed)
    (leaves : ∀ f ∈ fields, f.2.isLeaf = true) : listed = fields := by
  induction h with
  | nil => rfl
  | cons here _ ih =>
    obtain ⟨leaf, leaves⟩ := List.forall_mem_cons.1 leaves
    rw [ih leaves, Prod.ext here.1 (here.2.eq_of_isLeaf leaf)]

theorem Reordered.pairs? {α : Type} {read : Json → Option α} {fields : List (String × Json)} {j' : Json}
    (h : Reordered (.obj fields) j') (leaves : ∀ f ∈ fields, f.2.isLeaf = true) {l : List (String × α)}
    (reads : (Json.obj fields).pairs? read = some l) : ∃ l', j'.pairs? read = some l' ∧ l.Perm l' := by
  obtain ⟨listed, fields', rfl, parts, order⟩ := h.of_obj
  rw [eq_of_leaves parts leaves] at order
  exact mapM_perm order reads

end StoryGraph.Json
